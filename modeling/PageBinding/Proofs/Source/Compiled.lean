import PageBinding.Proofs.Reading.Placed
import PageBinding.Proofs.Source.Statement

/-!
What compiling a binding made of characters gives can be written legibly: names and numbers come from
tokens, and the scanner lets only certain characters into them.
-/
namespace PageBinding

open Text

/-! ## Tokens -/

namespace Token

/-- The names and numbers among tokens are written as those of a source. -/
def Plain (t : Token) : Prop :=
  (t.kind = .identifier → (Piece.member t.text).Valid) ∧
    (t.kind = .number → (Piece.number t.text).Valid)

/-- The same of a token that was just read. -/
def Lexeme.Plain (l : Lexeme) : Prop :=
  (l.kind = .identifier → l.text.all Piece.isNameChar = true ∧ Piece.startsName l.text = true) ∧
    (l.kind = .number → l.text.all Piece.isNumeral = true ∧ Piece.startsNumber l.text = true)

theorem Lexeme.Plain.of_kind {l : Lexeme} (notName : l.kind ≠ .identifier)
    (notNumber : l.kind ≠ .number) : l.Plain :=
  ⟨fun isName => absurd isName notName, fun isNumber => absurd isNumber notNumber⟩

theorem all_takeWhile {p q : Char → Bool} (cs : List Char) (sub : ∀ c, p c = true → q c = true) :
    (cs.takeWhile p).all q = true := by
  rw [List.all_eq_true]
  intro c mem
  exact sub c (List.all_eq_true.1 List.all_takeWhile c mem)

theorem isNumeral_of_digit (c : Char) (digit : isAsciiDigit c = true) :
    Piece.isNumeral c = true := by
  rw [Piece.isNumeral, digit, Bool.true_or]

theorem all_numeral (cs : List Char) : (numeral cs).1.all Piece.isNumeral = true := by
  have digits (cs : List Char) : (digits cs).1.all Piece.isNumeral = true :=
    all_takeWhile cs isNumeral_of_digit
  have fraction (cs : List Char) : (fraction cs).1.all Piece.isNumeral = true := by
    unfold fraction
    split
    · rw [List.all_cons, digits]
      rfl
    · rfl
  have sign (cs : List Char) : (sign cs).1.all Piece.isNumeral = true := by
    unfold Token.sign
    split <;> rfl
  have exponent (cs : List Char) : (exponent cs).1.all Piece.isNumeral = true := by
    unfold Token.exponent
    split
    · split
      · rename_i c cs mark
        have isMark : Piece.isNumeral c = true := by
          simp only [Bool.or_eq_true, decide_eq_true_eq] at mark
          obtain rfl | rfl := mark <;> rfl
        show (c :: ((Token.sign cs).1 ++ (Token.digits (Token.sign cs).2).1)).all _ = true
        rw [List.all_cons, List.all_append, isMark, sign, digits]
        rfl
      · rfl
    · rfl
  unfold numeral
  simp only [List.all_append, digits, fraction, exponent, Bool.and_self]

theorem startsNumber_numeral {c : Char} {cs : List Char}
    (start : isAsciiDigit c = true ∨ c = '.' ∧ startsWithDigit cs = true) :
    Piece.startsNumber (numeral (c :: cs)).1 = true := by
  obtain digit | ⟨rfl, after⟩ := start
  · have notPoint : c ≠ '.' := by
      rintro rfl
      cases digit
    simp [numeral, digits, run, digit, Piece.startsNumber, startsWithDigit, notPoint]
  · cases cs with
    | nil => cases after
    | cons d ds =>
      have digit : isAsciiDigit d = true := after
      have notDigit : isAsciiDigit '.' = false := rfl
      simp [numeral, digits, run, notDigit, fraction, digit, Piece.startsNumber, startsWithDigit]

theorem number_plain {c : Char} {cs : List Char} {l : Lexeme} (read : number (c :: cs) = .ok l)
    (start : isAsciiDigit c = true ∨ c = '.' ∧ startsWithDigit cs = true) : l.Plain := by
  have text : l.kind = .number ∧ l.text = (numeral (c :: cs)).1 := by
    unfold number at read
    split at read
    · split at read
      · cases read
      · cases read
        exact ⟨rfl, rfl⟩
    · cases read
      exact ⟨rfl, rfl⟩
  constructor
  · intro isName
    rw [text.1] at isName
    cases isName
  · intro _
    rw [text.2]
    exact ⟨all_numeral _, startsNumber_numeral start⟩

theorem identifier_plain {c : Char} {cs : List Char} {l : Lexeme}
    (read : identifier (c :: cs) = .ok l) (start : c = '$' ∨ isWordChar c = true)
    (notDigit : isAsciiDigit c = false) : l.Plain := by
  have word (c : Char) (isWord : isWordChar c = true) : Piece.isNameChar c = true := by
    rw [Piece.isNameChar, isWord, Bool.or_true]
  unfold identifier at read
  split at read
  · rename_i shape
    cases shape
    split at read
    · cases read
    · cases read
      refine ⟨fun _ => ⟨?_, rfl⟩, fun isNumber => by cases isNumber⟩
      rw [List.all_cons, run, all_takeWhile cs word]
      rfl
  · rename_i notDollar
    cases read
    refine ⟨fun _ => ⟨all_takeWhile _ word, ?_⟩, fun isNumber => by cases isNumber⟩
    have isWord : isWordChar c = true := by
      refine start.resolve_left ?_
      rintro rfl
      exact notDollar cs rfl
    simp [run, isWord, Piece.startsName, notDigit]

theorem operator_plain {c : Char} {cs : List Char} {l : Lexeme} (read : operator c cs = .ok l) :
    l.Plain := by
  unfold operator at read
  split at read
  · cases read
    exact .of_kind nofun nofun
  · cases read

theorem punctuation_plain {c : Char} {kind : Kind} (found : punctuation? c = some kind)
    (text rest : List Char) : (Lexeme.mk kind text rest).Plain := by
  unfold punctuation? at found
  split at found <;> cases found <;> exact .of_kind nofun nofun

theorem lexeme_plain {c : Char} {cs : List Char} {l : Lexeme} (read : lexeme c cs = .ok l) :
    l.Plain := by
  unfold lexeme at read
  split at read
  · split at read
    · cases read
      exact .of_kind nofun nofun
    · cases read
  · split at read
    · rename_i digit
      exact number_plain read (.inl digit)
    · rename_i notDigit
      split at read
      · rename_i point
        split at read
        · rename_i digit
          exact number_plain read (.inr ⟨point, digit⟩)
        · cases read
          exact .of_kind nofun nofun
      · split at read
        · split at read
          · exact operator_plain read
          · cases read
            exact .of_kind nofun nofun
        · split at read
          · exact operator_plain read
          · split at read
            · rename_i start
              simp only [Bool.or_eq_true, decide_eq_true_eq] at start
              exact identifier_plain read start (Bool.eq_false_iff.2 notDigit)
            · split at read
              · rename_i found
                cases read
                exact punctuation_plain found _ _
              · split at read
                · cases read
                  exact .of_kind nofun nofun
                · cases read

theorem Lexeme.Plain.token {l : Lexeme} (h : l.Plain) (offset : Nat) :
    (Token.mk l.kind offset (String.ofList l.text)).Plain := by
  have same : (String.ofList l.text).toList = l.text := String.toList_ofList
  constructor
  · intro isName
    have valid := h.1 isName
    rw [← same] at valid
    exact valid
  · intro isNumber
    have valid := h.2 isNumber
    rw [← same] at valid
    exact valid

/-- Every token of a text is written as those of a source. -/
theorem scanFrom_plain (offset : Nat) (cs : List Char) : ∀ t ∈ scanFrom offset cs, t.Plain := by
  fun_induction scanFrom offset cs with
  | case1 =>
    intro t mem
    rw [List.mem_singleton] at mem
    subst mem
    exact ⟨nofun, nofun⟩
  | case2 =>
    intro t mem
    rw [List.mem_singleton] at mem
    subst mem
    exact ⟨nofun, nofun⟩
  | case3 offset cs c rest split start l read ih =>
    intro t mem
    obtain rfl | later := List.mem_cons.1 mem
    · exact (lexeme_plain read).token start
    · exact ih t later

end Token

namespace Assignment

theorem divide_mem {tokens target source : List Token} {sign : Token}
    (found : divide tokens = some (target, sign, source)) :
    (∀ t ∈ target, t ∈ tokens) ∧ ∀ t ∈ source, t ∈ tokens := by
  induction tokens generalizing target with
  | nil => cases found
  | cons t rest ih =>
    unfold divide at found
    split at found
    · cases found
      exact ⟨fun u mem => absurd mem List.not_mem_nil, fun u mem => List.mem_cons_of_mem _ mem⟩
    · obtain ⟨⟨before, sign', after⟩, inRest, same⟩ := Option.map_eq_some_iff.1 found
      cases same
      obtain ⟨first, second⟩ := ih inRest
      refine ⟨fun u mem => ?_, fun u mem => List.mem_cons_of_mem t (second u mem)⟩
      obtain rfl | later := List.mem_cons.1 mem
      · exact List.mem_cons_self
      · exact List.mem_cons_of_mem t (first u later)

/-- The sides of a binding consist of tokens that are written as those of a source. -/
theorem ofText_plain {text : String} {a : Assignment} (cut : ofText text = .ok a) :
    (∀ t ∈ a.target, t.Plain) ∧ ∀ t ∈ a.source, t.Plain := by
  have scanned (t : Token) (mem : t ∈ (Token.scan text).dropLast) : t.Plain :=
    Token.scanFrom_plain 0 text.toList t (List.dropLast_subset _ mem)
  unfold ofText at cut
  split at cut
  · rename_i b found
    cases cut
    simp only [ofTokens] at found
    split at found
    · cases found
    · split at found
      · cases found
      · rename_i divided
        split at found
        · cases found
        · split at found
          · cases found
          · cases found
            obtain ⟨first, second⟩ := divide_mem divided
            exact ⟨fun t mem => scanned t (first t mem), fun t mem => scanned t (second t mem)⟩
  · cases cut

end Assignment

/-! ## Values -/

namespace Binding

open PageBinding.Expr PageBinding.Stmt

variable {marker : MarkerRule} {s : Setting} {context : Int} {text : String}

theorem unquoted_chars {t : Token} {said : RawText} (h : unquoted text t = .ok said) :
    ∃ u : String, said = .chars u := by
  unfold unquoted at h
  split at h
  · rename_i found read
    cases h
    change (Literal.unquote t.text).map RawText.chars = .ok said at read
    cases inside : Literal.unquote t.text with
    | error e =>
      rw [inside] at read
      cases read
    | ok u =>
      rw [inside] at read
      cases read
      exact ⟨u, rfl⟩
  · cases h

theorem printable_word {x : Expr} (text : String) (valid : (Piece.word text).Valid)
    (same : ofWord text = x) : Printable context x :=
  same ▸ .word valid

theorem printable_of_named {name : String} {x : Expr} (found : namedValue? name = some x) :
    Printable context x := by
  unfold namedValue? at found
  repeat' split at found
  all_goals cases found
  · exact printable_word "true" (by decide) rfl
  · exact printable_word "false" (by decide) rfl
  · exact printable_word "null" (by decide) rfl
  · exact printable_word "undefined" (by decide) rfl
  · exact printable_word "event" (by decide) rfl
  · exact .target
  · exact printable_word "element" (by decide) rfl

theorem joint_of_binaryOp {op : BinaryOp} {t : Token} {level : Nat}
    (found : binaryOp? t = some (op, level)) : (Piece.joint op.spelling).Valid := by
  have known := precedence_of_binaryOp found
  cases op with
  | unknown s => cases known
  | _ => decide

mutual

/-- A value of plain tokens can stand in a program. -/
theorem IsExpr.printable (isText : s.text = .chars text) {a b : List Stmt} {ts : List Token}
    {x : Expr} :
    IsExpr marker s a ts x b → (∀ t ∈ ts, t.Plain) → Printable s.context x
  | .plain h, plain => h.printable isText plain
  | .cond c _ t _ e, plain =>
    .cond (c.printable isText fun u mem => plain u (by simp [mem]))
      (t.printable isText fun u mem => plain u (by simp [mem]))
      (e.printable isText fun u mem => plain u (by simp [mem]))

theorem IsBinary.printable (isText : s.text = .chars text) {least : Nat} {a b : List Stmt}
    {ts : List Token} {x : Expr} :
    IsBinary marker s least a ts x b → (∀ t ∈ ts, t.Plain) → Printable s.context x
  | .operand h, plain => h.printable isText plain
  | .apply left found _ right, plain =>
    .binary (joint_of_binaryOp found) (left.printable isText fun u mem => plain u (by simp [mem]))
      (right.printable isText fun u mem => plain u (by simp [mem]))

theorem IsUnary.printable (isText : s.text = .chars text) {a b : List Stmt} {ts : List Token}
    {x : Expr} :
    IsUnary marker s a ts x b → (∀ t ∈ ts, t.Plain) → Printable s.context x
  | .operand h, plain => h.printable isText plain
  | .apply found h, plain =>
    .unary (sign_of_unaryOp found) (h.printable isText fun u mem => plain u (by simp [mem]))

theorem IsOperand.printable (isText : s.text = .chars text) {f : Follow} {a b : List Stmt}
    {ts : List Token} {x : Expr} :
    IsOperand marker s f a ts x b → (∀ t ∈ ts, t.Plain) → Printable s.context x
  | .number kind read, plain => .number ((plain _ (by simp)).2 kind) read
  | .string _ read, _ => by
    rw [isText] at read
    obtain ⟨u, rfl⟩ := unquoted_chars read
    exact .string u
  | .paren _ h _, plain => .paren (h.printable isText fun u mem => plain u (by simp [mem]))
  | .named _ found, _ => printable_of_named found
  | .access _ _ _ _, _ => by
    unfold accessed
    split
    · exact printable_word _ (valid_numbered _ (by decide)) (ofWord_numbered _ _)
    · exact printable_word _ (valid_numbered _ (by decide)) (ofWord_numbered _ _)
  | .global _ _ _ _, _ => .get _ rfl
  | .path _ _, _ => .get _ rfl
  | .method _ _ _ isName args, plain =>
    .call (.get _ rfl) ((plain _ (by simp)).1 isName.1)
      (args.printable isText fun u mem => plain u (by simp [mem]))
  | .member h _ isName, plain =>
    .member (h.printable isText fun u mem => plain u (by simp [mem])) ((plain _ (by simp)).1 isName.1)
  | .call h _ _ isName args, plain =>
    .call (h.printable isText fun u mem => plain u (by simp [mem])) ((plain _ (by simp)).1 isName.1)
      (args.printable isText fun u mem => plain u (by simp [mem]))
  | .index h _ i _, plain =>
    .index (h.printable isText fun u mem => plain u (by simp [mem]))
      (i.printable isText fun u mem => plain u (by simp [mem]))

theorem IsArgs.printable (isText : s.text = .chars text) {a b : List Stmt} {ts : List Token}
    {xs : List Expr} :
    IsArgs marker s a ts xs b → (∀ t ∈ ts, t.Plain) → ∀ x ∈ xs, Printable s.context x
  | .none _ _, _ => nofun
  | .some _ h, plain => h.printable isText fun u mem => plain u (by simp [mem])

theorem IsItems.printable (isText : s.text = .chars text) {a b : List Stmt} {ts : List Token}
    {xs : List Expr} :
    IsItems marker s a ts xs b → (∀ t ∈ ts, t.Plain) → ∀ x ∈ xs, Printable s.context x
  | .last h _, plain => by
    have only := h.printable isText fun u mem => plain u (by simp [mem])
    simpa using only
  | .more h _ tail, plain => by
    have first := h.printable isText fun u mem => plain u (by simp [mem])
    have rest := tail.printable isText fun u mem => plain u (by simp [mem])
    simpa using ⟨first, rest⟩

end

/-! ## Names of properties -/

theorem isWordChar_of_letter {c : Char} (letter : c.isAlpha = true) : Token.isWordChar c = true := by
  delta Char.isAlpha Char.isUpper Char.isLower at letter
  simp only [Bool.or_eq_true, Bool.and_eq_true, decide_eq_true_eq, ge_iff_le,
    UInt32.le_iff_toNat_le] at letter
  have bounds : 65 ≤ c.toNat ∧ c.toNat ≤ 90 ∨ 97 ≤ c.toNat ∧ c.toNat ≤ 122 := letter
  have small : c.toNat < 0x80 := by omega
  simp only [Token.isWordChar, Text.isLetter, if_pos small, Bool.or_eq_true, Bool.and_eq_true,
    decide_eq_true_eq, Char.le_def, UInt32.le_iff_toNat_le]
  exact .inl (.inr bounds.symm)

theorem isWordChar_of_digit {c : Char} (digit : c.isDigit = true) : Token.isWordChar c = true := by
  simp only [Char.isDigit, Bool.and_eq_true, decide_eq_true_eq, ge_iff_le,
    UInt32.le_iff_toNat_le] at digit
  have bounds : 48 ≤ c.toNat ∧ c.toNat ≤ 57 := digit
  have small : c.toNat < 0x80 := by omega
  simp only [Token.isWordChar, Text.isDigit, Text.isAsciiDigit, if_pos small, Bool.or_eq_true,
    Bool.and_eq_true, decide_eq_true_eq, Char.le_def, UInt32.le_iff_toNat_le]
  exact .inr bounds

theorem isNameChar_of_nameLetter {c : Char} (letter : isNameLetter c = true) :
    Piece.isNameChar c = true := by
  rw [isNameLetter, Bool.or_eq_true, decide_eq_true_eq] at letter
  obtain letter | rfl := letter
  · rw [Piece.isNameChar, isWordChar_of_letter letter, Bool.or_true]
  · rfl

theorem valid_segment {cs : List Char} (segment : isPropSegment cs = true) :
    (Piece.member (String.ofList cs)).Valid := by
  have same : (String.ofList cs).toList = cs := String.toList_ofList
  show (String.ofList cs).toList.all Piece.isNameChar = true ∧
    Piece.startsName (String.ofList cs).toList = true
  rw [same]
  cases cs with
  | nil => cases segment
  | cons c cs =>
    rw [isPropSegment, Bool.and_eq_true] at segment
    obtain ⟨first, others⟩ := segment
    have letter (c : Char) (h : (isNameLetter c || c.isDigit || c = '$') = true) :
        Piece.isNameChar c = true := by
      simp only [Bool.or_eq_true, decide_eq_true_eq] at h
      obtain (letter | digit) | rfl := h
      · exact isNameChar_of_nameLetter letter
      · rw [Piece.isNameChar, isWordChar_of_digit digit, Bool.or_true]
      · rfl
    have notDigit : Text.isAsciiDigit c = false := by
      simp only [isNameLetter, Bool.or_eq_true, decide_eq_true_eq] at first
      obtain (letter | rfl) | rfl := first
      · exact Piece.not_isAsciiDigit_of_isAlpha letter
      · rfl
      · rfl
    constructor
    · rw [List.all_cons, Bool.and_eq_true]
      refine ⟨letter c ?_, List.all_eq_true.2 fun d mem => ?_⟩
      · rw [Bool.or_eq_true] at first
        obtain isLetter | isDollar := first
        · rw [isLetter, Bool.true_or, Bool.true_or]
        · rw [isDollar, Bool.or_true]
      · exact letter d (List.all_eq_true.1 others d mem)
    · rw [Piece.startsName, notDigit]
      rfl

theorem valid_keys {path : String} (isPath : isPropName path = true) :
    ∀ key ∈ Store.keys path, (Piece.member key).Valid := by
  intro key mem
  obtain ⟨cs, isSegment, rfl⟩ := List.mem_map.1 mem
  exact valid_segment (List.all_eq_true.1 isPath cs isSegment)

theorem splitOn_ne_nil (separator : Char) (cs : List Char) : Text.splitOn separator cs ≠ [] := by
  cases cs with
  | nil => exact List.cons_ne_nil _ _
  | cons c cs =>
    rw [Text.splitOn]
    repeat' split
    all_goals exact List.cons_ne_nil _ _

/-- An accessor of a property has the path of one. -/
theorem accessor_path {text : RawText} {stop : Nat} {toks rest : List Token} {a : Accessor}
    (h : accessor text "prop" stop toks = .ok (a, rest)) : isPropName a.name = true := by
  obtain ⟨start, paren, more, args, -, -, -, -, -, found⟩ := accessor_ok.1 h
  obtain ⟨-, -, -, -, named⟩ := accessorOf_ok.1 found
  exact (accessorName_ok.1 named).2.1

/-- A locator whose selector, if it has one, consists of characters. -/
def OfChars (locator : Locator) : Prop :=
  ∀ selector whole, locator = .find selector whole → ∃ u : String, selector = .chars u

theorem locator_chars {fn : String} {arg : List Token} {whole : Bool} {found : Locator}
    (h : locator text fn arg whole = .ok found) : OfChars found := by
  unfold locator at h
  split at h
  · split at h
    · split at h
      · cases h
      · rename_i selector read
        split at h
        · cases h
        · cases h
          intro selector' whole' same
          cases same
          exact unquoted_chars read
    · split at h
      · cases h
        nofun
      · cases h
  · cases h

theorem accessor_chars {fn : String} {stop : Nat} {toks rest : List Token} {a : Accessor}
    (h : accessor text fn stop toks = .ok (a, rest)) : OfChars a.element := by
  obtain ⟨start, paren, more, args, -, -, -, -, -, found⟩ := accessor_ok.1 h
  obtain ⟨-, -, -, element, -⟩ := accessorOf_ok.1 found
  exact locator_chars element

/-! ## Setup statements -/

theorem located_owner (a : List Stmt) (locator : Locator) :
    ∃ owner, (Piece.word owner).Valid ∧ (located a locator).1 = ofWord owner := by
  cases locator with
  | self => exact ⟨"element", by decide, rfl⟩
  | find selector whole =>
    exact ⟨"el" ++ toString a.length, valid_numbered _ (by decide), (ofWord_numbered _ _).symm⟩

theorem located_setup {a : List Stmt} {locator : Locator} (before : ∀ st ∈ a, st.IsSetup)
    (chars : OfChars locator) : ∀ st ∈ (located a locator).2, st.IsSetup := by
  cases locator with
  | self => exact before
  | find selector whole =>
    obtain ⟨u, rfl⟩ := chars selector whole rfl
    have last : IsSetup (.lookup ("el" ++ toString a.length) u whole) := .lookup _ _ _
    exact List.forall_mem_append.2 ⟨before, List.forall_mem_singleton.2 last⟩

theorem accessed_setup {side : Side} {a : List Stmt} {found : Accessor}
    (before : ∀ st ∈ a, st.IsSetup) (chars : OfChars found.element)
    (isPath : side ≠ .attr → isPropName found.name = true) :
    ∀ st ∈ (accessed side a found).2, st.IsSetup := by
  have after := located_setup before chars
  obtain ⟨owner, valid, owned⟩ := located_owner a found.element
  unfold accessed
  split
  · refine List.forall_mem_append.2 ⟨after, List.forall_mem_singleton.2 ?_⟩
    rw [owned]
    exact .attr _ _ valid
  · rename_i notAttr
    refine List.forall_mem_append.2 ⟨after, List.forall_mem_singleton.2 ?_⟩
    rw [owned]
    exact .prop _ valid (valid_keys (isPath notAttr))

mutual

/-- Reading a value adds setup statements to those that are there. -/
theorem IsExpr.setup (isText : s.text = .chars text) {a b : List Stmt} {ts : List Token}
    {x : Expr} :
    IsExpr marker s a ts x b → (∀ st ∈ a, st.IsSetup) → ∀ st ∈ b, st.IsSetup
  | .plain h, before => h.setup isText before
  | .cond c _ t _ e, before => e.setup isText (t.setup isText (c.setup isText before))

theorem IsBinary.setup (isText : s.text = .chars text) {least : Nat} {a b : List Stmt}
    {ts : List Token} {x : Expr} :
    IsBinary marker s least a ts x b → (∀ st ∈ a, st.IsSetup) → ∀ st ∈ b, st.IsSetup
  | .operand h, before => h.setup isText before
  | .apply left _ _ right, before => right.setup isText (left.setup isText before)

theorem IsUnary.setup (isText : s.text = .chars text) {a b : List Stmt} {ts : List Token}
    {x : Expr} :
    IsUnary marker s a ts x b → (∀ st ∈ a, st.IsSetup) → ∀ st ∈ b, st.IsSetup
  | .operand h, before => h.setup isText before
  | .apply _ h, before => h.setup isText before

theorem IsOperand.setup (isText : s.text = .chars text) {f : Follow} {a b : List Stmt}
    {ts : List Token} {x : Expr} :
    IsOperand marker s f a ts x b → (∀ st ∈ a, st.IsSetup) → ∀ st ∈ b, st.IsSetup
  | .number _ _, before => before
  | .string _ _, before => before
  | .paren _ h _, before => h.setup isText before
  | .named _ _, before => before
  | .access _ isMarker side read, before => by
    -- only the path of a property becomes part of the source unquoted
    have chars := read []
    rw [isText] at chars
    refine accessed_setup before (accessor_chars chars) fun notAttr => ?_
    obtain isAttr | isProp := isMarker
    · rw [side, isAttr] at notAttr
      exact absurd rfl notAttr
    · rw [isProp] at read
      exact accessor_path (read [])
  | .global _ _ _ _, before => before
  | .path _ _, before => before
  | .method _ _ _ _ args, before => args.setup isText before
  | .member h _ _, before => h.setup isText before
  | .call h _ _ _ args, before => args.setup isText (h.setup isText before)
  | .index h _ i _, before => i.setup isText (h.setup isText before)

theorem IsArgs.setup (isText : s.text = .chars text) {a b : List Stmt} {ts : List Token}
    {xs : List Expr} :
    IsArgs marker s a ts xs b → (∀ st ∈ a, st.IsSetup) → ∀ st ∈ b, st.IsSetup
  | .none _ _, before => before
  | .some _ h, before => h.setup isText before

theorem IsItems.setup (isText : s.text = .chars text) {a b : List Stmt} {ts : List Token}
    {xs : List Expr} :
    IsItems marker s a ts xs b → (∀ st ∈ a, st.IsSetup) → ∀ st ∈ b, st.IsSetup
  | .last h _, before => h.setup isText before
  | .more h _ tail, before => tail.setup isText (h.setup isText before)

end

/-! ## Assignments -/

theorem exists_last_key (path : String) : ∃ keys name, Store.keys path = keys ++ [name] := by
  have someKey : Store.keys path ≠ [] := by
    intro empty
    exact splitOn_ne_nil _ _ (List.map_eq_nil_iff.1 empty)
  obtain ⟨keys, name, shape⟩ := (List.eq_nil_or_concat _).resolve_left someKey
  exact ⟨keys, name, by rw [shape, List.concat_eq_append]⟩

theorem memberPath_of_keys {path name : String} {keys : List String} (x : Expr)
    (shape : Store.keys path = keys ++ [name]) :
    memberPath x path = .member (keys.foldl .member x) name := by
  rw [memberPath, shape, List.foldl_append]
  rfl

theorem setMemberPath_of_keys {path name : String} {keys : List String} (x value : Expr)
    (shape : Store.keys path = keys ++ [name]) :
    setMemberPath x path value = .setMember (keys.foldl .member x) name value := by
  rw [setMemberPath, memberPath_of_keys x shape]

theorem IsTarget.written {a b : List Stmt} {ts : List Token} {template assign : Stmt} {value : Expr}
    (isText : s.text = .chars text) (h : IsTarget s a ts template b) (before : ∀ st ∈ a, st.IsSetup)
    (readable : value.Readable s.context) (filled : template.fill? value = some assign) :
    (∀ st ∈ b, st.IsSetup) ∧ assign.IsAssignment s.context := by
  cases h with
  | @attr _ _ found side read =>
    obtain ⟨owner, valid, owned⟩ := located_owner a found.element
    rw [owned] at filled
    cases filled
    rw [isText] at read
    exact ⟨located_setup before (accessor_chars read), .attr _ valid readable⟩
  | @prop _ _ found side read =>
    obtain ⟨owner, valid, owned⟩ := located_owner a found.element
    have names := valid_keys (accessor_path read)
    obtain ⟨keys, name, shape⟩ := exists_last_key found.name
    rw [owned, setMemberPath_of_keys _ _ shape] at filled
    rw [shape] at names
    cases filled
    rw [isText] at read
    exact ⟨located_setup before (accessor_chars read), .member valid names readable⟩
  | global =>
    cases filled
    exact ⟨before, .property _ rfl readable⟩
  | data =>
    cases filled
    exact ⟨before, .property _ rfl readable⟩

/-- Every statement of a compiled program can be written legibly. -/
theorem build_written {global context : Int} {text : String} {p : Program}
    (h : (build global context text).result = .ok p) :
    (∀ st ∈ p.setup, st.IsSetup) ∧ ∃ assign, p.assign = some assign ∧ assign.IsAssignment context := by
  obtain ⟨template, first, value, ⟨cut, readTarget, readSource⟩, filled, isSome⟩ := build_ok h
  obtain ⟨assign, some⟩ := Option.isSome_iff_exists.1 isSome
  obtain ⟨_, _, isTarget, -⟩ := target_sound readTarget
  obtain ⟨read, -⟩ := source_ok.1 readSource
  obtain ⟨ts, shape, isValue, -⟩ := (sound _ _).expr read
  dsimp only at shape
  have readable : value.Readable context := by
    refine ⟨isValue.printable rfl fun t mem => (Assignment.ofText_plain cut).2 t ?_, isValue.spells⟩
    rw [shape]
    exact List.mem_append_left _ mem
  rw [some] at filled
  obtain ⟨setup, assigns⟩ := isTarget.written rfl nofun readable filled.symm
  exact ⟨isValue.setup rfl setup, assign, some, assigns⟩

end Binding

end PageBinding
