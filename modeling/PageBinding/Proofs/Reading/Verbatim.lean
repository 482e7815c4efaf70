import PageBinding.Proofs.Reading.Quoted
import PageBinding.Proofs.Reading.TargetPath

/-!
Selectors and names pass through accessors as they are. In the text of an accessor both are quoted, and
a quoted text is one token whatever it holds, so neither the equals sign of the binding, nor the kind
of its sides, nor the arguments of the accessor are looked for inside. Only bytes that belong to no
character do not pass: a quoted text has a mark for each of them.
-/
namespace PageBinding

open Text

/-! ## Texts made of tokens -/

namespace Token

/-- A token to be written, and the space before it. -/
structure Word where
  gap : List Char
  kind : Kind
  text : String

/-- The word can be read again before a text. -/
def Word.Reads (w : Word) (rest : List Char) : Prop :=
  w.gap.all isSpace = true ∧ ∃ c t, w.text.toList = c :: t ∧ isSpace c = false ∧
    lexeme c (t ++ rest) = .ok ⟨w.kind, c :: t, rest⟩

def written : List Word → List Char
  | [] => []
  | w :: ws => w.gap ++ (w.text.toList ++ written ws)

/-- The words as tokens, from a byte on. -/
def laid (o : Nat) : List Word → List Token
  | [] => []
  | w :: ws =>
      ⟨w.kind, o + byteLength w.gap, w.text⟩ :: laid (o + byteLength w.gap + byteLength w.text.toList) ws

/-- Each word can be read before those that follow it. -/
def Legible : List Word → Prop
  | [] => True
  | w :: ws => w.Reads (written ws) ∧ Legible ws

/-- One character after a word decides that it ends there. -/
theorem Word.Reads.more {w : Word} {c : Char} (h : w.Reads [c]) (rest : List Char) :
    w.Reads (c :: rest) := by
  obtain ⟨blank, d, t, shape, solid, read⟩ := h
  have soft : Softer [c] (c :: rest) := fun e begins => .inl begins
  exact ⟨blank, d, t, shape, solid, lexeme_softer read soft⟩

theorem reads_quote {gap : List Char} (blank : gap.all isSpace = true) (s : String)
    (rest : List Char) : (Word.mk gap .string (Literal.quote s)).Reads rest := by
  have shape : (Literal.quote s).toList = '"' :: (Literal.encode s.toList ++ ['"']) := by
    rw [Literal.quote, String.toList_ofList, Literal.quoteChars]
  refine ⟨blank, '"', _, shape, by decide, ?_⟩
  rw [List.append_assoc, List.singleton_append, lexeme_quote]
  rfl

/-- A text made of words has them as its tokens. -/
theorem scanFrom_written {ws : List Word} (h : Legible ws) (o : Nat) :
    ∃ n, scanFrom o (written ws) = laid o ws ++ [eofAt n] := by
  induction ws generalizing o with
  | nil => exact ⟨o, scanFrom_blank rfl⟩
  | cons w ws ih =>
      obtain ⟨⟨blank, c, t, shape, solid, read⟩, later⟩ := h
      obtain ⟨n, scanned⟩ := ih later (o + byteLength w.gap + byteLength w.text.toList)
      refine ⟨n, ?_⟩
      have first := scanFrom_of_ok (o := o) blank solid read
      rw [← shape, String.ofList_toList] at first
      rw [written, shape]
      exact first.trans (congrArg (_ :: ·) scanned)

end Token

namespace Binding

/-- A token spans its own text. -/
theorem spanned_token {text : String} {ts : List Token} {n : Nat} {t : Token}
    (h : Token.scan text = ts ++ [Token.eofAt n]) (mem : t ∈ ts) :
    spanned text [t] = .chars t.text := by
  obtain ⟨before, after, rfl⟩ := List.append_of_mem mem
  have proper := (Token.scanFrom_proper h).1 t mem
  rw [List.append_assoc, List.cons_append] at h
  obtain ⟨u, x, v, shape, stands, -⟩ := Token.scanFrom_at proper h
  have place : t.offset = byteLength u := by rw [stands.offset, Nat.zero_add]
  have size : t.text.utf8ByteSize = byteLength x := by rw [stands.text, utf8ByteSize_ofList]
  show RawText.chars (String.ofList (sliceBytes t.offset (t.offset + t.text.utf8ByteSize) text.toList)) =
    .chars t.text
  rw [shape, place, size, sliceBytes, dropBytes_append, Nat.add_sub_cancel_left, takeBytes_append,
    stands.text]

/-! ## The text of an accessor -/

variable (fn : String) (sel : RawText) (name : String) (whole : Bool)

def accessorText : String :=
  fn ++ "(" ++ Literal.quoteRaw sel ++ ", " ++ Literal.quote name ++ ", " ++ toString whole ++ ")"

def accessorWords : List Token.Word :=
  [⟨[], .identifier, fn⟩, ⟨[], .leftParen, "("⟩, ⟨[], .string, Literal.quoteRaw sel⟩, ⟨[], .comma, ","⟩,
    ⟨[' '], .string, Literal.quote name⟩, ⟨[], .comma, ","⟩, ⟨[' '], .identifier, toString whole⟩,
    ⟨[], .rightParen, ")"⟩]

def accessorTokens : List Token :=
  Token.laid 0 (accessorWords fn sel name whole)

theorem toList_accessorText :
    (accessorText fn sel name whole).toList = Token.written (accessorWords fn sel name whole) := by
  simp [accessorText, accessorWords, Token.written]

variable {fn}

theorem legible_accessorWords (isFn : fn = "attr" ∨ fn = "prop") :
    Token.Legible (accessorWords fn sel name whole) := by
  have first : (Token.Word.mk [] .identifier fn).Reads ['('] := by
    rcases isFn with rfl | rfl
    · exact ⟨rfl, 'a', ['t', 't', 'r'], by decide, by decide, rfl⟩
    · exact ⟨rfl, 'p', ['r', 'o', 'p'], by decide, by decide, rfl⟩
  have flag : (Token.Word.mk [' '] .identifier (toString whole)).Reads [')'] := by
    cases whole with
    | false => exact ⟨rfl, 'f', ['a', 'l', 's', 'e'], by decide, by decide, rfl⟩
    | true => exact ⟨rfl, 't', ['r', 'u', 'e'], by decide, by decide, rfl⟩
  have paren (rest : List Char) : (Token.Word.mk [] .leftParen "(").Reads rest :=
    ⟨rfl, '(', [], by decide, by decide, rfl⟩
  have comma (rest : List Char) : (Token.Word.mk [] .comma ",").Reads rest :=
    ⟨rfl, ',', [], by decide, by decide, rfl⟩
  have close (rest : List Char) : (Token.Word.mk [] .rightParen ")").Reads rest :=
    ⟨rfl, ')', [], by decide, by decide, rfl⟩
  exact ⟨first.more _, paren _, Token.reads_quote rfl _ _, comma _, Token.reads_quote rfl _ _, comma _,
    flag.more _, close _, trivial⟩

theorem scan_accessorText (isFn : fn = "attr" ∨ fn = "prop") :
    ∃ n, Token.scan (accessorText fn sel name whole) =
      accessorTokens fn sel name whole ++ [Token.eofAt n] := by
  rw [Token.scan, toList_accessorText]
  exact Token.scanFrom_written (legible_accessorWords sel name whole isFn) 0

theorem isSide_accessorText (isFn : fn = "attr" ∨ fn = "prop") :
    IsSide (accessorText fn sel name whole) (accessorTokens fn sel name whole) := by
  have some : accessorTokens fn sel name whole ≠ [] := by
    simp [accessorTokens, accessorWords, Token.laid]
  refine ⟨⟨fun d begins => ?_, fun d ends => ?_⟩, scan_accessorText sel name whole isFn, some⟩
  · rw [toList_accessorText] at begins
    rcases isFn with rfl | rfl <;> cases begins <;> decide
  · have last : ")".toList = [')'] := rfl
    rw [accessorText, String.toList_append, last, List.getLast?_concat] at ends
    cases ends
    decide

theorem classify_accessorText (isFn : fn = "attr" ∨ fn = "prop") :
    Side.classify (accessorText fn sel name whole) = markerSide fn := by
  obtain ⟨n, scanned⟩ := scan_accessorText sel name whole isFn
  rw [Side.classify, scanned, Side.ofTokens_append_eof]
  rcases isFn with rfl | rfl
  · rfl
  · cases whole <;> rfl

variable {sel name}

theorem locator_quote (text : String) (notBlank : trimBlank sel.toText.toList ≠ []) (o : Nat) :
    locator (.chars text) fn [⟨.string, o, Literal.quoteRaw sel⟩] whole =
      .ok (.find sel.toText whole) := by
  have read : unquoted (.chars text) ⟨.string, o, Literal.quoteRaw sel⟩ = .ok (.chars sel.toText) :=
    unquoted_quote text sel.toText o
  rw [locator, if_pos rfl, read]
  exact if_neg notBlank

theorem accessorName_quote {text : String}
    (valid : (if fn = "prop" then isPropName name else isAttrName name) = true)
    (free : reserved ∉ Store.keys name) (o : Nat) :
    accessorName text fn [⟨.string, o, Literal.quote name⟩] = .ok name := by
  have said : argumentText text [⟨.string, o, Literal.quote name⟩] = .ok (.chars name) := by
    rw [argumentText, if_pos rfl, unquoted_quote]
  refine accessorName_ok.2 ⟨⟨_, said, rfl⟩, valid, ?_⟩
  rw [Bool.eq_false_iff, ne_eq, List.contains_iff_mem]
  intro mem
  exact free (List.mem_map.2 ⟨_, mem, String.ofList_toList⟩)

theorem asksForDocument_toString {text : RawText} {arg : List Token}
    (spans : spanned text arg = .chars (toString whole)) : asksForDocument text arg = whole := by
  rw [asksForDocument, spans]
  cases whole <;> decide

theorem arguments_three {start a b c comma comma' close : Token} (string : a.kind = .string)
    (isComma : comma.kind = .comma) (string' : b.kind = .string) (isComma' : comma'.kind = .comma)
    (word : c.kind = .identifier) (closes : close.kind = .rightParen) (rest : List Token) :
    arguments fn start 0 [] (a :: comma :: b :: comma' :: c :: close :: rest) =
      .ok ([[a], [b], [c]], rest) := by
  simp [arguments, string, isComma, string', isComma', word, closes]

theorem accessorOf_three {text : RawText} {start a b c : Token} {found : Accessor}
    (element : locator text fn [a] (asksForDocument text [c]) = .ok found.element)
    (named : accessorName text fn [b] = .ok found.name) :
    accessorOf text fn start [[a], [b], [c]] = .ok found :=
  accessorOf_ok.2 ⟨by simp, by simp, by simp [firstEmpty], element, named⟩

/-- The accessor is read with the selector, the name and the flag that its text was made from. -/
theorem accessor_accessorText (isFn : fn = "attr" ∨ fn = "prop") (notBlank : trimBlank sel.toText.toList ≠ [])
    (valid : (if fn = "prop" then isPropName name else isAttrName name) = true)
    (free : reserved ∉ Store.keys name) (stop : Nat) (rest : List Token) :
    accessor (accessorText fn sel name whole) fn stop (accessorTokens fn sel name whole ++ rest) =
      .ok (⟨.find sel.toText whole, name⟩, rest) := by
  obtain ⟨n, scanned⟩ := scan_accessorText sel name whole isFn
  obtain ⟨o₁, o₂, o₃, o₄, o₅, o₆, o₇, o₈, shape⟩ : ∃ o₁ o₂ o₃ o₄ o₅ o₆ o₇ o₈,
      accessorTokens fn sel name whole = [⟨.identifier, o₁, fn⟩, ⟨.leftParen, o₂, "("⟩,
        ⟨.string, o₃, Literal.quoteRaw sel⟩, ⟨.comma, o₄, ","⟩, ⟨.string, o₅, Literal.quote name⟩,
        ⟨.comma, o₆, ","⟩, ⟨.identifier, o₇, toString whole⟩, ⟨.rightParen, o₈, ")"⟩] :=
    ⟨_, _, _, _, _, _, _, _, rfl⟩
  rw [shape] at scanned ⊢
  have element : locator (accessorText fn sel name whole) fn [⟨.string, o₃, Literal.quoteRaw sel⟩]
      (asksForDocument (accessorText fn sel name whole) [⟨.identifier, o₇, toString whole⟩]) =
        .ok (.find sel.toText whole) := by
    rw [asksForDocument_toString whole (spanned_token scanned (by simp))]
    exact locator_quote whole _ notBlank o₃
  exact accessor_ok.2 ⟨_, _, _, _, rfl, rfl, rfl, rfl, arguments_three rfl rfl rfl rfl rfl rfl rest,
    accessorOf_three element (accessorName_quote valid free o₅)⟩

/-! ## Bindings -/

section
variable (global context : Int) (notBlank : trimBlank sel.toText.toList ≠ [])
  (free : reserved ∉ Store.keys name)
include notBlank free

theorem isTarget_attrText (valid : isAttrName name = true) :
    IsTarget (sideSetting (accessorText "attr" sel name whole) global context) []
      (accessorTokens "attr" sel name whole) (.setAttr (.var "el0") name .placeholder)
      [.lookup "el0" sel.toText whole] := by
  let s := sideSetting (accessorText "attr" sel name whole) global context
  have side : s.side = .attr := classify_accessorText sel name whole (.inl rfl)
  have read := accessor_accessorText whole (.inl rfl) notBlank valid free s.stop []
  exact IsTarget.attr (a := []) side read

theorem isTarget_propText (valid : isPropName name = true) :
    IsTarget (sideSetting (accessorText "prop" sel name whole) global context) []
      (accessorTokens "prop" sel name whole) (setMemberPath (.var "el0") name .placeholder)
      [.lookup "el0" sel.toText whole] := by
  let s := sideSetting (accessorText "prop" sel name whole) global context
  have side : s.side = .prop := classify_accessorText sel name whole (.inr rfl)
  have read := accessor_accessorText whole (.inr rfl) notBlank valid free s.stop []
  exact IsTarget.prop (a := []) side read

theorem isExpr_accessorText (isFn : fn = "attr" ∨ fn = "prop")
    (valid : (if fn = "prop" then isPropName name else isAttrName name) = true) (a : List Stmt) :
    let read := accessed (markerSide fn) a ⟨.find sel.toText whole, name⟩
    IsExpr OptionalPath (sideSetting (accessorText fn sel name whole) global context) a
      (accessorTokens fn sel name whole) read.1 read.2 := by
  have side := classify_accessorText sel name whole isFn
  have read := accessor_accessorText whole isFn notBlank valid free
    (accessorText fn sel name whole).utf8ByteSize
  rw [← side]
  exact .plain (.operand (.operand (.access rfl isFn side read)))

end

theorem accessed_find (side : Side) (sel : RawText) (name : String) (whole : Bool) :
    accessed side [] ⟨.find sel whole, name⟩ =
      if side = .attr then
        (.var "attr1", [.lookup "el0" sel whole, .declare "attr1" (.attr (.var "el0") name)])
      else
        (.var "prop1", [.lookup "el0" sel whole, .declare "prop1" (memberPath (.var "el0") name)]) := by
  have first : located [] (.find sel whole) = (.var "el0", [.lookup "el0" sel whole]) := rfl
  unfold accessed
  simp only [first, List.length_singleton]
  rfl

theorem isSide_one : IsSide "1" [⟨.number, 0, "1"⟩] := by
  have legible : Token.Legible [⟨[], .number, "1"⟩] :=
    ⟨⟨rfl, '1', [], rfl, by decide, rfl⟩, trivial⟩
  obtain ⟨n, scanned⟩ := Token.scanFrom_written legible 0
  exact ⟨Token.solid_singleton (by decide), ⟨n, scanned⟩, List.cons_ne_nil _ _⟩

theorem isExpr_one (s : Setting) (a : List Stmt) :
    IsExpr OptionalPath s a [⟨.number, 0, "1"⟩] (.lit "1" (.number 1)) a :=
  .plain (.operand (.operand (.number rfl rfl)))

/-- The text of an accessor has no equals sign outside of its strings. -/
theorem accessorTokens_noSign : ∀ t ∈ accessorTokens fn sel name whole, t.kind ≠ .assign := by
  simp [accessorTokens, accessorWords, Token.laid]

theorem build_one {global context : Int} {template assign : Stmt} {b : List Stmt}
    (isFn : fn = "attr" ∨ fn = "prop")
    (isTarget : IsTarget (sideSetting (accessorText fn sel name whole) global context) []
      (accessorTokens fn sel name whole) template b)
    (filled : template.fill? (.lit "1" (.number 1)) = some assign) :
    (build global context (accessorText fn sel name whole ++ " = 1" : String)).result = .ok
      ⟨b, some assign⟩ := by
  have cut : " = 1" = " = " ++ "1" := rfl
  rw [cut, ← String.append_assoc]
  exact build_joined (isSide_accessorText sel name whole isFn) isSide_one
    (accessorTokens_noSign whole) isTarget (isExpr_one _ b) filled

/-- A selector that is not blank and the name of an attribute or a property pass through an accessor as
they are, whatever characters they have, but for a mark in place of each byte that belongs to none. On the left of an equals sign the accessor is one lookup of
the selector and an assignment to the name; on the right it is that lookup and a declaration that
reads the name. The name of a property is one member for each of its parts. -/
theorem accessor_verbatim {sel : RawText} {name : String} (whole : Bool) (global context : Int)
    (notBlank : trimBlank sel.toText.toList ≠ []) (free : reserved ∉ Store.keys name) :
    (isAttrName name = true →
      (build global context (accessorText "attr" sel name whole ++ " = 1" : String)).result = .ok
        ⟨[.lookup "el0" sel.toText whole], some (.setAttr (.var "el0") name (.lit "1" (.number 1)))⟩ ∧
      ∀ p ts names, IsSide p ts → Side.classify p = .data → IsDataPath ts names →
        (build global context (p ++ " = " ++ accessorText "attr" sel name whole : String)).result = .ok
          ⟨[.lookup "el0" sel.toText whole, .declare "attr1" (.attr (.var "el0") name)],
            some (.setProperty (.bound context) (joinPath names) (.var "attr1"))⟩) ∧
    (isPropName name = true → ∃ inner last, Store.keys name = inner ++ [last] ∧
      (build global context (accessorText "prop" sel name whole ++ " = 1" : String)).result = .ok
        ⟨[.lookup "el0" sel.toText whole],
          some (.setMember (inner.foldl .member (.var "el0")) last (.lit "1" (.number 1)))⟩ ∧
      ∀ p ts names, IsSide p ts → Side.classify p = .data → IsDataPath ts names →
        (build global context (p ++ " = " ++ accessorText "prop" sel name whole : String)).result = .ok
          ⟨[.lookup "el0" sel.toText whole,
              .declare "prop1" (.member (inner.foldl .member (.var "el0")) last)],
            some (.setProperty (.bound context) (joinPath names) (.var "prop1"))⟩) := by
  constructor
  · intro valid
    have target := isTarget_attrText whole global context notBlank free valid
    refine ⟨build_one whole (.inl rfl) target rfl, ?_⟩
    intro p ts names isSide side path
    have value := isExpr_accessorText whole global context notBlank free (.inl rfl) valid []
    rw [accessed_find] at value
    exact path.build isSide side (isSide_accessorText sel name whole (.inl rfl)) value
  · intro valid
    obtain ⟨inner, last, shape⟩ := exists_last_key name
    have target := isTarget_propText whole global context notBlank free valid
    rw [setMemberPath_of_keys _ _ shape] at target
    refine ⟨inner, last, shape, build_one whole (.inr rfl) target rfl, ?_⟩
    intro p ts names isSide side path
    have value := isExpr_accessorText whole global context notBlank free (.inr rfl) valid []
    rw [accessed_find, memberPath_of_keys _ shape] at value
    exact path.build isSide side (isSide_accessorText sel name whole (.inr rfl)) value

/-- A selector with an equals sign, unbalanced brackets, quotes, a backslash and the marks of all kinds
of sides. -/
theorem accessor_verbatim_marks :
    let sel := "a[b=\"\\=\"], attr(prop('$globals' ]"
    trimBlank sel.toList ≠ [] ∧ reserved ∉ Store.keys "style.x" ∧
      (build 0 1 (accessorText "attr" sel "style.x" true ++ " = 1" : String)).result = .ok
        ⟨[.lookup "el0" sel true], some (.setAttr (.var "el0") "style.x" (.lit "1" (.number 1)))⟩ ∧
      (build 0 1 ("x" ++ " = " ++ accessorText "prop" sel "style.x" true : String)).result = .ok
        ⟨[.lookup "el0" sel true, .declare "prop1" (.member (.member (.var "el0") "style") "x")],
          some (.setProperty (.bound 1) "x" (.var "prop1"))⟩ := by
  intro sel
  have notBlank : trimBlank sel.toList ≠ [] := by decide +kernel
  have keys : Store.keys "style.x" = ["style"] ++ ["x"] := by decide
  have free : reserved ∉ Store.keys "style.x" := by
    rw [keys]
    decide
  have scanned : Token.scan "x" = [⟨.identifier, 0, "x"⟩] ++ [Token.eofAt 1] := by decide +kernel
  have isSide : IsSide "x" [⟨.identifier, 0, "x"⟩] :=
    ⟨Token.solid_singleton (by decide), ⟨1, scanned⟩, List.cons_ne_nil _ _⟩
  have side : Side.classify "x" = .data := by
    rw [Side.classify, scanned]
    decide
  have path : IsDataPath [⟨.identifier, 0, "x"⟩] ["x"] :=
    .path (.last ⟨rfl, by decide⟩) (by decide) (by decide)
  obtain ⟨attr, prop⟩ := @accessor_verbatim (.chars sel) _ true 0 1 notBlank free
  obtain ⟨inner, last, shape, -, read⟩ := prop (by decide)
  obtain ⟨rfl, ended⟩ := List.append_inj' (keys.symm.trans shape) rfl
  cases ended
  exact ⟨notBlank, free, (attr (by decide)).1, read "x" _ _ isSide side path⟩

/-- A selector of one byte that belongs to no character is not the one that is looked up. -/
theorem selector_byte_marked :
    let sel := RawText.ofBytes [0xff]
    trimBlank sel.toText.toList ≠ [] ∧
      (build 0 1 (accessorText "attr" sel "b" true ++ " = 1" : String)).result = .ok
        ⟨[.lookup "el0" "\ufffd" true], some (.setAttr (.var "el0") "b" (.lit "1" (.number 1)))⟩ ∧
      sel ≠ "\ufffd" := by
  intro sel
  have marked : sel.toText = "\ufffd" := by decide +kernel
  have notBlank : trimBlank sel.toText.toList ≠ [] := by
    rw [marked]
    decide +kernel
  have free : reserved ∉ Store.keys "b" := by decide
  have target := isTarget_attrText true 0 1 notBlank free (by decide)
  rw [marked] at target
  exact ⟨notBlank, build_one true (.inl rfl) target rfl, by decide +kernel⟩

end Binding

end PageBinding
