import PageBinding.Program.Printer
import PageBinding.Proofs.Text.Cut

/-!
The source of a program as a sequence of pieces: names, literals, signs. Pieces are written one
after the other, mostly without a blank between them. A sequence is legible if no piece goes on into
the next; then the text that it is written as belongs to no other legible sequence.
-/
namespace PageBinding

open Text

/-- A piece of source text. -/
inductive Piece
  /-- A number as it is spelled. -/
  | number (text : String)
  /-- A quoted text. -/
  | string (s : String)
  /-- A name, or a constant that is a word. -/
  | word (text : String)
  /-- A call that reads a path of the data store, or the beginning of one that writes to a path: its
  value and a parenthesis follow. -/
  | access (write : Bool) (id : Int) (path : String)
  /-- A parenthesis, a bracket or a comma. -/
  | mark (text : String)
  /-- A sign between two parts, with blanks around it. -/
  | joint (text : String)
  /-- An operator before its operand, possibly with a blank after it. -/
  | sign (op : UnaryOp) (apart : Bool)
  /-- A dot and the name of a member. -/
  | member (name : String)
  /-- The beginning of a statement that gives a name. -/
  | naming
  deriving DecidableEq

namespace Piece

/-- The call that reads or writes a path, up to the path's context. -/
def accessStart (write : Bool) : List Char :=
  (if write then "await setProperty(" else "await getProperty(").toList

/-- What stands after the path: the end of a call that reads, or a comma before the value. -/
def accessEnd (write : Bool) : List Char :=
  (if write then ", " else ")").toList

/-- What a piece is written as. -/
def text : Piece → List Char
  | number text => text.toList
  | string s => Literal.quoteChars s.toList
  | word text => text.toList
  | access write id path =>
    accessStart write ++ ((toString id).toList ++ ',' :: ' ' ::
      (Literal.quoteChars path.toList ++ accessEnd write))
  | mark text => text.toList
  | joint text => ' ' :: (text.toList ++ [' '])
  | sign op apart => op.spelling.toList ++ if apart then [' '] else []
  | member name => '.' :: name.toList
  | naming => ['c', 'o', 'n', 's', 't', ' ']

/-- The characters of numbers. -/
def isNumeral (c : Char) : Bool :=
  isAsciiDigit c || oneOf ".eE+-" c

/-- The characters of the names of members. -/
def isNameChar (c : Char) : Bool :=
  c = '$' || Token.isWordChar c

/-- A digit, or a point and a digit. -/
def startsNumber : List Char → Bool
  | '.' :: cs => Token.startsWithDigit cs
  | cs => Token.startsWithDigit cs

/-- Something other than a digit. -/
def startsName : List Char → Bool
  | c :: _ => !isAsciiDigit c
  | [] => false

/-- A letter. -/
def startsWord : List Char → Bool
  | c :: _ => c.isAlpha
  | [] => false

/-- Pieces whose parts are what they are meant to be. -/
def Valid : Piece → Prop
  | number text => text.toList.all isNumeral = true ∧ startsNumber text.toList = true
  | word text =>
    text.toList.all Char.isAlphanum = true ∧ startsWord text.toList = true ∧ text ≠ "await" ∧
      text ≠ "const"
  | mark text => text ∈ ["(", ")", "[", "]", ", "]
  | joint text => text.toList.all (fun c => c ≠ ' ' && !isLineEnd c) = true
  | sign op _ => op ∈ [.not, .minus, .plus]
  | member name => name.toList.all isNameChar = true ∧ startsName name.toList = true
  | _ => True

instance (p : Piece) : Decidable p.Valid :=
  match p with
  | number _ => inferInstanceAs (Decidable (_ ∧ _))
  | word _ => inferInstanceAs (Decidable (_ ∧ _ ∧ _ ∧ _))
  | mark text => inferInstanceAs (Decidable (text ∈ ["(", ")", "[", "]", ", "]))
  | joint _ => inferInstanceAs (Decidable (_ = true))
  | sign op _ => inferInstanceAs (Decidable (op ∈ [.not, .minus, .plus]))
  | member _ => inferInstanceAs (Decidable (_ ∧ _))
  | string _ | access _ _ _ | naming => inferInstanceAs (Decidable True)

theorem mark_cases {text : String} (valid : (mark text).Valid) :
    text = "(" ∨ text = ")" ∨ text = "[" ∨ text = "]" ∨ text = ", " := by
  simpa only [Valid, List.mem_cons, List.not_mem_nil, or_false] using valid

theorem sign_cases {op : UnaryOp} {apart : Bool} (valid : (sign op apart).Valid) :
    op = .not ∨ op = .minus ∨ op = .plus := by
  simpa only [Valid, List.mem_cons, List.not_mem_nil, or_false] using valid

/-- A piece does not go on into the text after it. -/
def Fits (rest : List Char) : Piece → Prop
  | number _ => Token.Stops isNumeral rest
  | word _ => Token.Stops Char.isAlphanum rest
  | sign _ false => Token.Stops (fun c => c = ' ') rest
  | member _ => Token.Stops isNameChar rest
  | _ => True

theorem fits_nil (p : Piece) : p.Fits [] := by
  cases p with
  | sign op apart => cases apart <;> simp [Fits, Token.Stops]
  | _ => simp [Fits, Token.Stops]

/-! ## The kind of the piece at the head of a text -/

/-- What a piece is. -/
inductive Kind
  | number | string | word | access | mark | joint | sign | member | naming
  deriving DecidableEq

/-- What a piece is. -/
def kind : Piece → Kind
  | number _ => .number
  | string _ => .string
  | word _ => .word
  | access _ _ _ => .access
  | mark _ => .mark
  | joint _ => .joint
  | sign _ _ => .sign
  | member _ => .member
  | naming => .naming

/-- What a text that begins with a letter begins with. -/
def kindOfWord (word : List Char) : Kind :=
  if word = "await".toList then .access
  else if word = "const".toList then .naming
  else .word

/-- What a text that begins with neither a letter nor a digit begins with. -/
def kindOfSign (c : Char) (cs : List Char) : Kind :=
  match c with
  | '"' => .string
  | '.' => if Token.startsWithDigit cs then .number else .member
  | ' ' => .joint
  | '+' | '-' | '!' => .sign
  | _ => .mark

/-- What a text begins with. -/
def kindAt : List Char → Kind
  | [] => .word
  | c :: cs =>
    if isAsciiDigit c then .number
    else if c.isAlpha then kindOfWord (Token.run Char.isAlphanum (c :: cs)).1
    else kindOfSign c cs

theorem kindAt_number {cs : List Char} (start : startsNumber cs = true) (rest : List Char) :
    kindAt (cs ++ rest) = .number := by
  unfold startsNumber at start
  split at start
  · rename_i digits
    cases digits with
    | nil => cases start
    | cons d ds =>
      have digit : isAsciiDigit d = true := start
      show (if isAsciiDigit d then Kind.number else .member) = .number
      rw [if_pos digit]
  · cases cs with
    | nil => cases start
    | cons c cs =>
      have digit : isAsciiDigit c = true := start
      rw [List.cons_append, kindAt, if_pos digit]

theorem not_isAsciiDigit_of_isAlpha {c : Char} (letter : c.isAlpha = true) :
    isAsciiDigit c = false := by
  have asNumbers : c.isAlpha = true → ¬ (48 ≤ c.val.toNat ∧ c.val.toNat ≤ 57) := by
    delta Char.isAlpha Char.isUpper Char.isLower
    simp only [Bool.or_eq_true, Bool.and_eq_true, decide_eq_true_eq, ge_iff_le,
      UInt32.le_iff_toNat_le]
    show 65 ≤ c.val.toNat ∧ c.val.toNat ≤ 90 ∨ 97 ≤ c.val.toNat ∧ c.val.toNat ≤ 122 → _
    omega
  refine Bool.eq_false_iff.2 fun digit => asNumbers letter ?_
  simp only [isAsciiDigit, Bool.and_eq_true, decide_eq_true_eq, Char.le_def, UInt32.le_iff_toNat_le] at digit
  exact digit

theorem kindAt_word {cs rest : List Char} (all : cs.all Char.isAlphanum = true)
    (start : startsWord cs = true) (stops : Token.Stops Char.isAlphanum rest) :
    kindAt (cs ++ rest) = kindOfWord cs := by
  have whole := Token.run_of_stops all stops
  cases cs with
  | nil => cases start
  | cons c cs =>
    have letter : c.isAlpha = true := start
    rw [List.cons_append] at whole ⊢
    rw [kindAt, not_isAsciiDigit_of_isAlpha letter, if_neg (by decide), if_pos letter, whole]

theorem kindOfWord_name {text : String} (notAwait : text ≠ "await") (notConst : text ≠ "const") :
    kindOfWord text.toList = .word := by
  have notAwait' : text.toList ≠ "await".toList := fun same => notAwait (String.toList_injective same)
  have notConst' : text.toList ≠ "const".toList := fun same => notConst (String.toList_injective same)
  unfold kindOfWord
  rw [if_neg notAwait', if_neg notConst']

theorem kindAt_member {cs : List Char} (start : startsName cs = true) (rest : List Char) :
    kindAt ('.' :: (cs ++ rest)) = .member := by
  cases cs with
  | nil => cases start
  | cons c cs =>
    have notDigit : isAsciiDigit c = false := by simpa [startsName] using start
    show (if isAsciiDigit c then Kind.number else .member) = .member
    rw [notDigit]
    rfl

/-- The kind of a piece shows at the head of the text that it begins. -/
theorem kindAt_text {p : Piece} {rest : List Char} (valid : p.Valid) (fits : p.Fits rest) :
    kindAt (p.text ++ rest) = p.kind := by
  cases p with
  | number text => exact kindAt_number valid.2 rest
  | string s => rfl
  | word text =>
    obtain ⟨all, start, notAwait, notConst⟩ := valid
    exact (kindAt_word all start fits).trans (kindOfWord_name notAwait notConst)
  | access write id path =>
    have await (rest : List Char) : kindAt ("await".toList ++ ' ' :: rest) = .access :=
      kindAt_word (by decide) (by decide) (Token.stops_cons _ rfl)
    cases write with
    | false => exact await _
    | true => exact await _
  | mark text =>
    obtain rfl | rfl | rfl | rfl | rfl := mark_cases valid <;> rfl
  | joint text => rfl
  | sign op apart =>
    obtain rfl | rfl | rfl := sign_cases valid <;> rfl
  | member name => exact kindAt_member valid.2 rest
  | naming =>
    have const (rest : List Char) : kindAt ("const".toList ++ ' ' :: rest) = .naming :=
      kindAt_word (by decide) (by decide) (Token.stops_cons _ rfl)
    exact const rest

/-! ## One piece at the head of a text -/

section
variable {rest rest' : List Char}

theorem access_cancel {write write' : Bool} {id id' : Int} {path path' : String}
    (same : (access write id path).text ++ rest = (access write' id' path').text ++ rest') :
    access write id path = access write' id' path' ∧ rest = rest' := by
  have head (write : Bool) (id : Int) (path : String) (rest : List Char) :
      ((access write id path).text ++ rest).take 7 =
        (if write then "await s" else "await g").toList := by
    cases write <;> rfl
  obtain rfl : write = write' := by
    have heads := head write id path rest
    rw [same, head] at heads
    revert heads
    cases write <;> cases write' <;> decide
  simp only [text, List.append_assoc, List.append_cancel_left_eq, List.cons_append] at same
  obtain ⟨rfl, afterId⟩ := int_cancel same
  obtain ⟨samePath, afterPath⟩ := Literal.quoteChars_cancel (List.cons.inj afterId).2
  obtain rfl := String.toList_injective samePath
  exact ⟨rfl, List.append_cancel_left afterPath⟩

theorem mark_cancel {text text' : String} (valid : (mark text).Valid) (valid' : (mark text').Valid)
    (same : (mark text).text ++ rest = (mark text').text ++ rest') :
    mark text = mark text' ∧ rest = rest' := by
  obtain rfl | rfl | rfl | rfl | rfl := mark_cases valid <;>
    obtain rfl | rfl | rfl | rfl | rfl := mark_cases valid' <;>
      simp [Piece.text] at same ⊢ <;> exact same

theorem joint_cancel {text text' : String} (valid : (joint text).Valid)
    (valid' : (joint text').Valid) (same : (joint text).text ++ rest = (joint text').text ++ rest') :
    joint text = joint text' ∧ rest = rest' := by
  have noBlank {text : String} (valid : (joint text).Valid) :
      text.toList.all (fun c => c ≠ ' ') = true := by
    rw [List.all_eq_true]
    intro c mem
    exact (Bool.and_eq_true_iff.1 (List.all_eq_true.1 valid c mem)).1
  have stops (rest : List Char) : Token.Stops (fun c => c ≠ ' ') (' ' :: rest) :=
    Token.stops_cons rest rfl
  simp only [Piece.text, List.cons_append, List.append_assoc, List.nil_append, List.cons.injEq,
    true_and] at same
  obtain ⟨sameText, after⟩ :=
    Token.run_cancel (noBlank valid) (noBlank valid') (stops rest) (stops rest') same
  exact ⟨congrArg joint (String.toList_injective sameText), (List.cons.inj after).2⟩

theorem sign_cancel {op op' : UnaryOp} {apart apart' : Bool} (valid : (sign op apart).Valid)
    (valid' : (sign op' apart').Valid) (fits : (sign op apart).Fits rest)
    (fits' : (sign op' apart').Fits rest')
    (same : (sign op apart).text ++ rest = (sign op' apart').text ++ rest') :
    sign op apart = sign op' apart' ∧ rest = rest' := by
  have spelled {op : UnaryOp} {apart : Bool} (valid : (sign op apart).Valid) :
      ∃ c, op.spelling.toList = [c] ∧ UnaryOp.ofSpelling (String.ofList [c]) = op := by
    obtain rfl | rfl | rfl := sign_cases valid
    · exact ⟨'!', rfl, rfl⟩
    · exact ⟨'-', rfl, rfl⟩
    · exact ⟨'+', rfl, rfl⟩
  obtain ⟨c, spelling, rfl⟩ := spelled valid
  obtain ⟨c', spelling', rfl⟩ := spelled valid'
  simp only [text, spelling, spelling', List.cons_append, List.nil_append, List.cons.injEq] at same
  obtain ⟨rfl, same⟩ := same
  cases apart with
  | false =>
    cases apart' with
    | false => exact ⟨rfl, same⟩
    | true =>
      obtain rfl : rest = ' ' :: rest' := same
      cases fits ' ' rfl
  | true =>
    cases apart' with
    | false =>
      obtain rfl : ' ' :: rest = rest' := same
      cases fits' ' ' rfl
    | true => exact ⟨rfl, (List.cons.inj same).2⟩

/-- Equal texts that begin with a piece begin with the same one. -/
theorem cancel {p q : Piece} (valid : p.Valid) (valid' : q.Valid) (fits : p.Fits rest)
    (fits' : q.Fits rest') (same : p.text ++ rest = q.text ++ rest') : p = q ∧ rest = rest' := by
  have kinds : p.kind = q.kind := by
    rw [← kindAt_text valid fits, same, kindAt_text valid' fits']
  cases p with
  | number text =>
    cases q with
    | number text' =>
      obtain ⟨sameText, same⟩ := Token.run_cancel valid.1 valid'.1 fits fits' same
      exact ⟨congrArg number (String.toList_injective sameText), same⟩
    | _ => cases kinds
  | string s =>
    cases q with
    | string s' =>
      obtain ⟨sameText, same⟩ := Literal.quoteChars_cancel same
      exact ⟨congrArg string (String.toList_injective sameText), same⟩
    | _ => cases kinds
  | word text =>
    cases q with
    | word text' =>
      obtain ⟨sameText, same⟩ := Token.run_cancel valid.1 valid'.1 fits fits' same
      exact ⟨congrArg word (String.toList_injective sameText), same⟩
    | _ => cases kinds
  | access write id path =>
    cases q with
    | access write' id' path' => exact access_cancel same
    | _ => cases kinds
  | mark text =>
    cases q with
    | mark text' => exact mark_cancel valid valid' same
    | _ => cases kinds
  | joint text =>
    cases q with
    | joint text' => exact joint_cancel valid valid' same
    | _ => cases kinds
  | sign op apart =>
    cases q with
    | sign op' apart' => exact sign_cancel valid valid' fits fits' same
    | _ => cases kinds
  | member name =>
    cases q with
    | member name' =>
      obtain ⟨sameName, same⟩ :=
        Token.run_cancel valid.1 valid'.1 fits fits' (List.cons.inj same).2
      exact ⟨congrArg member (String.toList_injective sameName), same⟩
    | _ => cases kinds
  | naming =>
    cases q with
    | naming => exact ⟨rfl, List.append_cancel_left same⟩
    | _ => cases kinds

end

theorem text_ne_nil {p : Piece} (valid : p.Valid) : p.text ≠ [] := by
  intro empty
  cases p with
  | number text =>
    have start := valid.2
    rw [show text.toList = [] from empty] at start
    cases start
  | word text =>
    have start := valid.2.1
    rw [show text.toList = [] from empty] at start
    cases start
  | access write id path => cases write <;> cases empty
  | mark text =>
    obtain rfl | rfl | rfl | rfl | rfl := mark_cases valid <;> cases empty
  | sign op apart =>
    obtain rfl | rfl | rfl := sign_cases valid <;> cases empty
  | string s => cases empty
  | joint text => cases empty
  | member name => cases empty
  | naming => cases empty

/-- Every piece is on one line. -/
theorem oneLine {p : Piece} (valid : p.Valid) : OneLine p.text := by
  cases p with
  | number text => exact oneLine_of_all valid.1 (by decide)
  | string s => exact Literal.oneLine_quoteChars _
  | word text => exact oneLine_of_all valid.1 (by decide)
  | access write id path =>
    have inId : OneLine (toString id).toList := oneLine_of_all (int_all id) (by decide)
    have inPath := Literal.oneLine_quoteChars path.toList
    simp only [Piece.text, oneLine_append, oneLine_cons]
    exact ⟨by cases write <;> decide, inId, rfl, rfl, inPath, by cases write <;> decide⟩
  | mark text =>
    obtain rfl | rfl | rfl | rfl | rfl := mark_cases valid <;> decide
  | joint text =>
    have inside : OneLine text.toList := oneLine_of_all valid (by decide)
    simp [Piece.text, inside, isLineEnd]
  | sign op apart =>
    obtain rfl | rfl | rfl := sign_cases valid <;> cases apart <;> decide
  | member name =>
    have inside : OneLine name.toList := oneLine_of_all valid.1 (by decide +kernel)
    simp [Piece.text, inside, isLineEnd]
  | naming => decide

end Piece

/-! ## Sequences -/

/-- What pieces are written as. -/
def render (ps : List Piece) : List Char :=
  ps.flatMap Piece.text

@[simp]
theorem render_nil : render [] = [] := rfl

@[simp]
theorem render_cons (p : Piece) (ps : List Piece) : render (p :: ps) = p.text ++ render ps := rfl

@[simp]
theorem render_append (ps qs : List Piece) : render (ps ++ qs) = render ps ++ render qs :=
  List.flatMap_append

/-- Valid pieces, none of which goes on into the next. -/
def Legible : List Piece → Prop
  | [] => True
  | p :: ps => p.Valid ∧ p.Fits (render ps) ∧ Legible ps

/-- Legible pieces can be told from what they are written as. -/
theorem Legible.eq_of_render {ps qs : List Piece} (h : Legible ps) (h' : Legible qs)
    (same : render ps = render qs) : ps = qs := by
  induction ps generalizing qs with
  | nil =>
    cases qs with
    | nil => rfl
    | cons q qs => exact absurd (List.append_eq_nil_iff.1 same.symm).1 (Piece.text_ne_nil h'.1)
  | cons p ps ih =>
    cases qs with
    | nil => exact absurd (List.append_eq_nil_iff.1 same).1 (Piece.text_ne_nil h.1)
    | cons q qs =>
      obtain ⟨rfl, after⟩ := Piece.cancel h.1 h'.1 h.2.1 h'.2.1 same
      rw [ih h.2.2 h'.2.2 after]

theorem Legible.oneLine {ps : List Piece} (h : Legible ps) : OneLine (render ps) := by
  induction ps with
  | nil => exact oneLine_nil
  | cons p ps ih =>
    rw [render_cons, oneLine_append]
    exact ⟨Piece.oneLine h.1, ih h.2.2⟩

end PageBinding
