import PageBinding.Proofs.Number.Spelling
import PageBinding.Proofs.Token.Blank
import PageBinding.Run.Eval

/-!
Members by a name in brackets. `x['n']` is `x.n`, whatever `x` is, with one exception: texts and
arrays only look for a position in the brackets, so they do not find their length there.

They miss nothing else, since no name is a position: the names that are read as numbers are those of
infinity and of what is no number.
-/
namespace PageBinding

/-! ## Names as numbers -/

namespace Number

open Text Token

theorem decimal_of_name {c : Char} {cs : List Char} (notDigit : isAsciiDigit c = false)
    (notPoint : c ≠ '.') : magnitude?.decimal (c :: cs) = none := by
  unfold magnitude?.decimal
  by_cases underscore : c = '_'
  · -- the digits may then go on, but a number does not begin with an underscore
    subst underscore
    have bad : underscoresOk false .none ('_' :: cs) = false := rfl
    rw [bad]
    cases mantissa? isAsciiDigit ('_' :: cs) <;> rfl
  · have stops : Stops inRun (c :: cs) := by
      apply stops_cons
      simp [inRun, notDigit, underscore]
    have noDigits : mantissa? isAsciiDigit ([] ++ c :: cs) = none :=
      mantissa?_whole rfl stops fun _ same => notPoint (List.cons.inj same).1
    rw [List.nil_append] at noDigits
    rw [noDigits]
    rfl

theorem read_name {cs : List Char} {x : Float} (name : cs.all Piece.isNameChar = true)
    (starts : Piece.startsName cs = true) (read : Number.read cs = .ok x) :
    x = infinity ∨ x = nan := by
  cases cs with
  | nil => cases starts
  | cons c cs =>
      have isName : Piece.isNameChar c = true := by
        rw [List.all_cons, Bool.and_eq_true] at name
        exact name.1
      have notDigit : isAsciiDigit c = false := by
        rwa [Piece.startsName, Bool.not_eq_true'] at starts
      have ne {d : Char} (other : Piece.isNameChar d = false) : c ≠ d := by
        rintro rfl
        rw [other] at isName
        cases isName
      have notPlus : c ≠ '+' := ne rfl
      have notMinus : c ≠ '-' := ne rfl
      have notPoint : c ≠ '.' := ne rfl
      have notZero : c ≠ '0' := by
        rintro rfl
        cases notDigit
      rcases read_unsigned notPlus notMinus read with named | ⟨magnitude, -⟩
      · exact (named?_unsigned notPlus notMinus named).imp And.left And.left
      · rw [magnitude?_of_ne_zero notZero, decimal_of_name notDigit notPoint] at magnitude
        cases magnitude

theorem not_infinity_lt (x : Float) : ¬ infinity < x := by
  show ¬ Float.lt infinity x = true
  unfold Float.lt
  rw [decide_eq_true_iff]
  show ¬ Float.Model.UnpackedFloat.lt infinity.toModel.unpack x.toModel.unpack = true
  have infinite : infinity.toModel.unpack = .infinity .positive := rfl
  rw [infinite]
  generalize x.toModel.unpack = y
  cases y with
  | infinity s => cases s <;> decide
  | notANumber => decide
  | zero s => cases s <;> decide
  | finite s m e pos =>
      have notLess : Float.Model.UnpackedFloat.lt (.infinity .positive) (.finite s m e pos) =
          false := rfl
      rw [notLess]
      exact Bool.false_ne_true

end Number

namespace Value

open Text

theorem toNumber_name {n : String} (name : (Piece.member n).Valid) :
    (string n).toNumber = Number.infinity ∨ (string n).toNumber = Number.nan := by
  have some : n.toList ≠ [] := by
    intro empty
    have starts := name.2
    rw [empty] at starts
    cases starts
  have solid : Token.Solid n.toList := Token.solid_of_all fun d mem =>
    Token.not_isBlank_nameChar (List.all_eq_true.1 name.1 d mem)
  show numberOfText n = _ ∨ numberOfText n = _
  unfold numberOfText
  rw [Token.trimBlank_of_solid some solid]
  split
  · rename_i empty
    exact absurd empty some
  · split
    · rename_i read
      exact Number.read_name name.1 name.2 read
    · exact .inr rfl

/-- No name is a position. -/
theorem position?_name {n : String} (name : (Piece.member n).Valid) (length : Nat) :
    (string n).position? length = none := by
  unfold position?
  dsimp only
  rcases toNumber_name name with infinite | none
  · rw [infinite]
    refine if_neg ?_
    rw [Bool.and_eq_true, decide_eq_true_iff]
    intro within
    exact Number.not_infinity_lt _ within.2
  · rw [none]
    have notWhole : (Number.nan == Number.truncate Number.nan) = false := rfl
    simp [notWhole]

/-- The length of a text or an array. -/
def length? (v : Value) : Option Nat :=
  match v.inCharacters with
  | string s => some s.length
  | array items => some items.length
  | _ => none

end Value

/-! ## Members -/

namespace World

variable (w : World) {v : Value} {length : Nat}

theorem getIndex_of_length {n : String} (name : (Piece.member n).Valid)
    (long : v.length? = some length) : w.getIndex v (.string n) = .ok .undefined := by
  unfold Value.length? at long
  unfold getIndex
  split at long
  · rename_i isText
    simp only [isText, Value.position?_name name]
  · rename_i isArray
    simp only [isArray, Value.position?_name name]
    rfl
  · cases long

theorem member?_of_length (n : String) (long : v.length? = some length) :
    w.member? v n = if n = "length" then some (.ofNat length) else none := by
  unfold Value.length? at long
  unfold member?
  split at long
  · rename_i isText
    cases long
    simp only [isText]
  · rename_i isArray
    cases long
    simp only [isArray]
  · cases long

theorem getMember_of_length (n : String) (long : v.length? = some length) :
    w.getMember v n = .ok (if n = "length" then .ofNat length else .undefined) := by
  have isSome : ¬ v.isNullish = true := by
    cases v with
    | null => cases long
    | undefined => cases long
    | _ => exact Bool.false_ne_true
  rw [getMember, if_neg isSome, member?_of_length w n long]
  split <;> rfl

theorem getIndex_of_no_length (n : String) (short : v.length? = none) :
    w.getIndex v (.string n) = w.getMember v n := by
  cases v with
  | string s => cases short
  | bytes bs => cases short
  | array items => cases short
  | _ => rfl

end World

namespace Expr

variable {n : String}

/-- For every expression and every name, the member in brackets and the one after a dot have the
same value or the same error, unless the name is that of the length and the expression is a text or
an array: then the length is found after the dot only. -/
theorem eval_computed_member (w : World) (f : Frame) (locals : Locals) (x : Expr) (text : String)
    {stop : Nat} (isName : Token.scan n = [⟨.identifier, 0, n⟩, Token.eofAt stop]) :
    ((index x (lit text (.string n))).eval w f locals = (member x n).eval w f locals ↔
        ∀ v, x.eval w f locals = .ok v → v.length? = none ∨ n ≠ "length") ∧
      ∀ v length, x.eval w f locals = .ok v → v.length? = some length → n = "length" →
        (index x (lit text (.string n))).eval w f locals = .ok .undefined ∧
          (member x n).eval w f locals = .ok (.ofNat length) := by
  have name : (Piece.member n).Valid := by
    have mem : (⟨.identifier, 0, n⟩ : Token) ∈ Token.scan n := by simp [isName]
    exact (Token.scanFrom_plain 0 n.toList _ mem).1 rfl
  have computed : (index x (lit text (.string n))).eval w f locals =
      x.eval w f locals >>= fun v => w.getIndex v (.string n) := rfl
  have dotted : (member x n).eval w f locals =
      x.eval w f locals >>= fun v => w.getMember v n := rfl
  rw [computed, dotted]
  cases x.eval w f locals with
  | error e => exact ⟨⟨nofun, fun _ => rfl⟩, nofun⟩
  | ok v =>
      show (w.getIndex v (.string n) = w.getMember v n ↔ _) ∧ ∀ u length, _ → _ → _ →
        w.getIndex v (.string n) = _ ∧ w.getMember v n = _
      cases long : v.length? with
      | none =>
          refine ⟨⟨?_, ?_⟩, ?_⟩
          · rintro - u ⟨⟩
            exact .inl long
          · intro _
            exact w.getIndex_of_no_length n long
          · rintro u length ⟨⟩ same
            rw [long] at same
            cases same
      | some length =>
          rw [w.getIndex_of_length name long, w.getMember_of_length n long]
          refine ⟨⟨?_, ?_⟩, ?_⟩
          · rintro same u ⟨⟩
            refine .inr fun isLength => ?_
            rw [if_pos isLength] at same
            cases same
          · intro other
            rcases other v rfl with short | notLength
            · rw [long] at short
              cases short
            · rw [if_neg notLength]
          · rintro u length' ⟨⟩ same isLength
            rw [long] at same
            cases same
            exact ⟨rfl, by rw [if_pos isLength]⟩

/-- A name that is read as a number, asked of an array. -/
theorem eval_computed_member_infinity :
    let items : Expr := lit "" (.array [.null, .undefined])
    Token.scan "Infinity" = [⟨.identifier, 0, "Infinity"⟩, Token.eofAt 8] ∧
      ∀ (w : World) (f : Frame), (index items (lit "'Infinity'" (.string "Infinity"))).eval w f [] =
        (member items "Infinity").eval w f [] := by
  have isName : Token.scan "Infinity" = [⟨.identifier, 0, "Infinity"⟩, Token.eofAt 8] := by
    decide +kernel
  refine ⟨isName, fun w f => ?_⟩
  exact (eval_computed_member w f [] _ "'Infinity'" isName).1.2 fun _ _ => .inr (by decide)

/-- A text has a length, but not in brackets. -/
theorem length_missing_in_brackets :
    let text : Expr := lit "'abc'" (.string "abc")
    Token.scan "length" = [⟨.identifier, 0, "length"⟩, Token.eofAt 6] ∧
      ∀ (w : World) (f : Frame),
        (index text (lit "'length'" (.string "length"))).eval w f [] = .ok .undefined ∧
          (member text "length").eval w f [] = .ok (.ofNat 3) ∧
          (index text (lit "'length'" (.string "length"))).eval w f [] ≠
            (member text "length").eval w f [] := by
  have name : (Piece.member "length").Valid := by decide +kernel
  refine ⟨by decide +kernel, fun w f => ?_⟩
  have computed : (index (lit "'abc'" (.string "abc")) (lit "'length'" (.string "length"))).eval w f
      [] = .ok .undefined := w.getIndex_of_length (v := .string "abc") name rfl
  have dotted : (member (lit "'abc'" (.string "abc")) "length").eval w f [] = .ok (.ofNat 3) := rfl
  refine ⟨computed, dotted, ?_⟩
  rw [computed, dotted]
  exact nofun

end Expr

end PageBinding
