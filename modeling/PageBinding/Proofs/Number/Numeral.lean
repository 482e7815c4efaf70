import PageBinding.Proofs.Number.Decimal
import PageBinding.Proofs.Number.Spelling
import PageBinding.Proofs.Source.Piece
import PageBinding.Proofs.Token.Lookahead

/-!
Decimal literals and the fractions that they denote. Reading a numeral succeeds only on literals whose
whole part is any digits (`exists_spells`), and its result is the floating-point number for what the
literal denotes (`Spells.roundsTo`). A literal of the standard has no digit after a first zero; that is
the only difference (`spells_standard_iff`).
-/
namespace PageBinding.Number

open Text Token

/-! ## Literals -/

def IsDigits (ds : List Char) : Prop :=
  ds ≠ [] ∧ ds.all isAsciiDigit = true

/-- A whole part of the standard: zero alone, or digits that do not begin with zero. -/
def IsStandard (ds : List Char) : Prop :=
  ds = ['0'] ∨ IsDigits ds ∧ ds.head? ≠ some '0'

def valueOf (ds : List Char) : ℕ :=
  Nat.ofDigitChars 10 ds 0

/-- The end of a literal and the power of ten that it multiplies by. -/
inductive Exponent : List Char → ℤ → Prop
  | absent : Exponent [] 0
  | bare {mark : Char} {ds : List Char} : mark = 'e' ∨ mark = 'E' → IsDigits ds →
      Exponent (mark :: ds) (valueOf ds)
  | plus {mark : Char} {ds : List Char} : mark = 'e' ∨ mark = 'E' → IsDigits ds →
      Exponent (mark :: '+' :: ds) (valueOf ds)
  | minus {mark : Char} {ds : List Char} : mark = 'e' ∨ mark = 'E' → IsDigits ds →
      Exponent (mark :: '-' :: ds) (-valueOf ds)

/-- Decimal literals with the fractions that they denote, for a given form of the whole part. -/
inductive Spells (IsWhole : List Char → Prop) : List Char → ℚ → Prop
  | whole {ds tail : List Char} {e : ℤ} : IsWhole ds → Exponent tail e →
      Spells IsWhole (ds ++ tail) (valueOf ds * 10 ^ e)
  | point {ds fs tail : List Char} {e : ℤ} : IsWhole ds → fs.all isAsciiDigit = true →
      Exponent tail e →
      Spells IsWhole (ds ++ '.' :: (fs ++ tail)) ((valueOf ds + valueOf fs / 10 ^ fs.length) * 10 ^ e)
  | fraction {fs tail : List Char} {e : ℤ} : IsDigits fs → Exponent tail e →
      Spells IsWhole ('.' :: (fs ++ tail)) (valueOf fs / 10 ^ fs.length * 10 ^ e)

/-! ## The characters of numerals -/

theorem numeral_mem {c : Char} (h : Piece.isNumeral c = true) : c ∈ "0123456789.eE+-".toList := by
  rw [Piece.isNumeral, Bool.or_eq_true] at h
  rcases h with digit | other
  · simp only [isAsciiDigit, Bool.and_eq_true, decide_eq_true_eq] at digit
    have low : 48 ≤ c.toNat := digit.1
    have high : c.toNat ≤ 57 := digit.2
    have all : ∀ d : Fin 10, Char.ofNat (48 + d) ∈ "0123456789.eE+-".toList := by decide
    have found := all ⟨c.toNat - 48, by omega⟩
    rwa [show 48 + (c.toNat - 48) = c.toNat by omega, Char.ofNat_toNat] at found
  · have sub : ".eE+-".toList ⊆ "0123456789.eE+-".toList := by decide
    exact sub (List.contains_iff_mem.1 other)

theorem numeral_facts {c : Char} (h : Piece.isNumeral c = true) :
    c ≠ '_' ∧ asciiLower c ∉ ['x', 'i', 'n'] ∧ (asciiLower c = 'e' → c = 'e' ∨ c = 'E') := by
  have all : "0123456789.eE+-".toList.all (fun c => decide (c ≠ '_' ∧
      asciiLower c ∉ ['x', 'i', 'n'] ∧ (asciiLower c = 'e' → c = 'e' ∨ c = 'E'))) = true := by
    decide
  exact of_decide_eq_true (List.all_eq_true.1 all c (numeral_mem h))

theorem underscoresOk_numeral {cs : List Char} (all : cs.all Piece.isNumeral = true)
    {last : Neighbour} (ne : (last != .underscore) = true) : underscoresOk false last cs = true := by
  induction cs generalizing last with
  | nil => exact ne
  | cons c cs ih =>
    rw [List.all_cons, Bool.and_eq_true] at all
    unfold underscoresOk
    rw [if_neg (numeral_facts all.1).1]
    split
    · exact ih all.2 rfl
    · rw [ne, Bool.true_and]
      exact ih all.2 rfl

theorem isDigit_of_inRun {c : Char} (numeral : Piece.isNumeral c = true) :
    inRun c = isAsciiDigit c := by
  rw [inRun, beq_eq_false_iff_ne.2 (numeral_facts numeral).1, Bool.or_false]

theorem numeral_of_digits {ds : List Char} (digits : ds.all isAsciiDigit = true) :
    ds.all Piece.isNumeral = true := by
  refine List.all_eq_true.2 fun c mem => ?_
  rw [Piece.isNumeral, List.all_eq_true.1 digits c mem, Bool.true_or]

/-! ## Exponents -/

/-- The exponent at the end of a numeral. -/
def tail? : List Char → Option ℤ
  | [] => some 0
  | mark :: digits => if asciiLower mark = 'e' then exponent? digits else none

/-- An exponent after its sign. -/
def unsigned? (negative : Bool) (ds : List Char) : Option ℤ :=
  match ds with
  | [] => none
  | first :: _ =>
    if !isAsciiDigit first || !ds.all (fun c => isAsciiDigit c || c == '_') then none
    else
      let size := (decimalValue (ds.filter (· != '_')) : ℤ)
      some (if negative then -size else size)

theorem exponent?_bare {c : Char} {ds : List Char} (notPlus : c ≠ '+') (notMinus : c ≠ '-') :
    exponent? (c :: ds) = unsigned? false (c :: ds) := by
  unfold exponent?
  split
  rename_i shape
  split at shape
  · rename_i same
    exact absurd (List.cons.inj same).1 notPlus
  · rename_i same
    exact absurd (List.cons.inj same).1 notMinus
  · cases shape
    rfl

theorem unsigned?_iff (negative : Bool) {ds : List Char} {e : ℤ}
    (all : ds.all Piece.isNumeral = true) :
    unsigned? negative ds = some e ↔
      IsDigits ds ∧ e = if negative then -(valueOf ds : ℤ) else valueOf ds := by
  have run : ds.all (fun c => isAsciiDigit c || c == '_') = ds.all isAsciiDigit := by
    rw [Bool.eq_iff_iff, List.all_eq_true, List.all_eq_true]
    refine forall₂_congr fun c mem => ?_
    have same := isDigit_of_inRun (List.all_eq_true.1 all c mem)
    rw [inRun] at same
    rw [same]
  cases ds with
  | nil => simp [unsigned?, IsDigits]
  | cons c cs =>
    simp only [unsigned?, run]
    by_cases digits : (c :: cs).all isAsciiDigit = true
    · have first : isAsciiDigit c = true := by
        rw [List.all_cons, Bool.and_eq_true] at digits
        exact digits.1
      have value : decimalValue (c :: cs) = valueOf (c :: cs) := rfl
      rw [digits, first, filter_digits digits, value]
      simp [IsDigits, digits, eq_comm]
    · simp [IsDigits, digits]

theorem tail?_of_exponent {tail : List Char} {e : ℤ} (h : Exponent tail e) : tail? tail = some e := by
  have lower {mark : Char} (isMark : mark = 'e' ∨ mark = 'E') : asciiLower mark = 'e' := by
    rcases isMark with rfl | rfl <;> decide
  cases h with
  | absent => rfl
  | @bare mark ds isMark digits =>
    have read := (unsigned?_iff false (numeral_of_digits digits.2)).2 ⟨digits, rfl⟩
    obtain ⟨some, all⟩ := digits
    cases ds with
    | nil => exact absurd rfl some
    | cons c cs =>
      rw [List.all_cons, Bool.and_eq_true] at all
      rw [tail?, if_pos (lower isMark), exponent?_bare ?_ ?_]
      · exact read
      · rintro rfl
        cases all.1
      · rintro rfl
        cases all.1
  | plus isMark digits =>
    rw [tail?, if_pos (lower isMark)]
    exact (unsigned?_iff false (numeral_of_digits digits.2)).2 ⟨digits, rfl⟩
  | minus isMark digits =>
    rw [tail?, if_pos (lower isMark)]
    exact (unsigned?_iff true (numeral_of_digits digits.2)).2 ⟨digits, rfl⟩

theorem exponent_of_tail? {tail : List Char} {e : ℤ} (all : tail.all Piece.isNumeral = true)
    (h : tail? tail = some e) : Exponent tail e := by
  cases tail with
  | nil =>
    cases h
    exact .absent
  | cons mark ds =>
    rw [List.all_cons, Bool.and_eq_true] at all
    rw [tail?] at h
    split at h
    · rename_i lower
      have isMark := (numeral_facts all.1).2.2 lower
      cases ds with
      | nil => cases h
      | cons c cs =>
        by_cases plus : c = '+'
        · subst plus
          rw [List.all_cons, Bool.and_eq_true] at all
          obtain ⟨digits, rfl⟩ := (unsigned?_iff false all.2.2).1 h
          exact .plus isMark digits
        · by_cases minus : c = '-'
          · subst minus
            rw [List.all_cons, Bool.and_eq_true] at all
            obtain ⟨digits, rfl⟩ := (unsigned?_iff true all.2.2).1 h
            exact .minus isMark digits
          · rw [exponent?_bare plus minus] at h
            obtain ⟨digits, rfl⟩ := (unsigned?_iff false all.2).1 h
            exact .bare isMark digits
    · cases h

/-! ## Numerals -/

theorem decimal_eq {cs ds fs tail : List Char} (all : cs.all Piece.isNumeral = true)
    (parts : mantissa? isAsciiDigit cs = some (ds, fs, tail)) :
    magnitude?.decimal cs =
      (tail? tail).map fun e => ofDecimal (valueOf (ds ++ fs)) (e - fs.length) := by
  unfold magnitude?.decimal
  rw [parts, underscoresOk_numeral all rfl]
  cases tail with
  | nil => rfl
  | cons mark digits =>
    show (if asciiLower mark = 'e' then (exponent? digits).bind fun e =>
        some (ofDecimal (valueOf (ds ++ fs)) (e - fs.length)) else none) = _
    rw [tail?]
    split
    · cases exponent? digits <;> rfl
    · rfl

theorem magnitude?_numeral {cs : List Char} (all : cs.all Piece.isNumeral = true) :
    magnitude? cs = magnitude?.decimal cs := by
  unfold magnitude?
  split
  · rename_i x rest
    simp only [List.all_cons, Bool.and_eq_true] at all
    have notHex := (numeral_facts all.2.1).2.1
    rw [if_neg]
    intro hex
    rw [Bool.and_eq_true, decide_eq_true_eq] at hex
    simp [hex.1] at notHex
  · rfl

theorem valueOf_append (ds fs : List Char) :
    valueOf (ds ++ fs) = valueOf ds * 10 ^ fs.length + valueOf fs := by
  rw [valueOf, Nat.ofDigitChars_append, Nat.ofDigitChars_eq_ofDigitChars_zero, Nat.mul_comm]
  rfl

theorem value_parts (ds fs : List Char) (e : ℤ) :
    (valueOf (ds ++ fs) : ℚ) * 10 ^ (e - fs.length) =
      (valueOf ds + valueOf fs / 10 ^ fs.length) * 10 ^ e := by
  rw [valueOf_append, zpow_sub₀ (by norm_num), zpow_natCast]
  push_cast
  field_simp

theorem Exponent.stops {tail : List Char} {e : ℤ} (h : Exponent tail e) :
    Stops inRun tail ∧ ∀ after, tail ≠ '.' :: after := by
  have mark {c : Char} {rest : List Char} (isMark : c = 'e' ∨ c = 'E') :
      Stops inRun (c :: rest) ∧ ∀ after, c :: rest ≠ '.' :: after := by
    rcases isMark with rfl | rfl <;> exact ⟨stops_cons _ rfl, by simp⟩
  cases h with
  | absent => exact ⟨nofun, nofun⟩
  | bare isMark => exact mark isMark
  | plus isMark => exact mark isMark
  | minus isMark => exact mark isMark

theorem Exponent.numeral {tail : List Char} {e : ℤ} (h : Exponent tail e) :
    tail.all Piece.isNumeral = true := by
  have mark {c : Char} (isMark : c = 'e' ∨ c = 'E') : Piece.isNumeral c = true := by
    rcases isMark with rfl | rfl <;> rfl
  cases h with
  | absent => rfl
  | bare isMark digits => rw [List.all_cons, mark isMark, numeral_of_digits digits.2]; rfl
  | plus isMark digits =>
    rw [List.all_cons, List.all_cons, mark isMark, numeral_of_digits digits.2]
    rfl
  | minus isMark digits =>
    rw [List.all_cons, List.all_cons, mark isMark, numeral_of_digits digits.2]
    rfl

variable {cs : List Char} {q : ℚ} {x : Float}

theorem Spells.numeral (h : Spells IsDigits cs q) : cs.all Piece.isNumeral = true := by
  cases h with
  | whole digits exponent =>
    rw [List.all_append, numeral_of_digits digits.2, exponent.numeral]
    rfl
  | point digits fraction exponent =>
    rw [List.all_append, List.all_cons, List.all_append, numeral_of_digits digits.2,
      numeral_of_digits fraction, exponent.numeral]
    rfl
  | fraction digits exponent =>
    rw [List.all_cons, List.all_append, numeral_of_digits digits.2, exponent.numeral]
    rfl

/-- A literal is read part by part. -/
theorem Spells.decimal (h : Spells IsDigits cs q) :
    ∃ n e, magnitude?.decimal cs = some (ofDecimal n e) ∧ (n : ℚ) * 10 ^ e = q := by
  have all := h.numeral
  cases h with
  | @whole ds tail e digits exponent =>
    have parts := mantissa?_whole digits.2 exponent.stops.1 exponent.stops.2
    rw [if_neg (by simp [digits.1])] at parts
    refine ⟨valueOf ds, e, ?_, rfl⟩
    rw [decimal_eq all parts, tail?_of_exponent exponent]
    simp
  | @point ds fs tail e digits fraction exponent =>
    have parts := mantissa?_point digits.2 fraction exponent.stops.1
    rw [if_neg (by simp [digits.1])] at parts
    refine ⟨valueOf (ds ++ fs), e - fs.length, ?_, value_parts ds fs e⟩
    rw [decimal_eq all parts, tail?_of_exponent exponent]
    rfl
  | @fraction fs tail e digits exponent =>
    have parts : mantissa? isAsciiDigit ([] ++ '.' :: (fs ++ tail)) = _ :=
      mantissa?_point rfl digits.2 exponent.stops.1
    rw [if_neg (by simp [digits.1])] at parts
    refine ⟨valueOf ([] ++ fs), e - fs.length, ?_, ?_⟩
    · have read := decimal_eq all parts
      rw [tail?_of_exponent exponent] at read
      exact read
    · rw [value_parts]
      simp [valueOf, Nat.ofDigitChars_nil]

theorem read_numeral (all : cs.all Piece.isNumeral = true) (starts : Piece.startsNumber cs = true)
    (read : read cs = .ok x) :
    magnitude?.decimal cs = some x ∧ (x == infinity) = false := by
  cases cs with
  | nil => cases starts
  | cons c cs =>
    have isNumeral : Piece.isNumeral c = true := by
      rw [List.all_cons, Bool.and_eq_true] at all
      exact all.1
    have notPlus : c ≠ '+' := by
      rintro rfl
      cases starts
    have notMinus : c ≠ '-' := by
      rintro rfl
      cases starts
    rcases read_unsigned notPlus notMinus read with named | ⟨magnitude, finite⟩
    · have notNamed := (numeral_facts isNumeral).2.1
      rcases named?_unsigned notPlus notMinus named with ⟨-, lower⟩ | ⟨-, lower⟩ <;>
        simp [lower] at notNamed
    · rw [magnitude?_numeral all] at magnitude
      exact ⟨magnitude, finite⟩

/-- What is read of a literal is the number for the fraction that it denotes. -/
theorem Spells.roundsTo (h : Spells IsDigits cs q) (starts : Piece.startsNumber cs = true)
    (read : read cs = .ok x) : RoundsTo q x := by
  obtain ⟨decimal, finite⟩ := read_numeral h.numeral starts read
  obtain ⟨n, e, shape, rfl⟩ := h.decimal
  rw [shape, Option.some.injEq] at decimal
  subst decimal
  exact ofDecimal_roundsTo finite

/-- The digits at the head of a numeral, and what follows. -/
theorem exists_run (all : cs.all Piece.isNumeral = true) :
    ∃ ds rest, cs = ds ++ rest ∧ ds.all isAsciiDigit = true ∧ rest.all Piece.isNumeral = true ∧
      Stops inRun rest := by
  have whole := run_append isAsciiDigit cs
  have inside : (run isAsciiDigit cs).2.all Piece.isNumeral = true := by
    rw [← whole, List.all_append, Bool.and_eq_true] at all
    exact all.2
  refine ⟨(run isAsciiDigit cs).1, (run isAsciiDigit cs).2, whole.symm, List.all_takeWhile, inside,
    fun c head => ?_⟩
  rw [isDigit_of_inRun (List.all_eq_true.1 inside c (List.mem_of_mem_head? head))]
  exact run_stops isAsciiDigit cs c head

/-- Only literals are read. -/
theorem exists_spells (all : cs.all Piece.isNumeral = true)
    (read : magnitude?.decimal cs = some x) : ∃ q, Spells IsDigits cs q := by
  have notNone (none : mantissa? isAsciiDigit cs = none) : False := by
    unfold magnitude?.decimal at read
    rw [none] at read
    cases read
  obtain ⟨ds, rest, rfl, digits, inside, stops⟩ := exists_run all
  by_cases point : ∃ after, rest = '.' :: after
  · obtain ⟨after, rfl⟩ := point
    rw [List.all_cons, Bool.and_eq_true] at inside
    obtain ⟨fs, tail, rfl, fraction, inside, stops⟩ := exists_run inside.2
    have parts := mantissa?_point digits fraction stops
    split at parts
    · exact (notNone parts).elim
    · rename_i some
      rw [decimal_eq all parts] at read
      obtain ⟨e, found, -⟩ := Option.map_eq_some_iff.1 read
      have exponent := exponent_of_tail? inside found
      by_cases empty : ds = []
      · subst empty
        exact ⟨_, .fraction ⟨by simpa using some, fraction⟩ exponent⟩
      · exact ⟨_, .point ⟨empty, digits⟩ fraction exponent⟩
  · have parts := mantissa?_whole digits stops fun after same => point ⟨after, same⟩
    split at parts
    · exact (notNone parts).elim
    · rename_i some
      rw [decimal_eq all parts] at read
      obtain ⟨e, found, -⟩ := Option.map_eq_some_iff.1 read
      exact ⟨_, .whole ⟨by simpa using some, digits⟩ (exponent_of_tail? inside found)⟩

/-! ## The standard -/

/-- A zero and another digit at the head of a text. -/
def LeadingZero (cs : List Char) : Prop :=
  ∃ d rest, isAsciiDigit d = true ∧ cs = '0' :: d :: rest

theorem isStandard_of_digits {ds rest : List Char} (digits : IsDigits ds)
    (plain : ¬ LeadingZero (ds ++ rest)) : IsStandard ds := by
  obtain ⟨some, all⟩ := digits
  by_cases zero : ds.head? = Option.some '0'
  · left
    cases ds with
    | nil => cases zero
    | cons c ds =>
      cases zero
      cases ds with
      | nil => rfl
      | cons d ds =>
        simp only [List.all_cons, Bool.and_eq_true] at all
        exact absurd ⟨d, ds ++ rest, all.2.1, rfl⟩ plain
  · exact .inr ⟨⟨some, all⟩, zero⟩

theorem not_leadingZero {ds rest : List Char} (standard : IsStandard ds)
    (stops : ∀ d ∈ rest.head?, isAsciiDigit d = false) : ¬ LeadingZero (ds ++ rest) := by
  rintro ⟨d, after, digit, shape⟩
  rcases standard with rfl | ⟨⟨some, -⟩, notZero⟩
  · have same : rest = d :: after := (List.cons.inj shape).2
    have := stops d (by simp [same])
    rw [digit] at this
    cases this
  · cases ds with
    | nil => exact some rfl
    | cons c ds =>
      apply notZero
      rw [List.cons_append] at shape
      rw [(List.cons.inj shape).1, List.head?_cons]

theorem Spells.not_leadingZero (h : Spells IsStandard cs q) : ¬ LeadingZero cs := by
  cases h with
  | whole isWhole exponent =>
    refine Number.not_leadingZero isWhole fun d head => ?_
    have stop := exponent.stops.1 d head
    rw [inRun, Bool.or_eq_false_iff] at stop
    exact stop.1
  | point isWhole =>
    refine Number.not_leadingZero isWhole fun d head => ?_
    cases head
    rfl
  | fraction =>
    rintro ⟨d, after, -, shape⟩
    cases shape

/-- A literal is one of the standard unless it begins with zero and another digit. -/
theorem spells_standard_iff (h : Spells IsDigits cs q) :
    Spells IsStandard cs q ↔ ¬ LeadingZero cs := by
  refine ⟨fun standard => standard.not_leadingZero, fun plain => ?_⟩
  cases h with
  | whole digits exponent => exact .whole (isStandard_of_digits digits plain) exponent
  | point digits fraction exponent =>
    exact .point (isStandard_of_digits digits plain) fraction exponent
  | fraction digits exponent => exact .fraction digits exponent

end PageBinding.Number
