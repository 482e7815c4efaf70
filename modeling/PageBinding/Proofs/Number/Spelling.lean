import PageBinding.Number.Reading
import PageBinding.Proofs.Text.Cut

/-!
The parts of a number in a text: the digits before the point, those after it, and what follows.
-/
namespace PageBinding.Number

open Text Token

/-- The characters that a run of digits takes in. -/
def inRun (c : Char) : Bool :=
  isAsciiDigit c || c == '_'

theorem takeWhile_digits {ds rest : List Char} (digits : ds.all isAsciiDigit = true)
    (stops : Stops inRun rest) : (ds ++ rest).takeWhile inRun = ds := by
  have all : ds.all inRun = true := by
    refine List.all_eq_true.2 fun c mem => ?_
    rw [inRun, List.all_eq_true.1 digits c mem, Bool.true_or]
  have whole := run_of_stops all stops
  exact congrArg Prod.fst whole

theorem filter_digits {ds : List Char} (digits : ds.all isAsciiDigit = true) :
    ds.filter (· != '_') = ds := by
  refine List.filter_eq_self.2 fun c mem => ?_
  rw [bne_iff_ne]
  rintro rfl
  have digit := List.all_eq_true.1 digits '_' mem
  cases digit

variable {ds fs rest : List Char}

/-- Digits without a point after them. -/
theorem mantissa?_whole (digits : ds.all isAsciiDigit = true) (stops : Stops inRun rest)
    (notPoint : ∀ after, rest ≠ '.' :: after) :
    mantissa? isAsciiDigit (ds ++ rest) = if ds.isEmpty then none else some (ds, [], rest) := by
  have taken : (ds ++ rest).takeWhile (fun c => isAsciiDigit c || c == '_') = ds :=
    takeWhile_digits digits stops
  unfold mantissa?
  simp only [taken, List.drop_left, filter_digits digits, List.filter_nil, List.isEmpty_nil,
    Bool.and_true]

/-- Digits, a point and digits. -/
theorem mantissa?_point (whole : ds.all isAsciiDigit = true) (fraction : fs.all isAsciiDigit = true)
    (stops : Stops inRun rest) :
    mantissa? isAsciiDigit (ds ++ '.' :: (fs ++ rest)) =
      if ds.isEmpty && fs.isEmpty then none else some (ds, fs, rest) := by
  have taken : (ds ++ '.' :: (fs ++ rest)).takeWhile (fun c => isAsciiDigit c || c == '_') = ds :=
    takeWhile_digits whole (stops_cons _ rfl)
  have taken' : (fs ++ rest).takeWhile (fun c => isAsciiDigit c || c == '_') = fs :=
    takeWhile_digits fraction stops
  unfold mantissa?
  simp only [taken, taken', List.drop_left, filter_digits whole, filter_digits fraction]

/-! ## Numbers without a sign -/

variable {c : Char} {cs : List Char} {x : Float}

theorem lower_of_word {word : String} {d : Char} {ds : List Char} (shape : word.toList = d :: ds)
    (same : String.ofList ((c :: cs).map asciiLower) = word) : asciiLower c = d := by
  rw [← same, String.toList_ofList, List.map_cons] at shape
  exact (List.cons.inj shape).1

theorem named?_unsigned (notPlus : c ≠ '+') (notMinus : c ≠ '-')
    (named : named? (c :: cs) = some x) :
    x = infinity ∧ asciiLower c = 'i' ∨ x = nan ∧ asciiLower c = 'n' := by
  have unsigned : named? (c :: cs) =
      if String.ofList ((c :: cs).map asciiLower) = "inf" ||
        String.ofList ((c :: cs).map asciiLower) = "infinity" then some infinity
      else if String.ofList ((c :: cs).map asciiLower) = "nan" && true then some nan
      else none := by
    unfold named?
    split
    rename_i shape
    split at shape
    · rename_i same
      exact absurd (List.cons.inj same).1 notPlus
    · rename_i same
      exact absurd (List.cons.inj same).1 notMinus
    · cases shape
      rfl
  rw [unsigned] at named
  split at named
  · rename_i infinite
    rw [Bool.or_eq_true, decide_eq_true_eq, decide_eq_true_eq] at infinite
    refine .inl ⟨(Option.some.inj named).symm, ?_⟩
    rcases infinite with same | same
    · exact lower_of_word rfl same
    · exact lower_of_word rfl same
  · split at named
    · rename_i none
      rw [Bool.and_true, decide_eq_true_eq] at none
      exact .inr ⟨(Option.some.inj named).symm, lower_of_word rfl none⟩
    · cases named

theorem read_unsigned (notPlus : c ≠ '+') (notMinus : c ≠ '-') (read : read (c :: cs) = .ok x) :
    named? (c :: cs) = some x ∨ magnitude? (c :: cs) = some x ∧ (x == infinity) = false := by
  unfold Number.read at read
  split at read
  · rename_i named
    cases read
    exact .inl named
  · split at read
    rename_i shape
    split at shape
    · rename_i same
      exact absurd (List.cons.inj same).1 notPlus
    · rename_i same
      exact absurd (List.cons.inj same).1 notMinus
    · cases shape
      split at read
      · cases read
      · rename_i found
        split at read
        · cases read
        · rename_i finite
          cases read
          exact .inr ⟨found, Bool.eq_false_iff.2 finite⟩

theorem magnitude?_of_ne_zero (notZero : c ≠ '0') :
    magnitude? (c :: cs) = magnitude?.decimal (c :: cs) := by
  unfold magnitude?
  split
  · rename_i same
    exact absurd (List.cons.inj same).1 notZero
  · rfl

end PageBinding.Number
