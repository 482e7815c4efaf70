import PageBinding.Proofs.Number.Rounding

/-!
Comparing numbers. What is compared are the values of numbers as fractions (`compare_eq`): bits hold
no mantissa that could be longer, so the larger exponent belongs to the larger number.
-/
namespace PageBinding.Number

open Float.Model Float.Model.UnpackedFloat

/-- A fraction with a sign. -/
def signed : Sign → ℚ → ℚ
  | .positive, q => q
  | .negative, q => -q

/-- The value of a number. The infinities have the powers of two after all numbers, and both zeros
have the same. -/
def measure? : UnpackedFloat → Option ℚ
  | .notANumber => none
  | .infinity s => some (signed s (2 ^ 1024))
  | .zero _ => some 0
  | .finite s m e _ => some (signed s (m * 2 ^ e))

/-- A number that bits hold. -/
def Held : UnpackedFloat → Prop
  | .finite _ m e _ => Fits m e
  | _ => True

theorem unpack_held (x : Float.Model) : Held x.unpack := by
  cases shape : x.unpack with
  | finite => exact unpack_fits shape
  | _ => trivial

section

variable {m n : ℕ} {e f : ℤ}

theorem Fits.lt_of_exponent (h : Fits m e) (h' : Fits n f) (less : e < f) :
    (m : ℚ) * 2 ^ e < n * 2 ^ f := by
  have least := h.least
  have short : (m : ℚ) < 2 ^ 53 := by exact_mod_cast h.short
  have full : (2 : ℚ) ^ 52 ≤ n := by exact_mod_cast h'.full.resolve_right (by omega)
  calc (m : ℚ) * 2 ^ e < 2 ^ 53 * 2 ^ e := by gcongr
    _ = 2 ^ 52 * 2 ^ (e + 1) := by rw [zpow_add₀ two_ne_zero]; ring
    _ ≤ 2 ^ 52 * 2 ^ f := by gcongr; exacts [one_le_two, less]
    _ ≤ n * 2 ^ f := by gcongr

theorem Fits.lt_infinity (h : Fits m e) : (m : ℚ) * 2 ^ e < 2 ^ 1024 := by
  have short : (m : ℚ) < 2 ^ 53 := by exact_mod_cast h.short
  calc (m : ℚ) * 2 ^ e < 2 ^ 53 * 2 ^ e := by gcongr
    _ ≤ 2 ^ 53 * 2 ^ (971 : ℤ) := by gcongr; exacts [one_le_two, h.most]
    _ = 2 ^ 1024 := by rw [zpow_ofNat, ← pow_add]

/-- Exponents are compared first. -/
theorem Fits.compare_eq (h : Fits m e) (h' : Fits n f) :
    (compare e f).then (compare m n) = compare ((m : ℚ) * 2 ^ e) (n * 2 ^ f) := by
  rcases lt_trichotomy e f with less | rfl | more
  · rw [compare_lt_iff_lt.2 less, compare_lt_iff_lt.2 (h.lt_of_exponent h' less)]
    rfl
  · have unit : (0 : ℚ) < 2 ^ e := by positivity
    rw [compare_eq_iff_eq.2 rfl]
    show compare m n = _
    rcases lt_trichotomy m n with less | rfl | more
    · rw [compare_lt_iff_lt.2 less, compare_lt_iff_lt.2]
      exact mul_lt_mul_of_pos_right (by exact_mod_cast less) unit
    · rw [compare_eq_iff_eq.2 rfl, compare_eq_iff_eq.2 rfl]
    · rw [compare_gt_iff_gt.2 more, compare_gt_iff_gt.2]
      exact mul_lt_mul_of_pos_right (by exact_mod_cast more) unit
  · rw [compare_gt_iff_gt.2 more, compare_gt_iff_gt.2 (h'.lt_of_exponent h more)]
    rfl

end

/-- What an answer of a comparison says. -/
def Says (p q : ℚ) : Ordering → Prop
  | .lt => p < q
  | .eq => p = q
  | .gt => q < p

theorem Says.compare_eq {p q : ℚ} {o : Ordering} (h : Says p q o) : o = compare p q := by
  cases o with
  | lt => exact (compare_lt_iff_lt.2 h).symm
  | eq => exact (compare_eq_iff_eq.2 h).symm
  | gt => exact (compare_gt_iff_gt.2 h).symm

theorem swap_compare (p q : ℚ) : (compare p q).swap = compare (-p) (-q) := by
  rcases lt_trichotomy p q with less | rfl | more
  · rw [compare_lt_iff_lt.2 less, compare_gt_iff_gt.2 (neg_lt_neg less)]
    rfl
  · rw [compare_eq_iff_eq.2 rfl, compare_eq_iff_eq.2 rfl]
    rfl
  · rw [compare_gt_iff_gt.2 more, compare_lt_iff_lt.2 (neg_lt_neg more)]
    rfl

/-- Numbers are compared by their values. -/
theorem compare_eq {x y : UnpackedFloat} (hx : Held x) (hy : Held y) {p q : ℚ}
    (value : measure? x = some p) (value' : measure? y = some q) :
    UnpackedFloat.compare x y = some (compare p q) := by
  have answered {o : Ordering} (h : Says p q o) : some o = some (compare p q) :=
    congrArg some h.compare_eq
  obtain ⟨top, isTop⟩ : ∃ top : ℚ, top = 2 ^ 1024 := ⟨_, rfl⟩
  have positive : 0 < top := by rw [isTop]; positivity
  have bounds {m : ℕ} {e : ℤ} (pos : 0 < m) (h : Fits m e) :
      0 < (m : ℚ) * 2 ^ e ∧ (m : ℚ) * 2 ^ e < top := ⟨by positivity, isTop ▸ h.lt_infinity⟩
  unfold measure? at value value'
  rw [← isTop] at value value'
  clear isTop
  cases x with
  | notANumber => cases value
  | infinity s =>
    cases y with
    | notANumber => cases value'
    | infinity t =>
      cases s <;> cases t <;> cases value <;> cases value' <;> refine answered ?_
      · rfl
      · show -top < top
        linarith
      · show -top < top
        linarith
      · rfl
    | zero t =>
      cases s <;> cases value <;> cases value' <;> refine answered ?_ <;>
        simp only [Says, signed] <;> linarith
    | finite t n f pos =>
      have := bounds pos hy
      cases s <;> cases t <;> cases value <;> cases value' <;> refine answered ?_ <;>
        simp only [Says, signed] <;> linarith
  | zero s =>
    cases y with
    | notANumber => cases value'
    | infinity t =>
      cases t <;> cases value <;> cases value' <;> refine answered ?_ <;>
        simp only [Says, signed] <;> linarith
    | zero t =>
      cases value
      cases value'
      exact answered rfl
    | finite t n f pos =>
      have := bounds pos hy
      cases t <;> cases value <;> cases value' <;> refine answered ?_ <;>
        simp only [Says, signed] <;> linarith
  | finite s m e pos =>
    have := bounds pos hx
    cases y with
    | notANumber => cases value'
    | infinity t =>
      cases s <;> cases t <;> cases value <;> cases value' <;> refine answered ?_ <;>
        simp only [Says, signed] <;> linarith
    | zero t =>
      cases s <;> cases value <;> cases value' <;> refine answered ?_ <;>
        simp only [Says, signed] <;> linarith
    | finite t n f pos' =>
      have := bounds pos' hy
      have sizes := Fits.compare_eq hx hy
      cases s <;> cases t <;> cases value <;> cases value'
      · show some ((compare e f).then (compare m n)).swap = _
        rw [sizes, swap_compare]
        rfl
      · refine answered (o := .lt) ?_
        show -((m : ℚ) * 2 ^ e) < n * 2 ^ f
        linarith
      · refine answered (o := .gt) ?_
        show -((n : ℚ) * 2 ^ f) < m * 2 ^ e
        linarith
      · exact congrArg some sizes

theorem compare_iff {x y : UnpackedFloat} (hx : Held x) (hy : Held y) {o : Ordering} :
    UnpackedFloat.compare x y = some o ↔
      ∃ p q, measure? x = some p ∧ measure? y = some q ∧ compare p q = o := by
  constructor
  · intro answer
    cases value : measure? x with
    | none =>
      have none : UnpackedFloat.compare x y = none := by
        cases x with
        | notANumber => rfl
        | _ => cases value
      rw [none] at answer
      cases answer
    | some p =>
      cases value' : measure? y with
      | none =>
        have none : UnpackedFloat.compare x y = none := by
          cases y with
          | notANumber => cases x <;> rfl
          | _ => cases value'
        rw [none] at answer
        cases answer
      | some q =>
        rw [compare_eq hx hy value value', Option.some.injEq] at answer
        exact ⟨p, q, rfl, rfl, answer⟩
  · rintro ⟨p, q, value, value', rfl⟩
    exact compare_eq hx hy value value'

/-! ## Numbers -/

/-- The value of a number. -/
def value? (x : Float) : Option ℚ :=
  measure? x.toModel.unpack

variable {x y : Float}

theorem beq_iff : (x == y) = true ↔ ∃ q, value? x = some q ∧ value? y = some q := by
  show (UnpackedFloat.compare x.toModel.unpack y.toModel.unpack == some .eq) = true ↔ _
  rw [beq_iff_eq, compare_iff (unpack_held _) (unpack_held _)]
  constructor
  · rintro ⟨p, q, value, value', same⟩
    exact ⟨p, value, compare_eq_iff_eq.1 same ▸ value'⟩
  · rintro ⟨q, value, value'⟩
    exact ⟨q, q, value, value', compare_eq_iff_eq.2 rfl⟩

theorem lt_iff : x < y ↔ ∃ p q, value? x = some p ∧ value? y = some q ∧ p < q := by
  show decide ((UnpackedFloat.compare x.toModel.unpack y.toModel.unpack == some .lt) = true) = true ↔ _
  rw [decide_eq_true_iff, beq_iff_eq, compare_iff (unpack_held _) (unpack_held _)]
  simp only [compare_lt_iff_lt]
  rfl

theorem le_iff : x ≤ y ↔ ∃ p q, value? x = some p ∧ value? y = some q ∧ p ≤ q := by
  have isLE (p q : ℚ) : (compare p q).isLE = true ↔ p ≤ q := by
    rw [Ordering.isLE_iff_ne_gt, compare_gt_iff_gt, not_lt]
  show decide ((UnpackedFloat.compare x.toModel.unpack y.toModel.unpack).any Ordering.isLE = true) =
    true ↔ _
  rw [decide_eq_true_iff, Option.any_eq_true]
  simp only [compare_iff (unpack_held _) (unpack_held _)]
  constructor
  · rintro ⟨o, ⟨p, q, value, value', rfl⟩, le⟩
    exact ⟨p, q, value, value', (isLE p q).1 le⟩
  · rintro ⟨p, q, value, value', le⟩
    exact ⟨_, ⟨p, q, value, value', rfl⟩, (isLE p q).2 le⟩

theorem beq_comm (x y : Float) : (x == y) = (y == x) := by
  rw [Bool.eq_iff_iff, beq_iff, beq_iff]
  exact exists_congr fun _ => And.comm

theorem value?_isSome (x : Float) : (value? x).isSome = !x.isNaN := by
  show (measure? x.toModel.unpack).isSome = !x.toModel.unpack.isNaN
  cases x.toModel.unpack <;> rfl

end PageBinding.Number
