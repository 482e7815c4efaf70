import Mathlib.Data.List.TakeWhile
import PageBinding.Number.Layout
import PageBinding.Proofs.Number.Apart

/-!
The digits that identify a number. They stand for a decimal fraction in the interval of the reals that
are nearer to the number than to its neighbours (`shortest_double`): a grid of powers of ten that is
finer than the interval has a point in it.

The intervals of two numbers do not overlap, so digits are ordered as their numbers are
(`upper_le_lower`).
-/
namespace PageBinding.Digits

open Number

/-! ## Powers of ten and of two -/

theorem ten_le_two_of {j b : ℤ} {p r : ℕ} (some : r ≠ 0) (exponents : r * j ≤ p * b)
    (bases : ((10 : ℚ) ^ p) ^ b ≤ (2 ^ r) ^ b) : (10 : ℚ) ^ j ≤ 2 ^ b := by
  rw [← pow_le_pow_iff_left₀ (by positivity) (by positivity) some]
  calc ((10 : ℚ) ^ j) ^ r = 10 ^ (r * j) := by rw [← zpow_natCast, ← zpow_mul, mul_comm]
    _ ≤ 10 ^ (p * b) := zpow_le_zpow_right₀ (by norm_num) exponents
    _ = (10 ^ p) ^ b := by rw [zpow_mul, zpow_natCast]
    _ ≤ (2 ^ r) ^ b := bases
    _ = (2 ^ b) ^ r := by rw [← zpow_natCast, ← zpow_natCast, ← zpow_mul, ← zpow_mul, mul_comm]

/-- The logarithm of two lies between `3 / 10` and `28 / 93`. -/
theorem ten_le_two {j b : ℤ} (low : 10 * j ≤ 3 * b) (high : 93 * j ≤ 28 * b) :
    (10 : ℚ) ^ j ≤ 2 ^ b := by
  rcases le_total 0 b with positive | negative
  · refine ten_le_two_of (p := 3) (r := 10) (by decide) low ?_
    exact zpow_le_zpow_left₀ positive (by norm_num) (by norm_num)
  · refine ten_le_two_of (p := 28) (r := 93) (by decide) high ?_
    obtain ⟨k, rfl⟩ : ∃ k : ℕ, b = -k := ⟨(-b).toNat, by omega⟩
    rw [zpow_neg, zpow_neg, zpow_natCast, zpow_natCast]
    exact inv_anti₀ (by positivity) (pow_le_pow_left₀ (by norm_num) (by norm_num) k)

theorem two_le_ten {j b : ℤ} (low : 3 * b ≤ 10 * j) (high : 28 * b ≤ 93 * j) :
    (2 : ℚ) ^ b ≤ 10 ^ j := by
  have inverse := ten_le_two (j := -j) (b := -b) (by omega) (by omega)
  rw [zpow_neg, zpow_neg] at inverse
  exact (inv_le_inv₀ (by positivity) (by positivity)).1 inverse

/-! ## Intervals -/

namespace Interval

variable (i : Interval)

def lower : ℚ := i.low / i.denominator

def centre : ℚ := i.value / i.denominator

def upper : ℚ := i.high / i.denominator

end Interval

variable {i : Interval} {k : ℤ} {n num den : ℕ}

/-- Both sides are multiplied by the same. -/
theorem scaled_eq (positive : 0 < den) (k : ℤ) (n num : ℕ) :
    ∃ c : ℚ, 0 < c ∧ (scaled k n num den).1 = n * 10 ^ k * c ∧
      (scaled k n num den).2 = (num / den : ℚ) * c := by
  have some : (0 : ℚ) < den := by exact_mod_cast positive
  unfold scaled
  by_cases large : 0 ≤ k
  · obtain ⟨j, rfl⟩ : ∃ j : ℕ, k = j := ⟨k.toNat, by omega⟩
    rw [if_pos large]
    refine ⟨den, some, ?_, (div_mul_cancel₀ _ some.ne').symm⟩
    show ((n * 10 ^ j * den : ℕ) : ℚ) = n * 10 ^ (j : ℤ) * den
    rw [zpow_natCast]
    push_cast
    rfl
  · obtain ⟨j, rfl⟩ : ∃ j : ℕ, k = -j := ⟨(-k).toNat, by omega⟩
    have exponent : (- -(j : ℤ)).toNat = j := by omega
    rw [if_neg large, exponent]
    refine ⟨den * 10 ^ j, by positivity, ?_, ?_⟩
    · show ((n * den : ℕ) : ℚ) = n * 10 ^ (-j : ℤ) * (den * 10 ^ j)
      rw [zpow_neg, zpow_natCast]
      push_cast
      field_simp
    · show ((num * 10 ^ j : ℕ) : ℚ) = num / den * (den * 10 ^ j)
      push_cast
      field_simp

theorem scaled_lt (positive : 0 < den) :
    (scaled k n num den).2 < (scaled k n num den).1 ↔ (num / den : ℚ) < n * 10 ^ k := by
  obtain ⟨c, some, left, right⟩ := scaled_eq positive k n num
  rw [← Nat.cast_lt (α := ℚ), left, right, mul_lt_mul_iff_left₀ some]

theorem lt_scaled (positive : 0 < den) :
    (scaled k n num den).1 < (scaled k n num den).2 ↔ n * 10 ^ k < (num / den : ℚ) := by
  obtain ⟨c, some, left, right⟩ := scaled_eq positive k n num
  rw [← Nat.cast_lt (α := ℚ), left, right, mul_lt_mul_iff_left₀ some]

namespace Interval

theorem holds_eq (i : Interval) (k : ℤ) (n : ℕ) :
    i.holds k n =
      if i.closed then
        decide ((scaled k n i.low i.denominator).2 ≤ (scaled k n i.low i.denominator).1) &&
          decide ((scaled k n i.high i.denominator).1 ≤ (scaled k n i.high i.denominator).2)
      else
        decide ((scaled k n i.low i.denominator).2 < (scaled k n i.low i.denominator).1) &&
          decide ((scaled k n i.high i.denominator).1 < (scaled k n i.high i.denominator).2) :=
  rfl

theorem within_of_holds (positive : 0 < i.denominator) (h : i.holds k n = true) :
    i.lower ≤ n * 10 ^ k ∧ n * 10 ^ k ≤ i.upper := by
  rw [holds_eq] at h
  by_cases closed : i.closed = true
  · rw [if_pos closed, Bool.and_eq_true, decide_eq_true_iff, decide_eq_true_iff, ← not_lt, ← not_lt,
      lt_scaled positive, scaled_lt positive, not_lt, not_lt] at h
    exact h
  · rw [if_neg closed, Bool.and_eq_true, decide_eq_true_iff, decide_eq_true_iff,
      lt_scaled positive, scaled_lt positive] at h
    exact ⟨h.1.le, h.2.le⟩

theorem holds_of_within (positive : 0 < i.denominator) (low : i.lower < n * 10 ^ k)
    (high : n * 10 ^ k < i.upper) : i.holds k n = true := by
  have low := (scaled_lt positive).2 low
  have high := (lt_scaled positive).2 high
  rw [holds_eq]
  by_cases closed : i.closed = true
  · rw [if_pos closed, decide_eq_true low.le, decide_eq_true high.le]
    rfl
  · rw [if_neg closed, decide_eq_true low, decide_eq_true high]
    rfl

/-! ## The number of digits before the point -/

/-- The exponent of the power of two in front of the value. -/
def bits (i : Interval) : ℤ :=
  i.value.log2 - i.denominator.log2

theorem bits_bounds {d : ℕ} (power : i.denominator = 2 ^ d) (some : 0 < i.value) :
    2 ^ i.bits ≤ i.centre ∧ i.centre < 2 ^ (i.bits + 1) := by
  have least : (2 : ℚ) ^ i.value.log2 ≤ i.value := by exact_mod_cast Nat.log2_self_le some.ne'
  have most : (i.value : ℚ) < 2 ^ (i.value.log2 + 1) := by
    exact_mod_cast (Nat.lt_log2_self : i.value < 2 ^ (i.value.log2 + 1))
  have length : i.denominator.log2 = d := by rw [power, Nat.log2_two_pow]
  have positive : (0 : ℚ) < 2 ^ d := by positivity
  rw [centre, bits, length, power, Nat.cast_pow, Nat.cast_ofNat, le_div_iff₀ positive,
    div_lt_iff₀ positive, ← zpow_natCast, ← zpow_add₀ two_ne_zero, ← zpow_add₀ two_ne_zero]
  constructor
  · rw [sub_add_cancel, zpow_natCast]
    exact least
  · rw [show (i.value.log2 : ℤ) - d + 1 + d = (i.value.log2 + 1 : ℕ) by push_cast; ring, zpow_natCast]
    exact most

/-- What the search for the number of digits finds: the first of six powers of ten above the value. -/
theorem scale_eq (positive : 0 < i.denominator)
    (last : i.centre < 10 ^ (Int.fdiv (i.bits * 30103) 100000 - 1 + 5)) :
    ∃ j : ℕ, i.scale = Int.fdiv (i.bits * 30103) 100000 - 1 + j ∧ i.centre < 10 ^ i.scale ∧
      (j = 0 ∨ 10 ^ (i.scale - 1) ≤ i.centre) := by
  have below_iff (k : ℤ) : decide ((scaled k 1 i.value i.denominator).2 <
      (scaled k 1 i.value i.denominator).1) = true ↔ i.centre < 10 ^ k := by
    rw [decide_eq_true_iff, scaled_lt positive, Nat.cast_one, one_mul]
    rfl
  unfold scale
  dsimp only
  split
  · rename_i j found
    obtain ⟨here, -, before⟩ := List.find?_range_eq_some.1 found
    refine ⟨j, rfl, (below_iff _).1 here, ?_⟩
    rcases Nat.eq_zero_or_pos j with zero | some
    · exact .inl zero
    · right
      have notBelow := before (j - 1) (by omega)
      rw [Bool.not_eq_true'] at notBelow
      refine not_lt.1 fun below => ?_
      rw [show ∀ z : ℤ, z + j - 1 = z + (j - 1 : ℕ) by omega] at below
      exact Bool.false_ne_true (notBelow.symm.trans ((below_iff _).2 below))
  · rename_i none
    exact absurd ((below_iff _).2 last) (List.find?_eq_none.1 none 5 (by decide))

theorem scale_bounds {d : ℕ} (power : i.denominator = 2 ^ d) (some : 0 < i.value)
    (small : -1100 ≤ i.bits) (large : i.bits ≤ 1100) :
    10 ^ (i.scale - 1) ≤ i.centre ∧ i.centre < 10 ^ i.scale := by
  obtain ⟨least, most⟩ := bits_bounds power some
  have positive : 0 < i.denominator := by
    rw [power]
    exact Nat.two_pow_pos d
  have floor : Int.fdiv (i.bits * 30103) 100000 = i.bits * 30103 / 100000 :=
    Int.fdiv_eq_ediv_of_nonneg _ (by decide)
  have last : i.centre < 10 ^ (Int.fdiv (i.bits * 30103) 100000 - 1 + 5) :=
    most.trans_le (two_le_ten (by omega) (by omega))
  obtain ⟨j, scale, above, first | below⟩ := scale_eq positive last
  · refine ⟨?_, above⟩
    have power := ten_le_two (j := i.scale - 1) (b := i.bits) (by omega) (by omega)
    exact power.trans least
  · exact ⟨below, above⟩

/-! ## The grid of a power of ten -/

/-- The search in a grid finds a multiple of the power in the interval, unless neither neighbour of the
value is in it. -/
theorem nearest?_cases (positive : 0 < i.denominator) (k : ℤ) :
    ∃ d : ℕ, d * 10 ^ k ≤ i.centre ∧ i.centre < (d + 1) * 10 ^ k ∧
      ((∃ r, i.nearest? k = some r ∧ 0 < r ∧ i.holds k r = true) ∨
        i.nearest? k = none ∧ (i.holds k d = false ∨ d = 0) ∧ i.holds k (d + 1) = false) := by
  obtain ⟨c, factor, left, right⟩ := scaled_eq positive k 1 i.value
  unfold nearest?
  generalize scaled k 1 i.value i.denominator = sides at left right ⊢
  obtain ⟨unit, value⟩ := sides
  dsimp only at left right ⊢
  rw [Nat.cast_one, one_mul] at left
  have unitPos : (0 : ℚ) < unit := by
    rw [left]
    positivity
  obtain ⟨d, quotient⟩ : ∃ d, d = value / unit := ⟨_, rfl⟩
  have least : d * (unit : ℚ) ≤ value := by
    rw [quotient]
    exact_mod_cast Nat.div_mul_le_self value unit
  have most : (value : ℚ) < (d + 1) * unit := by
    rw [quotient, mul_comm]
    exact_mod_cast Nat.lt_mul_div_succ value (Nat.cast_pos.1 unitPos)
  rw [left, right, ← mul_assoc] at least most
  rw [← quotient]
  refine ⟨d, le_of_mul_le_mul_right least factor, lt_of_mul_lt_mul_right most factor.le, ?_⟩
  have found (h : (i.holds k d && d != 0) = true) : 0 < d ∧ i.holds k d = true := by
    rw [Bool.and_eq_true, bne_iff_ne] at h
    exact ⟨Nat.pos_of_ne_zero h.2, h.1⟩
  cases down : i.holds k d && d != 0 with
  | true =>
    cases up : i.holds k (d + 1) with
    | true =>
      left
      dsimp only
      split_ifs
      · exact ⟨d, rfl, found down⟩
      · exact ⟨d + 1, rfl, d.succ_pos, up⟩
      · exact ⟨d, rfl, found down⟩
      · exact ⟨d + 1, rfl, d.succ_pos, up⟩
    | false => exact .inl ⟨d, rfl, found down⟩
  | false =>
    cases up : i.holds k (d + 1) with
    | true => exact .inl ⟨d + 1, rfl, d.succ_pos, up⟩
    | false =>
      rw [Bool.and_eq_false_iff, bne_eq_false_iff_eq] at down
      exact .inr ⟨rfl, down, rfl⟩

theorem within_of_nearest? (positive : 0 < i.denominator) {r : ℕ} (h : i.nearest? k = some r) :
    0 < r ∧ i.lower ≤ r * 10 ^ k ∧ r * 10 ^ k ≤ i.upper := by
  obtain ⟨d, -, -, ⟨r', found, some, holds⟩ | ⟨none, -⟩⟩ := nearest?_cases positive k
  · rw [h] at found
    cases found
    exact ⟨some, within_of_holds positive holds⟩
  · rw [h] at none
    cases none

/-- A grid that is finer than the interval has a point in it. -/
theorem exists_nearest? (positive : 0 < i.denominator) (low : i.lower < i.centre)
    (high : i.centre < i.upper) (large : 10 ^ k ≤ i.centre) (fine : 10 ^ k < i.upper - i.lower) :
    ∃ r, i.nearest? k = some r := by
  obtain ⟨d, least, most, ⟨r, found, -⟩ | ⟨-, down, up⟩⟩ := nearest?_cases positive k
  · exact ⟨r, found⟩
  · exfalso
    have notZero : d ≠ 0 := by
      rintro rfl
      rw [Nat.cast_zero, zero_add, one_mul] at most
      exact absurd large most.not_ge
    have below : d * 10 ^ k ≤ i.lower := by
      refine not_lt.1 fun within => ?_
      have holds := holds_of_within positive within (least.trans_lt high)
      rw [down.resolve_right notZero] at holds
      cases holds
    have above : i.upper ≤ (d + 1) * 10 ^ k := by
      refine not_lt.1 fun within => ?_
      rw [← Nat.cast_add_one] at within most
      have holds := holds_of_within positive (low.trans most) within
      rw [up] at holds
      cases holds
    linarith

end Interval

/-! ## The interval of a number -/

variable {b : Binary}

/-- Whether the next smaller number is nearer than the next larger one. -/
def isNarrow (b : Binary) : Bool :=
  b.mantissa = 2 ^ 52 && b.exponent ≠ -1074

theorem isNarrow_iff : isNarrow b = true ↔ b.mantissa = 2 ^ 52 ∧ b.exponent ≠ -1074 := by
  rw [isNarrow, Bool.and_eq_true, decide_eq_true_iff, decide_eq_true_iff]

/-- Half the distance to the next smaller number. -/
def gap (b : Binary) : ℚ :=
  if isNarrow b then 2 ^ b.exponent / 4 else 2 ^ b.exponent / 2

theorem gap_bounds (b : Binary) : 2 ^ b.exponent / 4 ≤ gap b ∧ gap b ≤ 2 ^ b.exponent / 2 := by
  have unit : (0 : ℚ) < 2 ^ b.exponent := by positivity
  unfold gap
  split_ifs <;> constructor <;> linarith

/-- The lower end in quarters of the last place. -/
def lowQuarters (b : Binary) : ℕ :=
  if isNarrow b then 4 * b.mantissa - 1 else 4 * b.mantissa - 2

theorem lowQuarters_eq (positive : 0 < b.mantissa) :
    lowQuarters b * (2 ^ b.exponent / 4) = b.size - gap b := by
  unfold lowQuarters gap Binary.size
  split_ifs
  · rw [Nat.cast_sub (by omega)]
    push_cast
    ring
  · rw [Nat.cast_sub (by omega)]
    push_cast
    ring

theorem of_eq (b : Binary) :
    ∃ (unit d : ℕ) (closed : Bool), (unit : ℚ) / 2 ^ d = 2 ^ b.exponent / 4 ∧ Interval.of .double b =
      ⟨lowQuarters b * unit, 4 * b.mantissa * unit, (4 * b.mantissa + 2) * unit, 2 ^ d, closed⟩ := by
  have shape : Interval.of .double b = if 0 ≤ b.exponent - 2 then
      ⟨lowQuarters b * 2 ^ (b.exponent - 2).toNat, 4 * b.mantissa * 2 ^ (b.exponent - 2).toNat,
        (4 * b.mantissa + 2) * 2 ^ (b.exponent - 2).toNat, 1, b.mantissa % 2 = 0⟩
      else ⟨lowQuarters b, 4 * b.mantissa, 4 * b.mantissa + 2, 2 ^ (-(b.exponent - 2)).toNat,
        b.mantissa % 2 = 0⟩ :=
    rfl
  have quarter : (2 : ℚ) ^ b.exponent / 4 = 2 ^ (b.exponent - 2) := by
    rw [zpow_sub₀ two_ne_zero]
    norm_num
  by_cases large : 0 ≤ b.exponent - 2
  · refine ⟨2 ^ (b.exponent - 2).toNat, 0, b.mantissa % 2 = 0, ?_, ?_⟩
    · rw [quarter, pow_zero, div_one, Nat.cast_pow, Nat.cast_ofNat, ← zpow_natCast,
        Int.toNat_of_nonneg large]
    · rw [shape, if_pos large]
      rfl
  · refine ⟨1, (-(b.exponent - 2)).toNat, b.mantissa % 2 = 0, ?_, ?_⟩
    · rw [quarter, Nat.cast_one, one_div, ← zpow_natCast, ← zpow_neg, Int.toNat_of_nonneg (by omega),
        neg_neg]
    · rw [shape, if_neg large, Nat.mul_one, Nat.mul_one, Nat.mul_one]

/-- The interval of a number reaches half a unit up, and half the distance to the next number down. -/
structure Around (i : Interval) (b : Binary) : Prop where
  power : ∃ d, i.denominator = 2 ^ d
  positive : 0 < i.value
  lower : i.lower = b.size - gap b
  centre : i.centre = b.size
  upper : i.upper = b.size + 2 ^ b.exponent / 2

theorem around_of (positive : 0 < b.mantissa) : Around (Interval.of .double b) b := by
  obtain ⟨unit, d, closed, isUnit, shape⟩ := of_eq b
  have unitPos : 0 < unit := by
    refine Nat.pos_of_ne_zero fun zero => ?_
    have some : (0 : ℚ) < 2 ^ b.exponent / 4 := by positivity
    rw [← isUnit, zero, Nat.cast_zero, zero_div] at some
    exact some.false
  have ends (q : ℕ) : ((q * unit : ℕ) : ℚ) / (2 ^ d : ℕ) = q * (2 ^ b.exponent / 4) := by
    rw [← isUnit]
    push_cast
    ring
  rw [shape]
  refine ⟨⟨d, rfl⟩, Nat.mul_pos (by omega) unitPos, ?_, ?_, ?_⟩
  · exact (ends _).trans (lowQuarters_eq positive)
  · refine (ends _).trans ?_
    unfold Binary.size
    push_cast
    ring
  · refine (ends _).trans ?_
    unfold Binary.size
    push_cast
    ring

theorem Around.bits_bounds (h : Around i b) (fits : Fits b.mantissa b.exponent)
    (positive : 0 < b.mantissa) : -1100 ≤ i.bits ∧ i.bits ≤ 1100 := by
  obtain ⟨d, power⟩ := h.power
  obtain ⟨least, most⟩ := Interval.bits_bounds power h.positive
  rw [h.centre] at least most
  have small : (2 : ℚ) ^ (-1074 : ℤ) ≤ b.size := by
    calc (2 : ℚ) ^ (-1074 : ℤ) ≤ 2 ^ b.exponent := zpow_le_zpow_right₀ one_le_two fits.least
      _ = 1 * 2 ^ b.exponent := (one_mul _).symm
      _ ≤ b.mantissa * 2 ^ b.exponent := by
        gcongr
        exact_mod_cast positive
  have large : b.size < 2 ^ (1024 : ℤ) := fits.lt_infinity
  have low := (zpow_lt_zpow_iff_right₀ one_lt_two).1 (small.trans_lt most)
  have high := (zpow_lt_zpow_iff_right₀ one_lt_two).1 (least.trans_lt large)
  omega

theorem Around.exists_nearest? (h : Around i b) (fits : Fits b.mantissa b.exponent)
    (positive : 0 < b.mantissa) : ∃ r, i.nearest? (i.scale - 18) = some r := by
  obtain ⟨d, power⟩ := h.power
  obtain ⟨small, large⟩ := h.bits_bounds fits positive
  obtain ⟨least, -⟩ := Interval.scale_bounds power h.positive small large
  have unit : (0 : ℚ) < 2 ^ b.exponent := by positivity
  have gaps := gap_bounds b
  have short : b.size < 2 ^ 53 * 2 ^ b.exponent := by
    unfold Binary.size
    gcongr
    exact_mod_cast fits.short
  -- eighteen digits tell more numbers apart than mantissas do
  have finer : (10 : ℚ) ^ (i.scale - 1) = 10 ^ 17 * 10 ^ (i.scale - 18) := by
    rw [← zpow_natCast, ← zpow_add₀ (by norm_num)]
    congr 1
    omega
  have step : (0 : ℚ) < 10 ^ (i.scale - 18) := by positivity
  rw [h.centre, finer] at least
  refine Interval.exists_nearest? (power ▸ Nat.two_pow_pos d) ?_ ?_ ?_ ?_
  · rw [h.lower, h.centre]
    linarith
  · rw [h.centre, h.upper]
    linarith
  · rw [h.centre]
    linarith
  · rw [h.lower, h.upper]
    linarith

/-- The digits of a number stand for a fraction that is nearer to it than to its neighbours. -/
theorem shortest_double (fits : Fits b.mantissa b.exponent) (positive : 0 < b.mantissa) :
    ∃ (r : ℕ) (place : ℤ), 0 < r ∧ b.size - gap b ≤ r * 10 ^ place ∧
      r * 10 ^ place ≤ b.size + 2 ^ b.exponent / 2 ∧
      shortest .double b = ⟨trimmed (ofNat r), place + (ofNat r).length⟩ := by
  have around := around_of positive
  obtain ⟨r, last⟩ := around.exists_nearest? fits positive
  obtain ⟨d, power⟩ := around.power
  unfold shortest
  rw [if_neg positive.ne']
  dsimp only
  split
  · rename_i m place found
    obtain ⟨n, -, here⟩ := List.exists_of_findSome?_eq_some found
    obtain ⟨m', nearest, same⟩ := Option.map_eq_some_iff.1 here
    cases same
    obtain ⟨some, low, high⟩ := Interval.within_of_nearest? (power ▸ Nat.two_pow_pos d) nearest
    rw [around.lower] at low
    rw [around.upper] at high
    exact ⟨m, _, some, low, high, rfl⟩
  · rename_i none
    have missed := List.findSome?_eq_none_iff.1 none 17 (by decide)
    rw [Option.map_eq_none_iff] at missed
    cases missed.symm.trans last

/-! ## Order -/

/-- A number with a mantissa of full length is at least half the distance to the next smaller one above
all mantissas of a smaller unit. -/
theorem lower_of_full {u : ℚ} (full : 2 ^ 52 ≤ b.mantissa) (notLeast : b.exponent ≠ -1074)
    (half : (2 : ℚ) ^ b.exponent = 2 * u) (positive : 0 < u) :
    (2 ^ 53 - 1 / 2) * u ≤ b.size - gap b := by
  unfold Binary.size
  rcases full.eq_or_lt with narrow | wide
  · have isNarrow : isNarrow b = true := isNarrow_iff.2 ⟨narrow.symm, notLeast⟩
    rw [gap, if_pos isNarrow, half, ← narrow]
    push_cast
    linarith
  · have next : (2 : ℚ) ^ 52 + 1 ≤ b.mantissa := by exact_mod_cast wide
    have gaps := (gap_bounds b).2
    rw [half] at gaps ⊢
    nlinarith

/-- The intervals of two numbers do not overlap. -/
theorem upper_le_lower {c : Binary} (fits : Fits b.mantissa b.exponent)
    (fits' : Fits c.mantissa c.exponent) (less : b.size < c.size) :
    b.size + 2 ^ b.exponent / 2 ≤ c.size - gap c := by
  have unit : (0 : ℚ) < 2 ^ b.exponent := by positivity
  rcases lt_trichotomy b.exponent c.exponent with smaller | same | larger
  · have least := fits.least
    have full := fits'.full.resolve_right (by omega)
    have half : (2 : ℚ) ^ c.exponent = 2 * 2 ^ (c.exponent - 1) := by
      rw [zpow_sub_one₀ two_ne_zero]
      ring
    have units : (2 : ℚ) ^ b.exponent ≤ 2 ^ (c.exponent - 1) :=
      zpow_le_zpow_right₀ one_le_two (by omega)
    have short : (b.mantissa : ℚ) + 1 ≤ 2 ^ 53 := by exact_mod_cast fits.short
    calc b.size + 2 ^ b.exponent / 2 = (b.mantissa + 1 / 2) * 2 ^ b.exponent := by
          unfold Binary.size
          ring
      _ ≤ (2 ^ 53 - 1 / 2) * 2 ^ (c.exponent - 1) := by
          gcongr
          linarith
      _ ≤ c.size - gap c := lower_of_full full (by omega) half (by positivity)
  · have gaps := (gap_bounds c).2
    unfold Binary.size at *
    rw [← same] at less gaps ⊢
    have next : b.mantissa + 1 ≤ c.mantissa := by
      have := lt_of_mul_lt_mul_right less unit.le
      exact_mod_cast this
    have next : (b.mantissa : ℚ) + 1 ≤ c.mantissa := by exact_mod_cast next
    nlinarith
  · exact absurd less (fits'.lt_of_exponent fits larger).not_gt

/-! ## The place of the point -/

theorem length_bounds {r : ℕ} (positive : 0 < r) :
    (10 : ℚ) ^ ((ofNat r).length - 1 : ℤ) ≤ r ∧ (r : ℚ) < 10 ^ ((ofNat r).length : ℤ) := by
  have length : (ofNat r).length = r.repr.length := by
    rw [ofNat, if_neg positive.ne', String.length_toList]
  have some : 0 < r.repr.length := Nat.length_repr_pos
  have most : r < 10 ^ r.repr.length := (Nat.length_repr_le_iff some).1 le_rfl
  have least : 10 ^ (r.repr.length - 1) ≤ r := by
    rcases Nat.eq_zero_or_pos (r.repr.length - 1) with single | more
    · rw [single]
      exact positive
    · refine Nat.le_of_not_lt fun less => ?_
      have := (Nat.length_repr_le_iff more).2 less
      omega
  rw [length]
  refine ⟨?_, ?_⟩
  · rw [show (r.repr.length - 1 : ℤ) = (r.repr.length - 1 : ℕ) by omega, zpow_natCast]
    exact_mod_cast least
  · rw [zpow_natCast]
    exact_mod_cast most

theorem trimmed_ne_nil {r : ℕ} (positive : 0 < r) : trimmed (ofNat r) ≠ [] := by
  intro empty
  rw [trimmed, List.reverse_eq_nil_iff, List.dropWhile_eq_nil_iff] at empty
  have digits : ofNat r = Nat.toDigits 10 r := by rw [ofNat, if_neg positive.ne', Nat.toList_repr]
  have zeros : ofNat r = List.replicate (ofNat r).length '0' := by
    refine List.eq_replicate_of_mem fun c mem => ?_
    exact beq_iff_eq.1 (empty c (List.mem_reverse.2 mem))
  have value := Nat.ofDigitChars_toDigits (b := 10) (n := r) (by decide) (by decide)
  rw [← digits, zeros, Nat.ofDigitChars_replicate_zero, Nat.mul_zero] at value
  exact positive.ne value

/-- The digits of a number as a fraction, with the place of their point. -/
structure Stands (b : Binary) (q : ℚ) : Prop where
  low : b.size - gap b ≤ q
  high : q ≤ b.size + 2 ^ b.exponent / 2
  some : (shortest .double b).digits ≠ []
  least : 10 ^ ((shortest .double b).point - 1) ≤ q
  most : q < 10 ^ (shortest .double b).point

theorem exists_stands (fits : Fits b.mantissa b.exponent) (positive : 0 < b.mantissa) :
    ∃ q, Stands b q := by
  obtain ⟨r, place, some, low, high, shape⟩ := shortest_double fits positive
  obtain ⟨least, most⟩ := length_bounds some
  have power : (0 : ℚ) < 10 ^ place := by positivity
  refine ⟨r * 10 ^ place, low, high, ?_, ?_, ?_⟩
  · rw [shape]
    exact trimmed_ne_nil some
  · rw [shape]
    calc (10 : ℚ) ^ (place + (ofNat r).length - 1) = 10 ^ ((ofNat r).length - 1 : ℤ) * 10 ^ place := by
          rw [← zpow_add₀ (by norm_num)]
          congr 1
          omega
      _ ≤ r * 10 ^ place := by gcongr
  · rw [shape]
    calc r * (10 : ℚ) ^ place < 10 ^ ((ofNat r).length : ℤ) * 10 ^ place := by gcongr
      _ = 10 ^ (place + (ofNat r).length) := by rw [← zpow_add₀ (by norm_num), add_comm]

theorem shortest_congr {c : Binary} (fits : Fits b.mantissa b.exponent)
    (fits' : Fits c.mantissa c.exponent) (same : b.size = c.size) :
    shortest .double b = shortest .double c := by
  have unit : (2 : ℚ) ^ b.exponent ≠ 0 := by positivity
  have exponent : b.exponent = c.exponent := by
    rcases lt_trichotomy b.exponent c.exponent with smaller | same | larger
    · exact absurd same (fits.lt_of_exponent fits' smaller).ne
    · exact same
    · exact absurd same (fits'.lt_of_exponent fits larger).ne'
  obtain ⟨negative, m, e⟩ := b
  obtain ⟨negative', n, f⟩ := c
  obtain rfl : e = f := exponent
  obtain rfl : m = n := by exact_mod_cast mul_right_cancel₀ unit same
  rfl

/-- The place of the point tells on which side of a power of ten a number is, as far as the number for
that power goes. -/
theorem point_le_iff {t : Binary} {k : ℤ} (fits : Fits b.mantissa b.exponent)
    (positive : 0 < b.mantissa) (fits' : Fits t.mantissa t.exponent) (low : t.size - gap t < 10 ^ k)
    (high : 10 ^ k < t.size + 2 ^ t.exponent / 2) (digits : k < (shortest .double t).point) :
    (shortest .double b).point ≤ k ↔ b.size < t.size := by
  obtain ⟨q, stands⟩ := exists_stands fits positive
  have ten : (1 : ℚ) < 10 := by norm_num
  rcases lt_trichotomy b.size t.size with less | same | more
  · have below : q < 10 ^ k := stands.high.trans_lt ((upper_le_lower fits fits' less).trans_lt low)
    have := (zpow_lt_zpow_iff_right₀ ten).1 (stands.least.trans_lt below)
    exact ⟨fun _ => less, fun _ => by omega⟩
  · rw [shortest_congr fits fits' same, same]
    exact ⟨fun le => absurd digits le.not_gt, fun less => absurd less (lt_irrefl _)⟩
  · have above : 10 ^ k < q := high.trans_le ((upper_le_lower fits' fits more).trans stands.low)
    have := (zpow_lt_zpow_iff_right₀ ten).1 (above.trans stands.most)
    exact ⟨fun le => absurd this le.not_gt, fun less => absurd less more.not_gt⟩

end PageBinding.Digits
