import Mathlib.Algebra.Order.Field.Power
import Mathlib.Algebra.Order.Field.Rat
import Mathlib.Tactic.FieldSimp
import Mathlib.Tactic.Linarith
import Mathlib.Tactic.Positivity
import Mathlib.Tactic.Ring
import PageBinding.Proofs.Number.Positive

/-!
Rounding. `RoundsTo q x` says that `x` is the floating-point number for the fraction `q`: of all
numbers it is the nearest, and of two that are equally near the one with an even mantissa.

Rounding shifts a mantissa to the place where it has its final length and then takes the nearest whole
number (`round_settled`). Every other number is a whole number of units of that place too, or it is
smaller than all mantissas of full length; either way it is not nearer (`Rounded.nearer`).
-/
namespace PageBinding.Number

open Float.Model Float.Model.UnpackedFloat

/-! ## Exact values -/

/-- The fraction that a number is. Negative zero is none. -/
def fraction? : UnpackedFloat → Option ℚ
  | .zero .positive => some 0
  | .finite s m e _ => some (s.apply m * 2 ^ e)
  | _ => none

def mantissaOf : UnpackedFloat → ℕ
  | .finite _ m _ _ => m
  | _ => 0

/-- The fraction that a number is, if it is one. -/
def rational? (x : Float) : Option ℚ :=
  fraction? x.toModel.unpack

/-- What is compared in rounding: all numbers, and the two powers of two after them, in the place of
the infinities. -/
def Candidate (w : ℚ) : Prop :=
  w = 2 ^ 1024 ∨ w = -2 ^ 1024 ∨ ∃ y, rational? y = some w

/-- `x` is the number for the fraction `q`. -/
def RoundsTo (q : ℚ) (x : Float) : Prop :=
  ∃ v, rational? x = some v ∧ ∀ w, Candidate w → w ≠ v →
    |v - q| < |w - q| ∨ |v - q| = |w - q| ∧ Even (mantissaOf x.toModel.unpack)

/-- The mantissas and exponents that bits hold. A mantissa has full length unless the exponent is the
least one. -/
structure Fits (m : ℕ) (e : ℤ) : Prop where
  short : m < 2 ^ 53
  full : 2 ^ 52 ≤ m ∨ e = -1074
  least : -1074 ≤ e
  most : e ≤ 971

theorem unpack_fits {x : Float.Model} {s : Sign} {m : ℕ} {e : ℤ} {pos : 0 < m}
    (shape : x.unpack = .finite s m e pos) : Fits m e := by
  have bias : Format.binary64.exponentBias = 1023 := rfl
  have short : (@unpackMantissa .binary64 x.toBits.toBitVec).toNat < 2 ^ 52 := BitVec.isLt _
  have field : (@unpackExponent .binary64 x.toBits.toBitVec).toNat < 2 ^ 11 := BitVec.isLt _
  unfold Float.Model.unpack UnpackedFloat.unpack at shape
  dsimp only at shape
  rw [bias] at shape
  by_cases last : @unpackExponent .binary64 x.toBits.toBitVec = -1#11
  · rw [if_pos last] at shape
    by_cases empty : @unpackMantissa .binary64 x.toBits.toBitVec = 0#52
    · rw [if_pos empty] at shape
      cases shape
    · rw [if_neg empty] at shape
      cases shape
  · have notLast : (@unpackExponent .binary64 x.toBits.toBitVec).toNat ≠ 2047 :=
      fun same => last (BitVec.eq_of_toNat_eq same)
    rw [if_neg last] at shape
    by_cases first : @unpackExponent .binary64 x.toBits.toBitVec = 0#11
    · rw [if_pos first] at shape
      by_cases empty : @unpackMantissa .binary64 x.toBits.toBitVec = 0#52
      · rw [dif_pos empty] at shape
        cases shape
      · rw [dif_neg empty] at shape
        cases shape
        rw [first]
        exact ⟨by omega, .inr (by decide), by decide, by decide⟩
    · have notFirst : (@unpackExponent .binary64 x.toBits.toBitVec).toNat ≠ 0 :=
        fun same => first (BitVec.eq_of_toNat_eq same)
      have front : (1#1 ++ @unpackMantissa .binary64 x.toBits.toBitVec).toNat =
          2 ^ 52 + (@unpackMantissa .binary64 x.toBits.toBitVec).toNat := by
        rw [BitVec.toNat_append, ← Nat.shiftLeft_add_eq_or_of_lt short]
        rfl
      rw [if_neg first] at shape
      cases shape
      refine ⟨BitVec.isLt _, .inl ?_, ?_, ?_⟩ <;> omega

/-! ## The nearest whole number -/

/-- `r` is the whole number nearest to `z`, and even if there are two. -/
structure Nearest (r : ℕ) (z : ℚ) : Prop where
  close : |r - z| ≤ 1 / 2
  even : |r - z| = 1 / 2 → Even r

variable {r : ℕ} {z : ℚ}

theorem nearest_of_within (below : z - 1 / 2 < r) (above : r < z + 1 / 2) : Nearest r z := by
  have within : |r - z| < 1 / 2 := by
    rw [abs_lt]
    constructor <;> linarith
  exact ⟨within.le, fun half => absurd half within.ne⟩

theorem Nearest.of_int (h : Nearest r z) {j : ℤ} (ne : j ≠ r) :
    |r - z| < |j - z| ∨ |r - z| = |j - z| ∧ Even r := by
  have apart : 1 ≤ |(j : ℚ) - r| := by
    have := Int.one_le_abs (sub_ne_zero.2 ne)
    exact_mod_cast this
  have triangle : |(j : ℚ) - r| ≤ |j - z| + |r - z| := by
    rw [abs_sub_comm (r : ℚ) z]
    exact abs_sub_le _ _ _
  have close := h.close
  rcases close.lt_or_eq with within | half
  · left
    linarith
  · rcases lt_or_eq_of_le (show |(r : ℚ) - z| ≤ |j - z| by linarith) with nearer | same
    · exact .inl nearer
    · exact .inr ⟨same, h.even half⟩

theorem Nearest.le_of_int (h : Nearest r z) (j : ℤ) : |r - z| ≤ |j - z| := by
  by_cases ne : j = r
  · rw [ne, Int.cast_natCast]
  · rcases h.of_int ne with nearer | same
    · exact nearer.le
    · exact same.1.le

theorem Nearest.of_below (h : Nearest r z) {u : ℚ} {j : ℤ} (below : u < j) (above : j ≤ z) :
    |r - z| < |u - z| := by
  calc |r - z| ≤ |j - z| := h.le_of_int j
    _ = z - j := by rw [abs_sub_comm, abs_of_nonneg (sub_nonneg.2 above)]
    _ < z - u := by linarith
    _ = |u - z| := by rw [abs_sub_comm, abs_of_nonneg (by linarith)]

theorem Nearest.le {j : ℕ} (h : Nearest r z) (above : j ≤ z) : j ≤ r := by
  by_contra less
  have below : (r : ℚ) + 1 ≤ j := by exact_mod_cast Nat.lt_of_not_le less
  have close := (abs_le.1 h.close).1
  linarith

/-! ## Units -/

/-- The fraction `q` is rounded to `r` units of `2 ^ e`: to the nearest whole number, of full length
unless the unit is the least one. -/
structure Rounded (q : ℚ) (r : ℕ) (e : ℤ) : Prop where
  nearest : Nearest r (q / 2 ^ e)
  least : -1074 ≤ e
  long : e = -1074 ∨ 2 ^ 52 ≤ q / 2 ^ e
  short : r ≤ 2 ^ 53

theorem zpow_units {e f : ℤ} (le : e ≤ f) : (2 : ℚ) ^ f = (2 ^ (f - e).toNat : ℕ) * 2 ^ e := by
  have sum : f = (f - e).toNat + e := by omega
  conv_lhs => rw [sum]
  rw [zpow_add₀ two_ne_zero, zpow_natCast, Nat.cast_pow, Nat.cast_ofNat]

/-- A number is a whole number of units, or too small to have a mantissa of full length in them. -/
theorem Candidate.units {w : ℚ} (h : Candidate w) {e : ℤ} (most : e ≤ 1024) :
    (∃ j : ℤ, w = j * 2 ^ e) ∨ e ≠ -1074 ∧ w < 2 ^ 52 * 2 ^ e := by
  have power : (2 : ℚ) ^ 1024 = (2 ^ (1024 - e).toNat : ℕ) * 2 ^ e := by
    rw [← zpow_units most]
    exact (zpow_natCast 2 1024).symm
  rcases h with rfl | rfl | ⟨y, value⟩
  · exact .inl ⟨(2 ^ (1024 - e).toNat : ℕ), by rw [power, Int.cast_natCast]⟩
  · exact .inl ⟨-(2 ^ (1024 - e).toNat : ℕ), by rw [power, Int.cast_neg, Int.cast_natCast, neg_mul]⟩
  · unfold rational? fraction? at value
    split at value
    · cases value
      exact .inl ⟨0, by simp⟩
    · rename_i s m f pos shape
      have fits := unpack_fits shape
      have short := fits.short
      cases value
      by_cases above : e ≤ f
      · refine .inl ⟨s.apply m * (2 ^ (f - e).toNat : ℕ), ?_⟩
        rw [zpow_units above, Int.cast_mul, Int.cast_natCast, mul_assoc]
      · refine .inr ⟨by have := fits.least; omega, ?_⟩
        have size : (s.apply m : ℚ) < 2 ^ 53 := by
          have : s.apply m < 2 ^ 53 := by
            cases s <;> simp only [Sign.apply] <;> omega
          exact_mod_cast this
        have unit : (0 : ℚ) < 2 ^ f := by positivity
        calc (s.apply m : ℚ) * 2 ^ f < 2 ^ 53 * 2 ^ f := mul_lt_mul_of_pos_right size unit
          _ = 2 ^ 52 * 2 ^ (f + 1) := by rw [zpow_add₀ two_ne_zero]; ring
          _ ≤ 2 ^ 52 * 2 ^ e := by
            gcongr
            · norm_num
            · omega
    · cases value

/-- No other number is nearer to a fraction than the units that it is rounded to. -/
theorem Rounded.nearer {q : ℚ} {e : ℤ} (h : Rounded q r e) (most : e ≤ 1024) {w : ℚ}
    (candidate : Candidate w) (ne : w ≠ r * 2 ^ e) :
    |r * 2 ^ e - q| < |w - q| ∨ |r * 2 ^ e - q| = |w - q| ∧ Even r := by
  have unit : (0 : ℚ) < 2 ^ e := by positivity
  -- distances in units
  have scale (u : ℚ) : |u * 2 ^ e - q| = |u - q / 2 ^ e| * 2 ^ e := by
    rw [← abs_of_pos unit, ← abs_mul, abs_of_pos unit, sub_mul, div_mul_cancel₀ q unit.ne']
  rcases candidate.units most with ⟨j, rfl⟩ | ⟨notLeast, below⟩
  · have other : j ≠ r := by
      rintro rfl
      exact ne (by rw [Int.cast_natCast])
    rw [scale, scale]
    rcases h.nearest.of_int other with nearer | ⟨same, even⟩
    · exact .inl (mul_lt_mul_of_pos_right nearer unit)
    · exact .inr ⟨by rw [same], even⟩
  · have long := h.long.resolve_left notLeast
    have small : w / 2 ^ e < (2 ^ 52 : ℤ) := by
      rw [div_lt_iff₀ unit]
      exact_mod_cast below
    have nearer := h.nearest.of_below small (by exact_mod_cast long)
    have shape : w = w / 2 ^ e * 2 ^ e := (div_mul_cancel₀ w unit.ne').symm
    left
    rw [scale, shape, scale]
    exact mul_lt_mul_of_pos_right nearer unit

/-- Units as a number: a mantissa that is too long by rounding up is a power of two. -/
def settled (r : ℕ) (e : ℤ) : UnpackedFloat :=
  if zero : r = 0 then .zero .positive
  else if r < 2 ^ 53 then .finite .positive r e (Nat.pos_of_ne_zero zero)
  else .finite .positive (2 ^ 52) (e + 1) (by decide)

variable {q : ℚ} {e : ℤ}

theorem settled_cases (r : ℕ) (e : ℤ) :
    (r = 0 ∧ settled r e = .zero .positive) ∨
      (∃ pos, r < 2 ^ 53 ∧ settled r e = .finite .positive r e pos) ∨
      (2 ^ 53 ≤ r ∧ settled r e = .finite .positive (2 ^ 52) (e + 1) (by decide)) := by
  by_cases zero : r = 0
  · exact .inl ⟨zero, dif_pos zero⟩
  · right
    rw [settled, dif_neg zero]
    by_cases fits : r < 2 ^ 53
    · exact .inl ⟨Nat.pos_of_ne_zero zero, fits, if_pos fits⟩
    · exact .inr ⟨Nat.le_of_not_lt fits, if_neg fits⟩

theorem fraction?_positive {m : ℕ} (pos : 0 < m) :
    fraction? (.finite .positive m e pos) = some ((m : ℚ) * 2 ^ e) := by
  show some (((m : ℤ) : ℚ) * 2 ^ e) = _
  rw [Int.cast_natCast]

theorem fraction?_settled (short : r ≤ 2 ^ 53) : fraction? (settled r e) = some ((r : ℚ) * 2 ^ e) := by
  rcases settled_cases r e with ⟨zero, shape⟩ | ⟨pos, -, shape⟩ | ⟨long, shape⟩
  · rw [shape, zero, Nat.cast_zero, zero_mul]
    rfl
  · rw [shape, fraction?_positive]
  · have full : r = 2 ^ 53 := by omega
    rw [shape, fraction?_positive, full, zpow_add₀ two_ne_zero]
    push_cast
    ring_nf

theorem even_settled (even : Even r) : Even (mantissaOf (settled r e)) := by
  rcases settled_cases r e with ⟨-, shape⟩ | ⟨pos, -, shape⟩ | ⟨-, shape⟩
  · rw [shape]
    exact Even.zero
  · rw [shape]
    exact even
  · rw [shape]
    exact ⟨2 ^ 51, rfl⟩

theorem Rounded.roundsTo (h : Rounded q r e) {x : Float} (shape : x.toModel.unpack = settled r e) :
    RoundsTo q x := by
  have most : e ≤ 1024 := by
    rcases h.long with least | long
    · omega
    · have positive : 2 ^ 52 ≤ r := h.nearest.le (by exact_mod_cast long)
      rcases settled_cases r e with ⟨zero, -⟩ | ⟨pos, -, finite⟩ | ⟨-, finite⟩
      · omega
      · have := (unpack_fits (shape.trans finite)).most
        omega
      · have := (unpack_fits (shape.trans finite)).most
        omega
  refine ⟨r * 2 ^ e, ?_, fun w candidate ne => ?_⟩
  · rw [rational?, shape, fraction?_settled h.short]
  · rcases h.nearer most candidate ne with nearer | ⟨same, even⟩
    · exact .inl nearer
    · rw [shape]
      exact .inr ⟨same, even_settled even⟩

theorem Rounded.unpack_settled (h : Rounded q r e) :
    (pack (settled r e)).unpack = .infinity .positive ∨
      (pack (settled r e)).unpack = settled r e := by
  have least := h.least
  have full : 2 ^ 52 ≤ r ∨ e = -1074 := by
    rcases h.long with isLeast | long
    · exact .inr isLeast
    · exact .inl (h.nearest.le (by exact_mod_cast long))
  rcases settled_cases r e with ⟨-, shape⟩ | ⟨pos, short, shape⟩ | ⟨-, shape⟩
  · rw [shape]
    exact .inr rfl
  · rw [shape, unpack_pack short least full]
    exact (ite_eq_or_eq _ _ _).symm
  · rw [shape, unpack_pack (by decide) (by omega) (.inl (by decide))]
    exact (ite_eq_or_eq _ _ _).symm

/-! ## Shifted mantissas -/

/-- A mantissa and the bit after it. -/
def halves (em : ExtendedMantissa) : ℚ :=
  em.mantissa + if em.roundBit then 1 / 2 else 0

/-- The second bit after a mantissa tells whether there is more than it and the first. -/
def Describes (em : ExtendedMantissa) (z : ℚ) : Prop :=
  if em.stickyBit then halves em < z ∧ z < halves em + 1 / 2 else z = halves em

variable {em : ExtendedMantissa}

theorem Describes.bounds (h : Describes em z) : em.mantissa ≤ z ∧ z < em.mantissa + 1 := by
  obtain ⟨m, half, more⟩ := em
  cases half <;> cases more <;>
    simp only [Describes, halves, Bool.false_eq_true, if_false, if_true] at h <;>
    constructor <;> linarith

theorem Describes.nearest (h : Describes em z) : Nearest em.roundedMantissa z := by
  obtain ⟨m, half, more⟩ := em
  cases half <;> cases more <;>
    simp only [Describes, halves, Bool.false_eq_true, if_false, if_true] at h
  · show Nearest m z
    apply nearest_of_within <;> linarith
  · show Nearest m z
    apply nearest_of_within <;> linarith
  · show Nearest (m + m % 2) z
    have even : Even (m + m % 2) := by
      rw [Nat.even_iff]
      omega
    refine ⟨?_, fun _ => even⟩
    rcases Nat.mod_two_eq_zero_or_one m with down | up
    · rw [down, h, abs_le]
      push_cast
      constructor <;> linarith
    · rw [up, h, abs_le]
      push_cast
      constructor <;> linarith
  · show Nearest (m + 1) z
    apply nearest_of_within <;> push_cast <;> linarith

theorem halves_shiftRightOne (em : ExtendedMantissa) :
    halves em.shiftRightOne = em.mantissa / 2 := by
  have parts : (em.mantissa : ℚ) = 2 * (em.mantissa / 2 : ℕ) + (em.mantissa % 2 : ℕ) := by
    exact_mod_cast (Nat.div_add_mod em.mantissa 2).symm
  rw [parts, halves, ExtendedMantissa.shiftRightOne]
  rcases Nat.mod_two_eq_zero_or_one em.mantissa with even | odd
  · simp [even]
  · simp [odd]
    ring

theorem Describes.shiftRightOne (h : Describes em z) : Describes em.shiftRightOne (z / 2) := by
  unfold Describes
  rw [halves_shiftRightOne]
  obtain ⟨m, half, more⟩ := em
  cases half <;> cases more <;>
    simp only [Describes, halves, ExtendedMantissa.shiftRightOne, Bool.or_false, Bool.or_true,
      Bool.false_eq_true, if_false, if_true] at h ⊢
  · linarith
  · constructor <;> linarith
  · constructor <;> linarith
  · constructor <;> linarith

theorem Describes.shift (h : Describes em z) (k : ℕ) :
    Describes (em >>> k) (z / 2 ^ k) := by
  induction k with
  | zero =>
    rw [pow_zero, div_one]
    exact h
  | succ k ih =>
    rw [pow_succ, ← div_div]
    exact ih.shiftRightOne

/-! ## Rounding -/

theorem targetExponent_eq (m : ℕ) (e : ℤ) :
    Format.binary64.targetExponent (totalExponent m e) = max (m.log2 + 1 + e - 53) (-1074) :=
  rfl

theorem log2_short (short : r < 2 ^ 53) : r.log2 < 53 := by
  by_cases zero : r = 0
  · rw [zero]
    decide
  · exact (Nat.log2_lt zero).2 short

/-- How far a short mantissa is shifted to have full length. -/
theorem lengthened {n : ℕ} (positive : 0 < n) (short : n < 2 ^ 53) :
    2 ^ 52 ≤ n * 2 ^ (52 - n.log2) ∧ n * 2 ^ (52 - n.log2) < 2 ^ 53 := by
  have length := log2_short short
  have above := Nat.log2_self_le positive.ne'
  have below : n < 2 ^ (n.log2 + 1) := Nat.lt_log2_self
  constructor
  · calc 2 ^ 52 = 2 ^ n.log2 * 2 ^ (52 - n.log2) := by rw [← Nat.pow_add]; congr 1; omega
      _ ≤ n * 2 ^ (52 - n.log2) := Nat.mul_le_mul_right _ above
  · calc n * 2 ^ (52 - n.log2) < 2 ^ (n.log2 + 1) * 2 ^ (52 - n.log2) :=
          Nat.mul_lt_mul_of_pos_right below (Nat.two_pow_pos _)
      _ = 2 ^ 53 := by rw [← Nat.pow_add]; congr 1; omega

/-- A rounded mantissa is shifted once more only if it has become too long. -/
theorem shift_settled (short : r ≤ 2 ^ 53) (least : -1074 ≤ e) {shifted : ExtendedMantissa × ℤ}
    (shape : shiftToTargetExponent .binary64 r e .exact = shifted) :
    (if zero : shifted.1.mantissa = 0 then .zero .positive
      else .finite .positive shifted.1.mantissa shifted.2 (Nat.pos_of_ne_zero zero)) =
        settled r e := by
  obtain ⟨k, amount⟩ : ∃ k, k = (Format.binary64.targetExponent (totalExponent r e) - e).toNat :=
    ⟨_, rfl⟩
  have mantissa : shifted.1.mantissa = r / 2 ^ k := by
    rw [← shape, amount]
    exact shifted_mantissa _ _
  have exponent : shifted.2 = e + k := by
    rw [← shape, amount]
    rfl
  obtain ⟨⟨m, half, more⟩, f⟩ := shifted
  dsimp only at mantissa exponent ⊢
  rw [targetExponent_eq] at amount
  unfold settled
  by_cases fits : r < 2 ^ 53
  · have none : k = 0 := by
      have length := log2_short fits
      omega
    rw [none, Nat.pow_zero, Nat.div_one] at mantissa
    rw [none, Int.natCast_zero, Int.add_zero] at exponent
    subst mantissa exponent
    by_cases zero : m = 0
    · rw [dif_pos zero, dif_pos zero]
    · rw [dif_neg zero, dif_neg zero, if_pos fits]
  · have full : r = 2 ^ 53 := by omega
    have one : k = 1 := by
      have length : r.log2 = 53 := by
        rw [full]
        exact Nat.log2_two_pow
      omega
    rw [one, full] at mantissa
    rw [one] at exponent
    subst mantissa exponent full
    rfl

/-- Rounding goes to the nearest whole number of units. -/
theorem round_settled {m : ℕ} {accuracy : Accuracy}
    (h : Describes (.ofMantissaAndAccuracy m accuracy) z) (fine : 2 ^ 52 ≤ m ∨ e ≤ -1074) :
    ∃ r f, Rounded (z * 2 ^ e) r f ∧
      roundWithAccuracy .binary64 .positive m e accuracy = settled r f := by
  obtain ⟨k, amount⟩ : ∃ k, k = (Format.binary64.targetExponent (totalExponent m e) - e).toNat :=
    ⟨_, rfl⟩
  have mantissa : (ExtendedMantissa.ofMantissaAndAccuracy m accuracy >>> k).mantissa = m / 2 ^ k := by
    rw [shifted_mantissa]
    cases accuracy with
    | exact => rfl
    | inexact side => cases side <;> rfl
  have shifted : shiftToTargetExponent .binary64 m e accuracy =
      (ExtendedMantissa.ofMantissaAndAccuracy m accuracy >>> k, e + k) := by
    rw [amount]
    rfl
  have described := h.shift k
  generalize ExtendedMantissa.ofMantissaAndAccuracy m accuracy >>> k = em at mantissa shifted described
  have units : z * 2 ^ e / 2 ^ (e + k) = z / 2 ^ k := by
    rw [zpow_add₀ two_ne_zero, zpow_natCast]
    field_simp
  rw [targetExponent_eq] at amount
  have length : 52 ≤ m.log2 ∨ e ≤ -1074 :=
    fine.imp_left fun long => (Nat.le_log2 (by omega)).2 long
  have rounded : Rounded (z * 2 ^ e) em.roundedMantissa (e + k) := by
    refine ⟨?_, by omega, ?_, ?_⟩
    · rw [units]
      exact described.nearest
    · rw [units]
      by_cases isLeast : e + k = -1074
      · exact .inl isLeast
      · right
        have long : 52 ≤ m.log2 := by omega
        have notZero : m ≠ 0 := by
          rintro rfl
          exact absurd long (by decide)
        have full := (shift_fullLength ((Nat.le_log2 notZero).1 long)).1
        rw [show m.log2 - 52 = k by omega, ← mantissa] at full
        calc (2 : ℚ) ^ 52 ≤ em.mantissa := by exact_mod_cast full
          _ ≤ z / 2 ^ k := described.bounds.1
    · have small : m / 2 ^ k < 2 ^ 53 := by
        rw [Nat.div_lt_iff_lt_mul (Nat.two_pow_pos _), ← Nat.pow_add]
        exact Nat.lt_of_lt_of_le Nat.lt_log2_self (Nat.pow_le_pow_right (by decide) (by omega))
      have := (roundedMantissa_bounds em).2
      omega
  refine ⟨_, _, rounded, ?_⟩
  unfold roundWithAccuracy
  rw [shifted]
  exact shift_settled rounded.short rounded.least rfl

end PageBinding.Number
