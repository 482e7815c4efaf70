import PageBinding.Proofs.Number.Order

/-!
Numbers taken apart and put together. The parts that `Binary.ofFloat?` reads from the bits of a number
are its value, and a whole number with a mantissa that is short enough is put together without
rounding. So a number equals itself without its fraction exactly if it is whole (`beq_truncate`).
-/
namespace PageBinding

open Float.Model Float.Model.UnpackedFloat Number

namespace Binary

def sign (b : Binary) : Sign :=
  if b.negative then .negative else .positive

/-- The parts in the form that numbers are compared in. -/
def unpacked (b : Binary) : UnpackedFloat :=
  if zero : b.mantissa = 0 then .zero b.sign
  else .finite b.sign b.mantissa b.exponent (Nat.pos_of_ne_zero zero)

/-- The number without its sign, as a fraction. -/
def size (b : Binary) : ℚ :=
  b.mantissa * 2 ^ b.exponent

/-- The number as a fraction. -/
def value (b : Binary) : ℚ :=
  signed b.sign b.size

theorem size_of_zero {b : Binary} (zero : b.mantissa = 0) : b.size = 0 := by
  rw [size, zero, Nat.cast_zero, zero_mul]

theorem size_lt_iff (b : Binary) (q : ℚ) : b.size < q ↔ -q < b.value ∧ b.value < q := by
  have nonneg : 0 ≤ b.size := by
    unfold size
    positivity
  unfold value
  cases b.sign with
  | positive =>
    show _ ↔ -q < b.size ∧ b.size < q
    exact ⟨fun less => ⟨by linarith, less⟩, fun h => h.2⟩
  | negative =>
    show _ ↔ -q < -b.size ∧ -b.size < q
    exact ⟨fun less => ⟨by linarith, by linarith⟩, fun h => by linarith⟩

theorem measure?_unpacked (b : Binary) : measure? b.unpacked = some b.value := by
  unfold unpacked value
  by_cases zero : b.mantissa = 0
  · rw [dif_pos zero, size_of_zero zero]
    cases b.sign with
    | positive => rfl
    | negative => exact congrArg some neg_zero.symm
  · rw [dif_neg zero]
    rfl

/-! ## Bits -/

theorem ofBits?_double (n : ℕ) :
    ofBits? .double n =
      if n / 2 ^ 52 % 2 ^ 11 = 2047 then none
      else if n / 2 ^ 52 % 2 ^ 11 = 0 then some ⟨n / 2 ^ 63 % 2 == 1, n % 2 ^ 52, -1074⟩
      else some ⟨n / 2 ^ 63 % 2 == 1, n % 2 ^ 52 + 2 ^ 52,
        -1074 + (((n / 2 ^ 52 % 2 ^ 11 : ℕ) : ℤ) - 1)⟩ :=
  rfl

/-- What bits are taken apart into: the field of the exponent tells whether the mantissa has a bit that
is not stored. -/
theorem ofBits?_some {n : ℕ} {b : Binary} (h : ofBits? .double n = some b) :
    n / 2 ^ 52 % 2 ^ 11 ≠ 2047 ∧ b.negative = (n / 2 ^ 63 % 2 == 1) ∧
      (n / 2 ^ 52 % 2 ^ 11 = 0 ∧ b.mantissa = n % 2 ^ 52 ∧ b.exponent = -1074 ∨
        n / 2 ^ 52 % 2 ^ 11 ≠ 0 ∧ b.mantissa = n % 2 ^ 52 + 2 ^ 52 ∧
          b.exponent = ((n / 2 ^ 52 % 2 ^ 11 : ℕ) : ℤ) - 1075) := by
  rw [ofBits?_double] at h
  split_ifs at h with last first
  · cases h
    exact ⟨last, rfl, .inl ⟨first, rfl, rfl⟩⟩
  · cases h
    exact ⟨last, rfl, .inr ⟨first, rfl, by dsimp only; omega⟩⟩

theorem fits_of_ofBits? {n : ℕ} {b : Binary} (h : ofBits? .double n = some b) :
    Fits b.mantissa b.exponent := by
  obtain ⟨last, -, shape⟩ := ofBits?_some h
  refine ⟨?_, ?_, ?_, ?_⟩ <;> omega

theorem mantissa_toNat (v : BitVec 64) : (@unpackMantissa .binary64 v).toNat = v.toNat % 2 ^ 52 := by
  unfold unpackMantissa
  rw [BitVec.toNat_cast]
  exact BitVec.extractLsb_toNat 51 0 v

theorem exponent_toNat (v : BitVec 64) :
    (@unpackExponent .binary64 v).toNat = v.toNat / 2 ^ 52 % 2 ^ 11 := by
  unfold unpackExponent
  rw [BitVec.toNat_cast, ← Nat.shiftRight_eq_div_pow]
  exact BitVec.extractLsb_toNat 62 52 v

theorem sign_toNat (v : BitVec 64) : (@unpackSign .binary64 v).toNat = v.toNat / 2 ^ 63 % 2 := by
  unfold unpackSign
  rw [BitVec.toNat_cast, ← Nat.shiftRight_eq_div_pow]
  exact BitVec.extractLsb_toNat 63 63 v

theorem sign_unpack {v : BitVec 64} {b : Binary} (h : b.negative = (v.toNat / 2 ^ 63 % 2 == 1)) :
    Sign.ofBitVec (@unpackSign .binary64 v) = b.sign := by
  have bit := sign_toNat v
  unfold Sign.ofBitVec sign
  rw [h, ← bit]
  by_cases zero : @unpackSign .binary64 v = 0#1
  · rw [if_pos zero, zero]
    rfl
  · have one : (@unpackSign .binary64 v).toNat ≠ 0 := fun same => zero (BitVec.eq_of_toNat_eq same)
    have isOne : (@unpackSign .binary64 v).toNat = 1 := by omega
    rw [if_neg zero, isOne]
    rfl

theorem unpack_of_some {v : BitVec 64} {b : Binary} (h : ofBits? .double v.toNat = some b) :
    UnpackedFloat.unpack .binary64 v = b.unpacked := by
  have bias : Format.binary64.exponentBias = 1023 := rfl
  obtain ⟨last, negative, shape⟩ := ofBits?_some h
  rw [← mantissa_toNat, ← exponent_toNat] at shape
  rw [← exponent_toNat] at last
  have notLast : @unpackExponent .binary64 v ≠ -1#11 := fun same => last (by rw [same]; rfl)
  unfold UnpackedFloat.unpack unpacked
  dsimp only
  rw [bias, if_neg notLast, sign_unpack negative]
  rcases shape with ⟨first, mantissa, exponent⟩ | ⟨first, mantissa, exponent⟩
  · have isFirst : @unpackExponent .binary64 v = 0#11 := BitVec.eq_of_toNat_eq first
    rw [if_pos isFirst]
    by_cases empty : @unpackMantissa .binary64 v = 0#52
    · rw [dif_pos empty, dif_pos (by rw [mantissa, empty]; rfl)]
    · have notEmpty : (@unpackMantissa .binary64 v).toNat ≠ 0 :=
        fun same => empty (BitVec.eq_of_toNat_eq same)
      rw [dif_neg empty, dif_neg (by omega), UnpackedFloat.finite.injEq]
      exact ⟨rfl, mantissa.symm, by rw [first, exponent]; rfl⟩
  · have notFirst : @unpackExponent .binary64 v ≠ 0#11 := fun same => first (by rw [same]; rfl)
    have short : (@unpackMantissa .binary64 v).toNat < 2 ^ 52 := BitVec.isLt _
    have front : (1#1 ++ @unpackMantissa .binary64 v).toNat =
        (@unpackMantissa .binary64 v).toNat + 2 ^ 52 := by
      rw [BitVec.toNat_append, ← Nat.shiftLeft_add_eq_or_of_lt short, Nat.add_comm]
      rfl
    rw [if_neg notFirst, dif_neg (by omega), UnpackedFloat.finite.injEq]
    exact ⟨rfl, front.trans mantissa.symm, by rw [exponent]; rfl⟩

theorem not_finite_of_none {v : BitVec 64} (h : ofBits? .double v.toNat = none) :
    (UnpackedFloat.unpack .binary64 v).isFinite = false := by
  rw [ofBits?_double, ← exponent_toNat v] at h
  by_cases last : (@unpackExponent .binary64 v).toNat = 2047
  · have isLast : @unpackExponent .binary64 v = -1#11 := BitVec.eq_of_toNat_eq last
    unfold UnpackedFloat.unpack
    dsimp only
    rw [if_pos isLast]
    by_cases empty : @unpackMantissa .binary64 v = 0#52
    · rw [if_pos empty]
      rfl
    · rw [if_neg empty]
      rfl
  · rw [if_neg last] at h
    by_cases first : (@unpackExponent .binary64 v).toNat = 0
    · rw [if_pos first] at h
      cases h
    · rw [if_neg first] at h
      cases h

variable {x : Float} {b : Binary}

theorem exists_parts (finite : x.isFinite = true) : ∃ b, ofFloat? x = some b := by
  cases parts : ofFloat? x with
  | some b => exact ⟨b, rfl⟩
  | none =>
    have infinite : x.isFinite = false := not_finite_of_none parts
    rw [infinite] at finite
    cases finite

theorem fits_of_parts (h : ofFloat? x = some b) : Fits b.mantissa b.exponent :=
  fits_of_ofBits? h

theorem value?_of_parts (h : ofFloat? x = some b) : value? x = some b.value := by
  have shape : x.toModel.unpack = b.unpacked := unpack_of_some h
  rw [value?, shape, measure?_unpacked]

/-! ## Whole numbers -/

theorem unpack_pack_unpacked (fits : Fits b.mantissa b.exponent) :
    (pack b.unpacked).unpack = b.unpacked := by
  unfold unpacked
  by_cases zero : b.mantissa = 0
  · rw [dif_pos zero]
    cases b.sign <;> rfl
  · rw [dif_neg zero, unpack_pack fits.short fits.least fits.full, if_pos fits.most]

theorem value?_abs (h : ofFloat? x = some b) : value? x.abs = some b.size := by
  let c : Binary := { b with negative := false }
  have same : b.unpacked.abs = c.unpacked := by
    unfold unpacked
    by_cases zero : b.mantissa = 0
    · rw [dif_pos zero, dif_pos zero]
      rfl
    · rw [dif_neg zero, dif_neg zero]
      rfl
  have shape : x.toModel.unpack = b.unpacked := unpack_of_some h
  have kept : (pack c.unpacked).unpack = c.unpacked := unpack_pack_unpacked (b := c) (fits_of_parts h :)
  show measure? (pack x.toModel.unpack.abs).unpack = some c.value
  rw [shape, same, kept, measure?_unpacked]

theorem value?_ofBits {n : ℕ} (small : n < 2 ^ 64) (h : ofBits? .double n = some b) :
    value? (Float.ofBits n.toUInt64) = some b.value := by
  have same : n.toUInt64.toBitVec.toNat = n := by
    show n.toUInt64.toNat = n
    rw [Nat.toUInt64_eq, UInt64.toNat_ofNat', Nat.mod_eq_of_lt small]
  show measure? (pack (UnpackedFloat.unpack .binary64 n.toUInt64.toBitVec)).unpack = some b.value
  rw [unpack_of_some (by rw [same, h]), unpack_pack_unpacked (fits_of_ofBits? h), measure?_unpacked]

theorem ofBits?_normal (negative : Bool) {m field : ℕ} (long : 2 ^ 52 ≤ m) (short : m < 2 ^ 53)
    (first : 0 < field) (last : field < 2047) :
    ofBits? .double ((if negative then 2 ^ 63 else 0) + field * 2 ^ 52 + (m - 2 ^ 52)) =
      some ⟨negative, m, field - 1075⟩ := by
  obtain ⟨sign, top⟩ : ∃ sign, sign = if negative then 1 else 0 := ⟨_, rfl⟩
  have bit : (if negative then 2 ^ 63 else 0) = sign * 2 ^ 63 := by
    rw [top]
    cases negative <;> rfl
  have isBit : sign < 2 := by
    rw [top]
    cases negative <;> decide
  have back : (sign == 1) = negative := by
    rw [top]
    cases negative <;> rfl
  obtain ⟨n, bits⟩ : ∃ n, n = sign * 2 ^ 63 + field * 2 ^ 52 + (m - 2 ^ 52) := ⟨_, rfl⟩
  have fraction : n % 2 ^ 52 + 2 ^ 52 = m := by omega
  have exponent : n / 2 ^ 52 % 2 ^ 11 = field := by omega
  have signBit : n / 2 ^ 63 % 2 = sign := by omega
  rw [bit, ← bits, ofBits?_double, exponent, fraction, signBit, back, if_neg last.ne, if_neg first.ne']
  congr 2
  omega

/-- The mantissa of a whole number is made as long as it can be. -/
theorem toBits_whole (negative : Bool) {n : ℕ} (positive : 0 < n) (short : n < 2 ^ 53) :
    ∃ k ≤ 52, 2 ^ 52 ≤ n * 2 ^ k ∧ n * 2 ^ k < 2 ^ 53 ∧ toBits .double ⟨negative, n, 0⟩ =
      (if negative then 2 ^ 63 else 0) + (1075 - k) * 2 ^ 52 + (n * 2 ^ k - 2 ^ 52) := by
  have length := log2_short short
  obtain ⟨long, fits⟩ := lengthened positive short
  obtain ⟨k, amount⟩ : ∃ k, k = 52 - n.log2 := ⟨_, rfl⟩
  rw [← amount] at long fits
  refine ⟨k, by omega, long, fits, ?_⟩
  have least : Format.double.leastExponent = -1074 := rfl
  have unit : Nat.pow 2 Format.double.fractionBits = 2 ^ 52 := rfl
  have full : Nat.pow 2 (Format.double.fractionBits + 1) = 2 ^ 53 := rfl
  have last : Nat.pow 2 Format.double.exponentBits - 1 = 2047 := rfl
  have place : max ((0 : ℤ) + (n.log2 + 1) - (Format.double.fractionBits + 1)) (-1074) = -k := by
    show max ((0 : ℤ) + (n.log2 + 1) - ((52 : ℕ) + 1)) (-1074) = -k
    omega
  have shift : (0 - -(k : ℤ)).toNat = k := by omega
  have field : (-(k : ℤ) - -1074 + 1).toNat = 1075 - k := by omega
  have power : Nat.pow 2 k = 2 ^ k := rfl
  unfold toBits
  dsimp only
  rw [if_neg positive.ne', least, place, if_pos (show -(k : ℤ) ≤ 0 by omega), shift, unit, full, power,
    if_neg fits.ne, if_neg fits.ne, if_neg long.not_gt, field, last, if_neg (by omega)]
  rfl

theorem value_whole (negative : Bool) (n k : ℕ) :
    value ⟨negative, n * 2 ^ k, -k⟩ = value ⟨negative, n, 0⟩ := by
  have size : ((n * 2 ^ k : ℕ) : ℚ) * 2 ^ (-k : ℤ) = n * 2 ^ (0 : ℤ) := by
    rw [zpow_neg, zpow_natCast, zpow_zero]
    push_cast
    field_simp
  exact congrArg (signed _) size

theorem value?_toFloat (negative : Bool) {n : ℕ} (short : n < 2 ^ 53) :
    value? (toFloat ⟨negative, n, 0⟩) = some (value ⟨negative, n, 0⟩) := by
  rcases Nat.eq_zero_or_pos n with rfl | positive
  · have parts : ofBits? .double (toBits .double ⟨negative, 0, 0⟩) = some ⟨negative, 0, -1074⟩ := by
      cases negative <;> rfl
    have value : value ⟨negative, 0, -1074⟩ = value ⟨negative, 0, 0⟩ := by
      unfold value
      rw [size_of_zero rfl, size_of_zero rfl]
      rfl
    rw [← value]
    refine value?_ofBits ?_ parts
    cases negative <;> decide
  · obtain ⟨k, small, long, fits, bits⟩ := toBits_whole negative positive short
    have parts := ofBits?_normal negative long fits (show 0 < 1075 - k by omega) (by omega)
    have exponent : ((1075 - k : ℕ) : ℤ) - 1075 = -k := by omega
    rw [exponent, ← bits] at parts
    rw [← value_whole negative n k]
    refine value?_ofBits ?_ parts
    rw [bits]
    cases negative <;> simp only [Bool.false_eq_true, if_false, if_true] <;> omega

theorem signed_whole (s : Sign) (q : ℚ) : (∃ n : ℤ, signed s q = n) ↔ ∃ n : ℤ, q = n := by
  cases s with
  | positive => rfl
  | negative =>
    constructor
    · rintro ⟨n, whole⟩
      exact ⟨-n, by rw [Int.cast_neg, ← whole]; exact (neg_neg q).symm⟩
    · rintro ⟨n, rfl⟩
      exact ⟨-n, by rw [Int.cast_neg]; rfl⟩

theorem signed_inj {s : Sign} {p q : ℚ} : signed s p = signed s q ↔ p = q := by
  cases s with
  | positive => rfl
  | negative => exact neg_inj

theorem whole_iff_div (m k : ℕ) :
    (m : ℚ) * 2 ^ (-k : ℤ) = (m / 2 ^ k : ℕ) ↔ ∃ n : ℤ, (m : ℚ) * 2 ^ (-k : ℤ) = n := by
  constructor
  · intro same
    exact ⟨(m / 2 ^ k : ℕ), by rw [same, Int.cast_natCast]⟩
  · rintro ⟨n, whole⟩
    have product : (m : ℤ) = n * 2 ^ k := by
      rw [zpow_neg, zpow_natCast, ← div_eq_mul_inv, div_eq_iff (by positivity)] at whole
      exact_mod_cast whole
    have quotient : ((m / 2 ^ k : ℕ) : ℤ) = n := by
      rw [Int.natCast_div, product, Nat.cast_pow, Nat.cast_ofNat, Int.mul_ediv_cancel _ (by positivity)]
    rw [whole, ← Int.cast_natCast, quotient]

/-- A number equals itself without its fraction exactly if it is whole. -/
theorem beq_truncate (h : ofFloat? x = some b) :
    (x == Number.truncate x) = true ↔ ∃ n : ℤ, b.value = n := by
  have known := value?_of_parts h
  have short := (fits_of_parts h).short
  have cut : Number.truncate x = if 0 ≤ b.exponent then x
      else toFloat ⟨b.negative, b.mantissa / 2 ^ (-b.exponent).toNat, 0⟩ := by
    rw [Number.truncate, h]
    rfl
  obtain ⟨negative, m, e⟩ := b
  rw [cut, value, signed_whole]
  dsimp only [size]
  by_cases large : 0 ≤ e
  · rw [if_pos large]
    refine ⟨fun _ => ⟨m * 2 ^ e.toNat, ?_⟩, fun _ => beq_iff.2 ⟨_, known, known⟩⟩
    conv_lhs => rw [← Int.toNat_of_nonneg large]
    rw [zpow_natCast]
    push_cast
    rfl
  · obtain ⟨k, rfl⟩ : ∃ k : ℕ, e = -k := ⟨(-e).toNat, by omega⟩
    have exponent : (- -(k : ℤ)).toNat = k := by omega
    have known' := value?_toFloat negative (Nat.lt_of_le_of_lt (Nat.div_le_self m (2 ^ k)) short)
    rw [if_neg large, exponent, ← whole_iff_div, beq_iff, known, known']
    simp only [Option.some.injEq, exists_eq_left']
    refine eq_comm.trans (signed_inj.trans ?_)
    dsimp only [size]
    rw [zpow_zero, mul_one]

end Binary

end PageBinding
