import Mathlib.Algebra.Group.Nat.Defs
import PageBinding.Value.Method

/-!
Whole numbers as floating-point numbers. A positive one stays positive, so zero is a position in
everything that is not empty.

Every number on the way from a whole number to its float has a mantissa of full length, so nothing
is ever rounded to zero.
-/
namespace PageBinding.Number

open Float.Model Float.Model.UnpackedFloat

/-- Infinite, or with a mantissa of full length and an exponent that is not below a given one. -/
inductive Positive (least : Int) : UnpackedFloat → Prop
  | infinity : Positive least (.infinity .positive)
  | finite {m : Nat} {e : Int} {pos : 0 < m} : 2 ^ 52 ≤ m → m < 2 ^ 53 → least ≤ e →
      Positive least (.finite .positive m e pos)

variable {least : Int}

theorem Positive.mono {x : UnpackedFloat} {less : Int} (h : Positive least x) (le : less ≤ least) :
    Positive less x := by
  cases h with
  | infinity => exact .infinity
  | finite long short above => exact .finite long short (Int.le_trans le above)

/-! ## Rounding -/

theorem shifted_mantissa (em : ExtendedMantissa) (k : Nat) :
    (em >>> k).mantissa = em.mantissa / 2 ^ k := by
  induction k with
  | zero => exact (Nat.div_one _).symm
  | succ k ih =>
    show (em >>> k).mantissa / 2 = _
    rw [ih, Nat.div_div_eq_div_mul, Nat.pow_succ]

/-- Rounding a mantissa keeps it or makes it larger by one. -/
theorem roundedMantissa_bounds (em : ExtendedMantissa) :
    em.mantissa ≤ em.roundedMantissa ∧ em.roundedMantissa ≤ em.mantissa + 1 := by
  unfold ExtendedMantissa.roundedMantissa Accuracy.roundToNearestEven
  split <;> omega

/-- How far a mantissa that is long enough is shifted: until it has full length. -/
theorem targetShift {m : Nat} {e : Int} (long : 2 ^ 52 ≤ m) (large : -1074 ≤ e) :
    (Format.binary64.targetExponent (totalExponent m e) - e).toNat = m.log2 - 52 := by
  have length : 52 ≤ m.log2 := (Nat.le_log2 (by omega)).2 long
  show (max ((m.log2 : Int) + 1 + e - 53) (-1074) - e).toNat = m.log2 - 52
  omega

theorem shift_fullLength {m : Nat} (long : 2 ^ 52 ≤ m) :
    2 ^ 52 ≤ m / 2 ^ (m.log2 - 52) ∧ m / 2 ^ (m.log2 - 52) < 2 ^ 53 := by
  have length : 52 ≤ m.log2 := (Nat.le_log2 (by omega)).2 long
  have above : 2 ^ m.log2 ≤ m := Nat.log2_self_le (by omega)
  have below : m < 2 ^ (m.log2 + 1) := Nat.lt_log2_self
  constructor
  · rw [Nat.le_div_iff_mul_le (Nat.two_pow_pos _), ← Nat.pow_add]
    rwa [show 52 + (m.log2 - 52) = m.log2 by omega]
  · rw [Nat.div_lt_iff_lt_mul (Nat.two_pow_pos _), ← Nat.pow_add]
    rwa [show 53 + (m.log2 - 52) = m.log2 + 1 by omega]

/-- A long mantissa is rounded to one of full length, at an exponent that is not smaller. -/
theorem positive_round {m : Nat} {e : Int} (long : 2 ^ 52 ≤ m) (large : -1074 ≤ e) :
    Positive e (roundWithAccuracy .binary64 .positive m e .exact) := by
  unfold roundWithAccuracy shiftToTargetExponent shiftToExponent
  dsimp only
  rw [targetShift long large]
  generalize shape : ExtendedMantissa.ofMantissaAndAccuracy m .exact >>> (m.log2 - 52) = em
  have mantissa : em.mantissa = m / 2 ^ (m.log2 - 52) := by
    rw [← shape, shifted_mantissa]
    rfl
  have bounds := shift_fullLength long
  have rounded := roundedMantissa_bounds em
  have long' : 2 ^ 52 ≤ em.roundedMantissa := by omega
  rw [targetShift long' (by omega)]
  have final := shift_fullLength long'
  have mantissa' : (ExtendedMantissa.ofMantissaAndAccuracy em.roundedMantissa .exact >>>
      (em.roundedMantissa.log2 - 52)).mantissa =
        em.roundedMantissa / 2 ^ (em.roundedMantissa.log2 - 52) :=
    shifted_mantissa _ _
  rw [dif_neg (by omega)]
  refine .finite ?_ ?_ (by omega)
  · rw [mantissa']
    exact final.1
  · rw [mantissa']
    exact final.2

/-! ## Bits -/

theorem sign_packed (s : Sign) (e : BitVec 11) (m : BitVec 52) :
    Sign.ofBitVec (unpackSign (packComponents .binary64 s e m)) = s := by
  delta unpackSign packComponents BitVec.extractLsb
  rw [BitVec.extractLsb'_append_eq_of_le (by decide), BitVec.extractLsb'_append_eq_of_le (by decide)]
  cases s <;> rfl

/-- The bit in front of a mantissa of full length is not stored. -/
theorem mantissa_restored {m : Nat} (long : 2 ^ 52 ≤ m) (short : m < 2 ^ 53) :
    (1#1 ++ BitVec.ofNat 52 m).toNat = m := by
  have low : m % 2 ^ 52 < 2 ^ 52 := Nat.mod_lt _ (Nat.two_pow_pos _)
  rw [BitVec.toNat_append, BitVec.toNat_ofNat m, ← Nat.shiftLeft_add_eq_or_of_lt low]
  show 2 ^ 52 + m % 2 ^ 52 = m
  omega

theorem field_ne {field : Nat} {last : BitVec 11} (small : field < 2 ^ 11) (ne : field ≠ last.toNat) :
    BitVec.ofNat 11 field ≠ last := by
  intro same
  have stored := congrArg BitVec.toNat same
  rw [BitVec.toNat_ofNat, Nat.mod_eq_of_lt small] at stored
  exact ne stored

theorem unpack_normal {s : Sign} {m field : Nat} {e : Int} {pos : 0 < m} (long : 2 ^ 52 ≤ m)
    (short : m < 2 ^ 53) (biased : e + 1075 = field) (first : 0 < field) (last : field < 2047) :
    UnpackedFloat.unpack .binary64 (packComponents .binary64 s (BitVec.ofNat 11 field)
      (BitVec.ofNat 52 m)) = .finite s m e pos := by
  have stored : (BitVec.ofNat 11 field).toNat = field :=
    (BitVec.toNat_ofNat field 11).trans (Nat.mod_eq_of_lt (by omega))
  have bias : Format.binary64.exponentBias = 1023 := rfl
  unfold UnpackedFloat.unpack
  dsimp only
  rw [unpackExponent_packComponents, sign_packed, bias]
  rw [if_neg (field_ne (by omega) (by simp; omega)), if_neg (field_ne (by omega) (by simp; omega))]
  rw [UnpackedFloat.finite.injEq]
  refine ⟨rfl, ?_, by rw [stored]; omega⟩
  rw [unpackMantissa_packComponents]
  exact mantissa_restored long short

theorem unpack_subnormal {s : Sign} {m : Nat} {pos : 0 < m} (short : m < 2 ^ 52) :
    UnpackedFloat.unpack .binary64 (packComponents .binary64 s 0#11 (BitVec.ofNat 52 m)) =
      .finite s m (-1074) pos := by
  have stored : (BitVec.ofNat 52 m).toNat = m :=
    (BitVec.toNat_ofNat m 52).trans (Nat.mod_eq_of_lt short)
  have notZero : BitVec.ofNat 52 m ≠ 0#52 := by
    intro same
    have zero := congrArg BitVec.toNat same
    rw [stored] at zero
    simp at zero
    omega
  unfold UnpackedFloat.unpack
  dsimp only
  rw [unpackExponent_packComponents, sign_packed, if_neg (by decide), if_pos rfl, dif_neg ?_]
  · rw [UnpackedFloat.finite.injEq]
    refine ⟨rfl, ?_, rfl⟩
    rw [unpackMantissa_packComponents]
    exact stored
  · rw [unpackMantissa_packComponents]
    exact notZero

/-- Bits keep a number with a mantissa of full length, or a shorter one at the least exponent, unless
it is too large. -/
theorem unpack_pack {s : Sign} {m : Nat} {e : Int} {pos : 0 < m} (short : m < 2 ^ 53)
    (large : -1074 ≤ e) (long : 2 ^ 52 ≤ m ∨ e = -1074) :
    (pack (.finite s m e pos)).unpack =
      if e ≤ 971 then .finite s m e pos else .infinity s := by
  show UnpackedFloat.unpack .binary64
    (if 2 ^ 11 ≤ (e + (1023 : Nat) + (52 : Nat)).toNat + 1 then packedInfinity .binary64 s
      else if m.log2 + 1 = 53 then packComponents .binary64 s
        (BitVec.ofNat 11 (e + (1023 : Nat) + (52 : Nat)).toNat) (BitVec.ofNat 52 m)
      else packComponents .binary64 s 0#11 (BitVec.ofNat 52 m)) = _
  by_cases fits : e ≤ 971
  · rw [if_pos fits, if_neg (show ¬ 2 ^ 11 ≤ (e + (1023 : Nat) + (52 : Nat)).toNat + 1 by omega)]
    by_cases full : 2 ^ 52 ≤ m
    · have length : m.log2 + 1 = 53 := by
        have least := (Nat.le_log2 (by omega)).2 full
        have most := (Nat.log2_lt (by omega)).2 short
        omega
      rw [if_pos length]
      refine unpack_normal full short ?_ ?_ ?_ <;> omega
    · have length : ¬ m.log2 + 1 = 53 := by
        have most := (Nat.log2_lt (by omega)).2 (Nat.lt_of_not_le full)
        omega
      obtain rfl : e = -1074 := long.resolve_left full
      rw [if_neg length]
      exact unpack_subnormal (Nat.lt_of_not_le full)
  · rw [if_neg fits, if_pos (show 2 ^ 11 ≤ (e + (1023 : Nat) + (52 : Nat)).toNat + 1 by omega)]
    cases s <;> rfl

/-- Bits keep a number of full length, or make it infinite. -/
theorem Positive.unpack_pack {x : UnpackedFloat} (h : Positive least x) (large : -1074 ≤ least) :
    Positive least (pack x).unpack := by
  cases h with
  | infinity => exact .infinity
  | finite long short above =>
    rw [Number.unpack_pack short (Int.le_trans large above) (.inl long)]
    exact iteInduction (fun _ => .finite long short above) fun _ => .infinity

/-! ## Whole numbers -/

theorem positive_ofUInt64 {n : UInt64} (pos : 0 < n.toNat) : Positive (-52) (ofUInt64 n).unpack := by
  refine Positive.unpack_pack ?_ (by decide)
  show Positive (-52) (UnpackedFloat.normalize .binary64 (n.toNat : Int) 0 .positive)
  unfold UnpackedFloat.normalize
  rw [Int.compare_eq_gt.2 (by omega)]
  dsimp only
  rw [Int.toNat_natCast]
  generalize n.toNat = n at pos
  -- a short mantissa is made longer before it is rounded
  have shift : (0 - Format.binary64.targetExponent (totalExponent n 0)).toNat = 52 - n.log2 := by
    show (0 - max ((n.log2 : Int) + 1 + 0 - 53) (-1074)).toNat = 52 - n.log2
    omega
  unfold UnpackedFloat.round decreaseExponent
  dsimp only
  rw [shift]
  refine (positive_round ?_ (by omega)).mono (by omega)
  rw [Nat.shiftLeft_eq]
  calc 2 ^ 52 ≤ 2 ^ (n.log2 + (52 - n.log2)) := Nat.pow_le_pow_right (by decide) (by omega)
    _ = 2 ^ n.log2 * 2 ^ (52 - n.log2) := Nat.pow_add ..
    _ ≤ n * 2 ^ (52 - n.log2) := Nat.mul_le_mul_right _ (Nat.log2_self_le (by omega))

theorem Positive.mul_one {x : UnpackedFloat} (h : Positive (-52) x) :
    Positive (-104) (UnpackedFloat.mul .binary64 x
      (Float.exactlyRepresentablePowersOfTen[0]).toModel.unpack) := by
  have one : (Float.exactlyRepresentablePowersOfTen[0]).toModel.unpack =
      .finite .positive (2 ^ 52) (-52) (by decide) := rfl
  rw [one]
  cases h with
  | infinity => exact .infinity
  | finite long short above =>
    exact (positive_round (Nat.le_mul_of_pos_left _ (by omega)) (by omega)).mono (by omega)

theorem positive_ofNat {n : Nat} (pos : 0 < n) : Positive (-104) (Float.ofNat n).toModel.unpack := by
  show Positive _ (Float.ofScientific n false 0).toModel.unpack
  unfold Float.ofScientific
  split
  · rename_i small
    refine Positive.unpack_pack (Positive.mul_one (positive_ofUInt64 ?_)) (by decide)
    rw [Nat.toUInt64_eq, UInt64.toNat_ofNat', Nat.mod_eq_of_lt (by omega)]
    exact pos
  · rename_i large
    refine Positive.unpack_pack ?_ (by decide)
    unfold UnpackedFloat.ofScientific
    dsimp only
    have power : (if false = true then Int.negOfNat 0 else Int.ofNat 0) = Int.ofNat 0 := rfl
    rw [power]
    rw [dif_neg (by omega), if_neg (by decide), if_neg ?_, if_pos (by decide)]
    · have rounded : Positive (-53 + 0) (roundWithAccuracy .binary64 .positive (n <<< 53 * 1) (-53 + 0)
          .exact) := by
        refine positive_round ?_ (by decide)
        rw [Nat.shiftLeft_eq]
        omega
      exact rounded.mono (by decide)
    · show ¬ (0 : Int) < -(2048 + (n.log2 : Int))
      omega

/-- Zero is less than a positive whole number. -/
theorem zero_lt_ofNat {n : Nat} (pos : 0 < n) : (0.0 : Float) < Float.ofNat n := by
  show Float.lt 0.0 (Float.ofNat n) = true
  unfold Float.lt
  rw [decide_eq_true_iff]
  show UnpackedFloat.lt (0.0 : Float).toModel.unpack (Float.ofNat n).toModel.unpack = true
  have zero : (0.0 : Float).toModel.unpack = .zero .positive := rfl
  rw [zero]
  have positive := positive_ofNat pos
  generalize (Float.ofNat n).toModel.unpack = x at positive
  cases positive with
  | infinity => rfl
  | finite => rfl

/-- Zero is the first position of what is not empty. -/
theorem position?_zero {n : Nat} (pos : 0 < n) : (Value.number 0.0).position? n = some 0 := by
  have whole : ((0.0 : Float) == truncate 0.0) = true := by decide +kernel
  have notNegative : (0.0 : Float) ≤ 0.0 := by decide +kernel
  have first : toInt? 0.0 = some 0 := by decide +kernel
  show (if (0.0 : Float) == truncate 0.0 && 0.0 ≤ (0.0 : Float) && 0.0 < Float.ofNat n
    then (toInt? 0.0).map Int.toNat else none) = some 0
  rw [if_pos, first]
  · rfl
  · rw [Bool.and_eq_true, Bool.and_eq_true, decide_eq_true_iff, decide_eq_true_iff]
    exact ⟨⟨whole, notNegative⟩, zero_lt_ofNat pos⟩

end PageBinding.Number
