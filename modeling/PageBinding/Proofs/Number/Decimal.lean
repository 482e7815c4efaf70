import PageBinding.Number.Reading
import PageBinding.Proofs.Number.Rounding

/-!
Decimal fractions as floating-point numbers: `ofDecimal n e` is the number for `n * 10 ^ e`, unless
that is too large.

Small whole numbers and small powers of ten are exact, so their product or quotient is rounded only
once; all others are computed from exact numbers with longer mantissas.
-/
namespace PageBinding.Number

open Float.Model Float.Model.UnpackedFloat

/-- `y` is the fraction `q` rounded, but not yet put into bits. -/
def Settles (q : ℚ) (y : UnpackedFloat) : Prop :=
  ∃ r e, Rounded q r e ∧ y = settled r e

theorem Settles.roundsTo {q : ℚ} {y : UnpackedFloat} {x : Float} (h : Settles q y)
    (bits : x.toModel = pack y) (finite : x.toModel.unpack ≠ .infinity .positive) :
    RoundsTo q x := by
  obtain ⟨r, e, rounded, rfl⟩ := h
  apply rounded.roundsTo
  rw [bits] at finite ⊢
  exact rounded.unpack_settled.resolve_left finite

/-! ## Products and quotients -/

section

variable {m n : ℕ} {e f : ℤ} {pos : 0 < m} {pos' : 0 < n}

theorem mul_settles (long : 2 ^ 52 ≤ m * n) :
    Settles (m * 2 ^ e * (n * 2 ^ f))
      (UnpackedFloat.mul .binary64 (.finite .positive m e pos) (.finite .positive n f pos')) := by
  have described : Describes (.ofMantissaAndAccuracy (m * n) .exact) (m * n : ℕ) := by
    simp [Describes, halves, ExtendedMantissa.ofMantissaAndAccuracy]
  have value : (m : ℚ) * 2 ^ e * (n * 2 ^ f) = (m * n : ℕ) * 2 ^ (e + f) := by
    rw [zpow_add₀ two_ne_zero]
    push_cast
    ring
  obtain ⟨r, g, rounded, shape⟩ := round_settled (e := e + f) described (.inl long)
  rw [value]
  exact ⟨r, g, rounded, shape⟩

/-- The remainder of a division tells on which side of a half the fraction is. -/
theorem describes_quotient (m : ℕ) (pos : 0 < n) :
    Describes (.ofMantissaAndAccuracy (m / n) (accuracyOfFraction (m % n) n)) (m / n) := by
  have positive : (0 : ℚ) < n := by exact_mod_cast pos
  have parts : (m : ℚ) / n = (m / n : ℕ) + (m % n : ℕ) / n := by
    have whole : (m : ℚ) = n * (m / n : ℕ) + (m % n : ℕ) := by
      exact_mod_cast (Nat.div_add_mod m n).symm
    rw [div_eq_iff positive.ne', add_mul, div_mul_cancel₀ _ positive.ne']
    linarith
  have less : ((m % n : ℕ) : ℚ) / n < 1 := by
    rw [div_lt_one positive]
    exact_mod_cast Nat.mod_lt m pos
  rw [parts]
  generalize m / n = whole at *
  generalize m % n = rest at *
  unfold accuracyOfFraction
  split
  · rename_i zero
    simp [Describes, halves, ExtendedMantissa.ofMantissaAndAccuracy, zero]
  · rename_i notZero
    have some : (0 : ℚ) < rest / n := by
      have : (0 : ℚ) < rest := by exact_mod_cast Nat.pos_of_ne_zero notZero
      positivity
    cases side : compare (2 * rest) n with
    | lt =>
      have below : (rest : ℚ) / n < 1 / 2 := by
        rw [div_lt_div_iff₀ positive two_pos]
        have := Nat.compare_eq_lt.1 side
        exact_mod_cast (by omega : rest * 2 < 1 * n)
      simp only [Describes, halves, ExtendedMantissa.ofMantissaAndAccuracy, Bool.false_eq_true,
        if_false, if_true]
      constructor <;> linarith
    | eq =>
      have half : (rest : ℚ) / n = 1 / 2 := by
        rw [div_eq_div_iff positive.ne' two_ne_zero]
        have := Nat.compare_eq_eq.1 side
        exact_mod_cast (by omega : rest * 2 = 1 * n)
      simp only [Describes, halves, ExtendedMantissa.ofMantissaAndAccuracy, Bool.false_eq_true,
        if_false, if_true]
      linarith
    | gt =>
      have above : (1 : ℚ) / 2 < rest / n := by
        rw [div_lt_div_iff₀ two_pos positive]
        have := Nat.compare_eq_gt.1 side
        exact_mod_cast (by omega : 1 * n < rest * 2)
      simp only [Describes, halves, ExtendedMantissa.ofMantissaAndAccuracy, if_true]
      constructor <;> linarith

theorem div_settles :
    Settles (m * 2 ^ e / (n * 2 ^ f))
      (UnpackedFloat.div .binary64 (.finite .positive m e pos) (.finite .positive n f pos')) := by
  obtain ⟨t, target⟩ : ∃ t, t = min (e - f)
      (Format.binary64.targetExponent (totalExponent m e - totalExponent n f)) := ⟨_, rfl⟩
  obtain ⟨k, amount⟩ : ∃ k, k = (e - f - t).toNat := ⟨_, rfl⟩
  have shape : UnpackedFloat.div .binary64 (.finite .positive m e pos) (.finite .positive n f pos') =
      roundWithAccuracy .binary64 .positive (m <<< k / n) t
        (accuracyOfFraction (m <<< k % n) n) := by
    rw [amount, target]
    rfl
  have target : t = min (e - f) (max ((m.log2 + 1 + e) - (n.log2 + 1 + f) - 53) (-1074)) := target
  have fine : 2 ^ 52 ≤ m <<< k / n ∨ t ≤ -1074 := by
    by_cases least : t ≤ -1074
    · exact .inr least
    · left
      -- the quotient of a longer dividend has at least the length by which it is longer
      have longer : n.log2 + 53 ≤ m.log2 + k := by omega
      rw [Nat.le_div_iff_mul_le pos', Nat.shiftLeft_eq]
      calc 2 ^ 52 * n ≤ 2 ^ 52 * 2 ^ (n.log2 + 1) := Nat.mul_le_mul_left _ Nat.lt_log2_self.le
        _ = 2 ^ (n.log2 + 53) := by rw [← Nat.pow_add]; congr 1; omega
        _ ≤ 2 ^ (m.log2 + k) := Nat.pow_le_pow_right (by decide) longer
        _ = 2 ^ m.log2 * 2 ^ k := Nat.pow_add ..
        _ ≤ m * 2 ^ k := Nat.mul_le_mul_right _ (Nat.log2_self_le pos.ne')
  have value : (m : ℚ) * 2 ^ e / (n * 2 ^ f) = ((m <<< k : ℕ) / n : ℚ) * 2 ^ t := by
    have positive : (0 : ℚ) < n := by exact_mod_cast pos'
    have exponents : e = f + k + t := by omega
    rw [exponents, zpow_add₀ two_ne_zero, zpow_add₀ two_ne_zero, zpow_natCast, Nat.shiftLeft_eq]
    push_cast
    field_simp
  obtain ⟨r, g, rounded, result⟩ := round_settled (describes_quotient (m <<< k) pos') fine
  rw [value, shape]
  exact ⟨r, g, rounded, result⟩

end

/-! ## Exact numbers -/

variable {m n : ℕ} {e : ℤ}

/-- `y` is the whole number `n`, with a mantissa of full length. -/
def IsExactly (y : UnpackedFloat) (n : ℕ) : Prop :=
  ∃ m e pos, y = .finite .positive m e pos ∧ 2 ^ 52 ≤ m ∧ (m : ℚ) * 2 ^ e = n

theorem IsExactly.mul {y y' : UnpackedFloat} (h : IsExactly y m) (h' : IsExactly y' n) :
    Settles (m * n) (UnpackedFloat.mul .binary64 y y') := by
  obtain ⟨k, e, pos, rfl, long, value⟩ := h
  obtain ⟨l, f, pos', rfl, -, value'⟩ := h'
  rw [← value, ← value']
  exact mul_settles (Nat.le_trans long (Nat.le_mul_of_pos_right k pos'))

theorem IsExactly.div {y y' : UnpackedFloat} (h : IsExactly y m) (h' : IsExactly y' n) :
    Settles (m / n) (UnpackedFloat.div .binary64 y y') := by
  obtain ⟨k, e, pos, rfl, -, value⟩ := h
  obtain ⟨l, f, pos', rfl, -, value'⟩ := h'
  rw [← value, ← value']
  exact div_settles

/-- A mantissa that is not too long is not changed by rounding. -/
theorem round_exact {r : ℕ} (short : r < 2 ^ 53) (least : -1074 ≤ e) :
    roundWithAccuracy .binary64 .positive r e .exact = settled r e := by
  have none : (Format.binary64.targetExponent (totalExponent r e) - e).toNat = 0 := by
    rw [targetExponent_eq]
    have length := log2_short short
    omega
  have shifted : shiftToTargetExponent .binary64 r e .exact =
      (ExtendedMantissa.ofMantissaAndAccuracy r .exact, e) := by
    unfold shiftToTargetExponent shiftToExponent
    dsimp only
    rw [none, Int.natCast_zero, Int.add_zero]
    rfl
  unfold roundWithAccuracy
  rw [shifted]
  exact shift_settled short.le least rfl

theorem exactly_ofUInt64 {k : UInt64} (positive : 0 < k.toNat) (short : k.toNat < 2 ^ 53) :
    IsExactly (ofUInt64 k).unpack k.toNat := by
  generalize whole : k.toNat = n at positive short
  obtain ⟨l, amount⟩ : ∃ l, l = 52 - n.log2 := ⟨_, rfl⟩
  have length := log2_short short
  -- the mantissa is made as long as it can be
  obtain ⟨long, fits⟩ := lengthened positive short
  rw [← amount] at long fits
  have shift : (0 - Format.binary64.targetExponent (totalExponent n 0)).toNat = l := by
    rw [targetExponent_eq]
    omega
  have rounded : UnpackedFloat.normalize .binary64 (n : ℤ) 0 .positive =
      settled (n * 2 ^ l) (-l) := by
    unfold UnpackedFloat.normalize
    rw [Int.compare_eq_gt.2 (by omega)]
    dsimp only
    unfold UnpackedFloat.round decreaseExponent
    dsimp only
    rw [Int.toNat_natCast, shift, Nat.shiftLeft_eq, Int.zero_sub]
    exact round_exact fits (by omega)
  have shape : settled (n * 2 ^ l) (-l) =
      .finite .positive (n * 2 ^ l) (-l) (Nat.pos_of_ne_zero (by omega)) := by
    rw [settled, dif_neg (by omega), if_pos fits]
  refine ⟨n * 2 ^ l, -l, Nat.pos_of_ne_zero (by omega), ?_, long, ?_⟩
  · show (pack (UnpackedFloat.normalize .binary64 (k.toNat : ℤ) 0 .positive)).unpack = _
    rw [whole, rounded, shape, unpack_pack fits (by omega) (.inl long), if_pos (by omega)]
  · rw [zpow_neg, zpow_natCast]
    push_cast
    field_simp

/-- Whether a number is a given whole number, as far as bits go. -/
def isExactly (y : UnpackedFloat) (n : ℕ) : Bool :=
  match y with
  | .finite .positive m e _ => 2 ^ 52 ≤ m && m * 2 ^ e.toNat == n * 2 ^ (-e).toNat
  | _ => false

theorem exactly_of_isExactly {y : UnpackedFloat} (h : isExactly y n = true) : IsExactly y n := by
  cases y with
  | notANumber => cases h
  | infinity => cases h
  | zero => cases h
  | finite s m e pos =>
    cases s with
    | negative => cases h
    | positive =>
      have h : (decide (2 ^ 52 ≤ m) && m * 2 ^ e.toNat == n * 2 ^ (-e).toNat) = true := h
      rw [Bool.and_eq_true, decide_eq_true_eq, beq_iff_eq] at h
      refine ⟨m, e, pos, rfl, h.1, ?_⟩
      have product : (m : ℚ) * 2 ^ e.toNat = n * 2 ^ (-e).toNat := by exact_mod_cast h.2
      have exponent : (2 : ℚ) ^ e * 2 ^ (-e).toNat = 2 ^ e.toNat := by
        rw [← zpow_natCast, ← zpow_natCast, ← zpow_add₀ two_ne_zero]
        congr 1
        omega
      have power : (0 : ℚ) < 2 ^ (-e).toNat := by positivity
      refine mul_right_cancel₀ power.ne' ?_
      rw [mul_assoc, exponent, product]

theorem isExactly_powers : ∀ k : Fin Float.exactlyRepresentablePowersOfTen.size,
    isExactly (Float.exactlyRepresentablePowersOfTen[k]).toModel.unpack (10 ^ k.val) = true := by
  decide +kernel

theorem exactly_power {k : ℕ} (small : k < Float.exactlyRepresentablePowersOfTen.size) :
    IsExactly (Float.exactlyRepresentablePowersOfTen[k]).toModel.unpack (10 ^ k) :=
  exactly_of_isExactly (isExactly_powers ⟨k, small⟩)

/-! ## Powers of ten -/

theorem exactly_small (positive : 0 < n) (short : n < 2 ^ 53) :
    IsExactly n.toUInt64.toFloat.toModel.unpack n := by
  have same : n.toUInt64.toNat = n := by
    rw [Nat.toUInt64_eq, UInt64.toNat_ofNat', Nat.mod_eq_of_lt (by omega)]
  have whole := exactly_ofUInt64 (k := n.toUInt64) (by omega) (by omega)
  rw [same] at whole
  exact whole

theorem scientific_product (positive : 0 < n) {k : ℕ} (small : k ≤ 2048) :
    ∃ y, Settles (n * 10 ^ k) y ∧ (Float.ofScientific n false k).toModel = pack y := by
  unfold Float.ofScientific
  split
  · rename_i fast
    have product := (exactly_small positive fast.1).mul
      (exactly_power (Nat.lt_of_le_of_lt fast.2 (by decide)))
    rw [Nat.cast_pow, Nat.cast_ofNat] at product
    exact ⟨_, product, rfl⟩
  · refine ⟨UnpackedFloat.ofScientific .binary64 n k, ?_, rfl⟩
    have longer : 0 < n <<< 53 := by
      rw [Nat.shiftLeft_eq]
      omega
    have power : 0 < 10 ^ k := Nat.pow_pos (by decide)
    have long : 2 ^ 52 ≤ n <<< 53 * 10 ^ k := by
      have least : 2 ^ 52 ≤ n <<< 53 := by
        rw [Nat.shiftLeft_eq]
        omega
      exact Nat.le_trans least (Nat.le_mul_of_pos_right _ power)
    have product : Settles ((n <<< 53 : ℕ) * 2 ^ (-53 : ℤ) * ((10 ^ k : ℕ) * 2 ^ (0 : ℤ)))
        (UnpackedFloat.mul .binary64 (.finite .positive (n <<< 53) (-53) longer)
          (.finite .positive (10 ^ k) 0 power)) := mul_settles long
    have value : ((n <<< 53 : ℕ) : ℚ) * 2 ^ (-53 : ℤ) * ((10 ^ k : ℕ) * 2 ^ (0 : ℤ)) =
        n * 10 ^ k := by
      rw [Nat.shiftLeft_eq, zpow_neg, zpow_zero]
      push_cast
      field_simp
    rw [value] at product
    unfold UnpackedFloat.ofScientific
    rw [dif_neg positive.ne', if_neg, if_neg, if_pos (Int.natCast_nonneg k)]
    · exact product
    · show ¬ (k : ℤ) < -(2048 + (n.log2 : ℤ))
      omega
    · show ¬ (2048 : ℤ) < k
      omega

theorem scientific_quotient (positive : 0 < n) {k : ℕ} (some : 0 < k) (small : k ≤ 2048 + n.log2) :
    ∃ y, Settles (n / 10 ^ k) y ∧ (Float.ofScientific n true k).toModel = pack y := by
  unfold Float.ofScientific
  split
  · rename_i fast
    have quotient := (exactly_small positive fast.1).div
      (exactly_power (Nat.lt_of_le_of_lt fast.2 (by decide)))
    rw [Nat.cast_pow, Nat.cast_ofNat] at quotient
    exact ⟨_, quotient, rfl⟩
  · refine ⟨UnpackedFloat.ofScientific .binary64 n (Int.negOfNat k), ?_, rfl⟩
    have exponent : Int.negOfNat k = -(k : ℤ) := Int.negOfNat_eq
    obtain ⟨l, place⟩ : ∃ l, l = (-Int.negOfNat k).toNat := ⟨_, rfl⟩
    have power : 0 < 10 ^ l := Nat.pow_pos (by decide)
    have quotient : Settles (n * 2 ^ (0 : ℤ) / ((10 ^ l : ℕ) * 2 ^ (0 : ℤ)))
        (UnpackedFloat.div .binary64 (.finite .positive n 0 positive)
          (.finite .positive (10 ^ l) 0 power)) := div_settles
    have value : (n : ℚ) * 2 ^ (0 : ℤ) / ((10 ^ l : ℕ) * 2 ^ (0 : ℤ)) = n / 10 ^ k := by
      rw [show l = k by omega, zpow_zero, mul_one, mul_one, Nat.cast_pow, Nat.cast_ofNat]
    rw [value] at quotient
    subst place
    unfold UnpackedFloat.ofScientific
    rw [dif_neg positive.ne', if_neg, if_neg, if_neg (by omega)]
    · exact quotient
    · show ¬ Int.negOfNat k < -(2048 + (n.log2 : ℤ))
      omega
    · show ¬ (2048 : ℤ) < Int.negOfNat k
      omega

/-! ## Decimal fractions -/

theorem unpack_ne_infinity {x : Float} (finite : (x == infinity) = false) :
    x.toModel.unpack ≠ .infinity .positive := by
  intro infinite
  have equal : (x == infinity) = UnpackedFloat.beq x.toModel.unpack infinity.toModel.unpack := rfl
  rw [equal, infinite] at finite
  cases finite

theorem roundsTo_zero {q : ℚ} (nonneg : 0 ≤ q) (tiny : q / 2 ^ (-1074 : ℤ) < 1 / 2) :
    RoundsTo q 0.0 := by
  have above : 0 ≤ q / 2 ^ (-1074 : ℤ) := by positivity
  have nearest : Nearest 0 (q / 2 ^ (-1074 : ℤ)) := by
    generalize q / 2 ^ (-1074 : ℤ) = z at tiny above
    apply nearest_of_within <;> rw [Nat.cast_zero] <;> linarith
  have rounded : Rounded q 0 (-1074) := ⟨nearest, le_rfl, .inl rfl, by decide⟩
  exact rounded.roundsTo rfl

/-- With no digit in the first four hundred places, a fraction is nearest to zero. -/
theorem tiny_of_length {n : ℕ} {e : ℤ} (small : (n.repr.length : ℤ) + e < -400) :
    n * (10 : ℚ) ^ e / 2 ^ (-1074 : ℤ) < 1 / 2 := by
  have digits : (n : ℚ) < 10 ^ (n.repr.length : ℤ) := by
    rw [zpow_natCast]
    exact_mod_cast (Nat.length_repr_le_iff Nat.length_repr_pos).1 le_rfl
  have powers : (2 : ℕ) ^ 1075 < 10 ^ 401 := by decide +kernel
  have powers : (2 : ℚ) ^ (1075 : ℤ) < 10 ^ (401 : ℤ) := by
    rw [← Nat.cast_lt (α := ℚ), Nat.cast_pow, Nat.cast_pow] at powers
    exact powers
  have unit : (0 : ℚ) < 2 ^ (-1074 : ℤ) := by positivity
  rw [div_lt_iff₀ unit]
  calc n * (10 : ℚ) ^ e < 10 ^ (n.repr.length : ℤ) * 10 ^ e := by gcongr
    _ = 10 ^ (n.repr.length + e) := (zpow_add₀ (by norm_num) _ _).symm
    _ ≤ 10 ^ (-401 : ℤ) := zpow_le_zpow_right₀ (by norm_num) (by omega)
    _ = (10 ^ (401 : ℤ))⁻¹ := zpow_neg _ _
    _ < (2 ^ (1075 : ℤ))⁻¹ := inv_strictAnti₀ (by positivity) powers
    _ = 2 ^ (-1 + -1074 : ℤ) := (zpow_neg _ _).symm
    _ = 1 / 2 * 2 ^ (-1074 : ℤ) := by rw [zpow_add₀ two_ne_zero, zpow_neg_one, one_div]

theorem length_le_log2 (n : ℕ) : n.repr.length ≤ n.log2 + 1 := by
  apply (Nat.length_repr_le_iff (Nat.succ_pos _)).2
  exact Nat.lt_of_lt_of_le Nat.lt_log2_self (Nat.pow_le_pow_left (by decide) _)

/-- A decimal fraction is read as the number for it, unless that is infinite. -/
theorem ofDecimal_roundsTo {n : ℕ} {e : ℤ} (finite : (ofDecimal n e == infinity) = false) :
    RoundsTo (n * 10 ^ e) (ofDecimal n e) := by
  have nonneg : (0 : ℚ) ≤ n * 10 ^ e := by positivity
  unfold ofDecimal at finite ⊢
  split at finite
  · rename_i zero
    rw [if_pos zero]
    apply roundsTo_zero nonneg
    simp [zero]
  · rename_i notZero
    have positive : 0 < n := Nat.pos_of_ne_zero notZero
    have length := length_le_log2 n
    rw [if_neg notZero]
    dsimp only at finite ⊢
    split at finite
    · have infinite : (infinity == infinity) = true := by decide +kernel
      rw [infinite] at finite
      cases finite
    · rename_i notLarge
      rw [if_neg notLarge]
      split at finite
      · rename_i small
        rw [if_pos small]
        exact roundsTo_zero nonneg (tiny_of_length small)
      · rename_i notSmall
        rw [if_neg notSmall]
        split at finite
        · rename_i whole
          rw [if_pos whole]
          obtain ⟨y, settles, bits⟩ := scientific_product positive (k := e.toNat) (by omega)
          have value : (10 : ℚ) ^ e = 10 ^ e.toNat := by
            rw [← zpow_natCast, Int.toNat_of_nonneg whole]
          rw [value]
          exact settles.roundsTo bits (unpack_ne_infinity finite)
        · rename_i negative
          rw [if_neg negative]
          obtain ⟨y, settles, bits⟩ :=
            scientific_quotient positive (k := (-e).toNat) (by omega) (by omega)
          have value : (n : ℚ) * 10 ^ e = n / 10 ^ (-e).toNat := by
            rw [← zpow_natCast, Int.toNat_of_nonneg (by omega), zpow_neg, div_inv_eq_mul]
          rw [value]
          exact settles.roundsTo bits (unpack_ne_infinity finite)

end PageBinding.Number
