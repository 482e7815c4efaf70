import PageBinding.Proofs.Number.Apart
import PageBinding.Proofs.Number.Decimal

/-!
Whole numbers up to `2 ^ 53` are exact: counts are converted without rounding, and sums of them that
are not larger are not rounded either.
-/
namespace PageBinding.Number

open Float.Model Float.Model.UnpackedFloat

variable {m n r : ℕ} {e : ℤ} {x y : Float} {u v : UnpackedFloat}

/-! ## Rounding what needs none -/

theorem Nearest.eq (h : Nearest r n) : r = n := by
  have within : |(r : ℤ) - n| < 1 := by
    exact_mod_cast h.close.trans_lt one_half_lt_one
  have none := Int.abs_lt_one_iff.1 within
  omega

theorem Rounded.exact (h : Rounded n r e) (positive : 0 < n) (small : n ≤ 2 ^ 53) :
    (r : ℚ) * 2 ^ e = n ∧ 2 ^ 52 ≤ r ∧ e ≤ 1 := by
  have unit : (0 : ℚ) < 2 ^ e := by positivity
  have short := h.short
  rcases le_or_gt e 0 with below | above
  · -- a whole number of units, and of less than the least unit it would be too long
    obtain ⟨k, rfl⟩ : ∃ k : ℕ, e = -k := ⟨e.natAbs, by omega⟩
    have units : (n : ℚ) / 2 ^ (-k : ℤ) = (n * 2 ^ k : ℕ) := by
      rw [zpow_neg, zpow_natCast, div_inv_eq_mul]
      push_cast
      ring
    have nearest := h.nearest
    rw [units] at nearest
    have whole := nearest.eq
    refine ⟨?_, ?_, by omega⟩
    · rw [whole, ← units, div_mul_cancel₀ _ unit.ne']
    · rcases h.long with least | long
      · have large : 2 ^ 54 ≤ 2 ^ k := Nat.pow_le_pow_right two_pos (by omega)
        have more : 2 ^ k ≤ n * 2 ^ k := Nat.le_mul_of_pos_left _ positive
        omega
      · rw [units, ← whole] at long
        exact_mod_cast long
  · -- only the largest number has units above one
    have long := h.long.resolve_left (by omega)
    rw [le_div_iff₀ unit] at long
    have one : e = 1 := by
      by_contra more
      have least : (4 : ℚ) ≤ 2 ^ e := by
        calc (4 : ℚ) = 2 ^ (2 : ℤ) := by norm_num
          _ ≤ 2 ^ e := zpow_le_zpow_right₀ one_le_two (by omega)
      have most : (n : ℚ) ≤ 2 ^ 53 := by exact_mod_cast small
      linarith
    subst one
    have full : n = 2 ^ 53 := by
      have large : 2 ^ 53 ≤ n := by
        norm_num at long
        norm_num
        exact_mod_cast long
      omega
    have units : (n : ℚ) / 2 ^ (1 : ℤ) = (2 ^ 52 : ℕ) := by
      rw [full]
      norm_num
    have nearest := h.nearest
    rw [units] at nearest
    have whole := nearest.eq
    refine ⟨?_, whole.ge, le_rfl⟩
    rw [whole, ← units, div_mul_cancel₀ _ unit.ne']

theorem Settles.exactly (h : Settles n u) (positive : 0 < n) (small : n ≤ 2 ^ 53) :
    IsExactly (pack u).unpack n := by
  obtain ⟨r, e, rounded, rfl⟩ := h
  obtain ⟨value, long, most⟩ := rounded.exact positive small
  have least := rounded.least
  rcases settled_cases r e with ⟨zero, -⟩ | ⟨pos, short, shape⟩ | ⟨full, shape⟩
  · omega
  · rw [shape, unpack_pack short least (.inl long), if_pos (by omega)]
    exact ⟨r, e, pos, rfl, long, value⟩
  · rw [shape, unpack_pack (by decide) (by omega) (.inl (by decide)), if_pos (by omega)]
    refine ⟨2 ^ 52, e + 1, by decide, rfl, le_rfl, ?_⟩
    have units : r = 2 ^ 53 := le_antisymm rounded.short full
    rw [← value, units, zpow_add₀ two_ne_zero]
    push_cast
    ring

/-! ## Sums -/

theorem normalize_settles (long : 2 ^ 52 ≤ m) :
    Settles (m * 2 ^ e) (UnpackedFloat.normalize .binary64 (m : ℤ) e .positive) := by
  have none : (e - Format.binary64.targetExponent (totalExponent m e)).toNat = 0 := by
    have length : 52 ≤ m.log2 := (Nat.le_log2 (by omega)).2 long
    rw [targetExponent_eq]
    omega
  have described : Describes (.ofMantissaAndAccuracy m .exact) m := by
    simp [Describes, halves, ExtendedMantissa.ofMantissaAndAccuracy]
  obtain ⟨r, f, rounded, shape⟩ := round_settled (e := e) described (.inl long)
  refine ⟨r, f, rounded, ?_⟩
  unfold UnpackedFloat.normalize
  rw [Int.compare_eq_gt.2 (by omega)]
  dsimp only
  unfold UnpackedFloat.round decreaseExponent
  dsimp only
  rw [Int.toNat_natCast, none, Nat.shiftLeft_zero, Int.natCast_zero, Int.sub_zero, shape]

/-- The mantissas are added at the smaller exponent. -/
theorem IsExactly.add (h : IsExactly u m) (h' : IsExactly v n) :
    Settles (m + n : ℕ) (UnpackedFloat.add .binary64 u v) := by
  obtain ⟨k, e, pos, rfl, long, value⟩ := h
  obtain ⟨l, f, pos', rfl, -, value'⟩ := h'
  obtain ⟨g, least⟩ : ∃ g, g = min e f := ⟨_, rfl⟩
  have sum : ((m + n : ℕ) : ℚ) =
      (k <<< (e - g).toNat + l <<< (f - g).toNat : ℕ) * 2 ^ g := by
    rw [Nat.shiftLeft_eq, Nat.shiftLeft_eq, Nat.cast_add m, ← value, ← value',
      zpow_units (show g ≤ e by omega), zpow_units (show g ≤ f by omega)]
    push_cast
    ring
  have full : 2 ^ 52 ≤ k <<< (e - g).toNat + l <<< (f - g).toNat := by
    have more : k ≤ k * 2 ^ (e - g).toNat := Nat.le_mul_of_pos_right _ (Nat.two_pow_pos _)
    rw [Nat.shiftLeft_eq, Nat.shiftLeft_eq]
    omega
  have shape : UnpackedFloat.add .binary64 (.finite .positive k e pos) (.finite .positive l f pos') =
      UnpackedFloat.normalize .binary64 (k <<< (e - g).toNat + l <<< (f - g).toNat : ℕ) g
        .positive := by
    rw [Int.natCast_add, least]
    rfl
  rw [sum, shape]
  exact normalize_settles full

/-! ## Numbers -/

/-- A number is a natural number exactly. -/
def IsCount (x : Float) (n : ℕ) : Prop :=
  n = 0 ∧ x.toModel.unpack = .zero .positive ∨ IsExactly x.toModel.unpack n

theorem isCount_ofNat (small : n ≤ 2 ^ 53) : IsCount (Float.ofNat n) n := by
  rcases Nat.eq_zero_or_pos n with rfl | positive
  · exact .inl ⟨rfl, rfl⟩
  · obtain ⟨u, settles, bits⟩ := scientific_product positive (Nat.zero_le 2048)
    rw [pow_zero, mul_one] at settles
    right
    show IsExactly (Float.ofScientific n false 0).toModel.unpack n
    rw [bits]
    exact settles.exactly positive small

theorem IsExactly.pos (h : IsExactly u n) : 0 < n := by
  obtain ⟨m, e, pos, -, -, value⟩ := h
  have positive : (0 : ℚ) < n := by
    rw [← value]
    positivity
  exact_mod_cast positive

/-- Bits keep what they hold. -/
theorem IsExactly.unpack_pack (h : IsExactly x.toModel.unpack n) :
    (pack x.toModel.unpack).unpack = x.toModel.unpack := by
  obtain ⟨m, e, pos, shape, long, -⟩ := h
  have fits := unpack_fits shape
  rw [shape, Number.unpack_pack fits.short fits.least fits.full, if_pos fits.most]

theorem IsCount.add (h : IsCount x m) (h' : IsCount y n) (small : m + n ≤ 2 ^ 53) :
    IsCount (x + y) (m + n) := by
  have bits : (x + y).toModel.unpack =
      (pack (UnpackedFloat.add .binary64 x.toModel.unpack y.toModel.unpack)).unpack := rfl
  rcases h with ⟨rfl, zero⟩ | exactly
  · rcases h' with ⟨rfl, zero'⟩ | exactly'
    · refine .inl ⟨rfl, ?_⟩
      rw [bits, zero, zero']
      rfl
    · have kept : UnpackedFloat.add .binary64 (.zero .positive) y.toModel.unpack =
          y.toModel.unpack := by
        obtain ⟨k, e, pos, shape, -⟩ := exactly'
        rw [shape]
        rfl
      right
      rw [bits, zero, kept, exactly'.unpack_pack, Nat.zero_add]
      exact exactly'
  · rcases h' with ⟨rfl, zero'⟩ | exactly'
    · have kept : UnpackedFloat.add .binary64 x.toModel.unpack (.zero .positive) =
          x.toModel.unpack := by
        obtain ⟨k, e, pos, shape, -⟩ := exactly
        rw [shape]
        rfl
      right
      rw [bits, zero', kept, exactly.unpack_pack]
      exact exactly
    · right
      rw [bits]
      exact (exactly.add exactly').exactly (Nat.add_pos_left exactly.pos _) small

theorem IsCount.value? (h : IsCount x n) : value? x = some (n : ℚ) := by
  rcases h with ⟨rfl, zero⟩ | ⟨m, e, pos, shape, -, value⟩
  · rw [Number.value?, zero, Nat.cast_zero]
    rfl
  · rw [Number.value?, shape, ← value]
    rfl

theorem IsCount.isFinite (h : IsCount x n) : x.isFinite = true := by
  show x.toModel.unpack.isFinite = true
  rcases h with ⟨-, zero⟩ | ⟨m, e, pos, shape, -⟩
  · rw [zero]
    rfl
  · rw [shape]
    rfl

/-- The whole part of a whole number is the number. -/
theorem truncate_of_value {b : Binary} {n : ℤ} (whole : b.value = n) : b.truncate = n := by
  obtain ⟨negative, m, e⟩ := b
  obtain ⟨magnitude, cut⟩ : ∃ magnitude, magnitude =
      if 0 ≤ e then m * Nat.pow 2 e.toNat else m / Nat.pow 2 (-e).toNat := ⟨_, rfl⟩
  have size : (m : ℚ) * 2 ^ e = magnitude := by
    by_cases large : 0 ≤ e
    · rw [if_pos large] at cut
      conv_lhs => rw [← Int.toNat_of_nonneg large]
      rw [cut, zpow_natCast]
      exact_mod_cast rfl
    · obtain ⟨k, rfl⟩ : ∃ k : ℕ, e = -k := ⟨e.natAbs, by omega⟩
      rw [if_neg large, Int.neg_neg, Int.toNat_natCast] at cut
      rw [cut]
      exact (Binary.whole_iff_div m k).2 ((Binary.signed_whole _ _).1 ⟨n, whole⟩)
  have shape : (⟨negative, m, e⟩ : Binary).truncate =
      if negative then -(magnitude : ℤ) else magnitude := by
    rw [cut]
    rfl
  have value : signed (if negative then .negative else .positive) (magnitude : ℚ) = n := by
    rw [← size]
    exact whole
  rw [shape]
  cases negative with
  | false =>
    have same : (magnitude : ℚ) = n := value
    exact_mod_cast same
  | true =>
    have same : -(magnitude : ℚ) = n := value
    exact_mod_cast same

/-- The whole part of a whole number. -/
theorem IsCount.toInt? (h : IsCount x n) : toInt? x = some (n : ℤ) := by
  obtain ⟨b, parts⟩ := Binary.exists_parts h.isFinite
  have value : b.value = (n : ℤ) :=
    Option.some.inj ((Binary.value?_of_parts parts).symm.trans h.value?)
  rw [Number.toInt?, parts, Option.map_some, truncate_of_value value]

end PageBinding.Number
