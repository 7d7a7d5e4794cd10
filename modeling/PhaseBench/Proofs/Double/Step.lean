import PhaseBench.Proofs.Double.Value
import PhaseBench.Proofs.Table.EqualSamples

/-!
# Steps between magnitudes

The magnitudes of one scale are the multiples of a power of two (`magnitude_steps`), so what
rounding does to a fraction can be said with powers of two alone: a fraction below `2 ^ e` is
changed by no more than `2 ^ (e - 54)`, half a step below this power
(`abs_magnitude_sub_le_zpow`). Quotients and products are placed against the middle of two
magnitudes in rationals (`nearestIndex_le_iff_ratio`, `productIndex_le_iff`).
-/

namespace PhaseBench.Double

/-! ## Steps -/

theorem one_cast : (one : ℚ) = 2 ^ (1074 : ℤ) := by
  obtain ⟨bits, unit, rfl⟩ := exists_one_eq
  rw [unit, Nat.cast_pow]
  exact (zpow_natCast 2 1074).symm

theorem magnitude_steps {s m : Nat} (upper : m ≤ 2 * binade) (lower : s = 0 ∨ binade ≤ m) :
    magnitude (s * binade + m) = m * 2 ^ (s - 1074 : ℤ) := by
  rw [magnitude, units_steps upper lower, one_cast, zpow_sub₀ two_ne_zero, zpow_natCast,
    Nat.cast_mul, Nat.cast_pow, Nat.cast_ofNat, mul_div_assoc]

/-- Powers of two are magnitudes. -/
theorem exists_magnitude_zpow {e : ℤ} (normal : -1022 ≤ e) : ∃ index, magnitude index = 2 ^ e := by
  obtain ⟨s, scale⟩ := Int.eq_ofNat_of_zero_le (show 0 ≤ e + 1022 by omega)
  refine ⟨s * binade + binade, ?_⟩
  rw [magnitude_steps (by omega) (.inr (Nat.le_refl _)), binade_eq,
    show ((4503599627370496 : ℕ) : ℚ) = 2 ^ (52 : ℤ) by norm_num, ← zpow_add₀ two_ne_zero,
    show 52 + ((s : ℤ) - 1074) = e by omega]

theorem magnitude_infinityIndex : magnitude infinityIndex = 2 ^ (1024 : ℤ) := by
  have power : ((2 * 4503599627370496 : ℕ) : ℚ) = 2 ^ (53 : ℤ) := by norm_num
  rw [show infinityIndex = 2045 * binade + 2 * binade from rfl,
    magnitude_steps (Nat.le_refl _) (.inr (by decide)), binade_eq, power,
    ← zpow_add₀ two_ne_zero]
  rfl

theorem magnitude_pos {index : Nat} (positive : 0 < index) : 0 < magnitude index := by
  have := magnitude_strictMono positive
  rwa [magnitude_zero] at this

/-- The power of two below a magnitude. -/
theorem exists_zpow_le {index : Nat} (positive : 0 < index) (finite : index < infinityIndex) :
    ∃ k : ℤ, k ≤ 1023 ∧ (2 : ℚ) ^ k ≤ magnitude index ∧
      magnitude index < 2 ^ (k + 1) := by
  have least := Int.zpow_log_le_self one_lt_two (magnitude_pos positive)
  have most := Int.lt_zpow_succ_log_self one_lt_two (magnitude index)
  have top := magnitude_strictMono finite
  rw [magnitude_infinityIndex] at top
  have power := (zpow_lt_zpow_iff_right₀ one_lt_two).mp (least.trans_lt top)
  exact ⟨_, by omega, least, most⟩

/-! ## Values -/

theorem toRat?_ofIndex (index : Nat) : (ofIndex false index).toRat? =
    if index < infinityIndex then some (magnitude index) else none := by
  rw [ofIndex]
  split <;> rfl

theorem toRat?_ofNat {n : Nat} (few : n ≤ 2 ^ 53) : (ofNat n).toRat? = some (n : ℚ) := by
  have value : magnitude (wholeIndex n) = n := by
    rw [magnitude, units_wholeIndex_of_le few, Nat.cast_mul,
      mul_div_cancel_right₀ _ one_cast_pos.ne']
  rw [ofNat_eq (by omega), ← value]
  rfl

theorem exists_finite_of_toRat? {x : Double} {m : ℚ} (value : x.toRat? = some m) (pos : 0 < m) :
    ∃ index : Fin infinityIndex, x = .finite false index ∧ 0 < index.val ∧
      m = magnitude index := by
  cases x with
  | nan => cases value
  | infinite negative => cases value
  | finite negative index =>
      cases negative with
      | true =>
          obtain rfl : -magnitude index = m := Option.some.inj value
          have := magnitude_nonneg index
          linarith
      | false =>
          obtain rfl : magnitude index = m := Option.some.inj value
          refine ⟨index, rfl, Nat.pos_of_ne_zero fun zero => ?_, rfl⟩
          rw [zero, magnitude_zero] at pos
          exact lt_irrefl _ pos

/-! ## Roundings -/

section Ratio

variable {num den index : Nat}

theorem nearestIndex_le_iff_ratio (pos : 0 < den) :
    nearestIndex (num * one) den ≤ index ↔
      2 * (num / den : ℚ) < magnitude index + magnitude (index + 1) ∨
        2 * (num / den : ℚ) = magnitude index + magnitude (index + 1) ∧ index % 2 = 0 := by
  rw [nearestIndex_le_iff pos, magnitude_add, two_mul_ratio_lt_iff pos one_pos,
    two_mul_ratio_eq_iff pos one_pos]

/-- A fraction that is a magnitude is not rounded. -/
theorem nearestIndex_of_magnitude (pos : 0 < den) (exact : (num / den : ℚ) = magnitude index) :
    nearestIndex (num * one) den = index := by
  have divisor : (den : ℚ) ≠ 0 := by exact_mod_cast pos.ne'
  rw [magnitude, div_eq_div_iff divisor one_cast_pos.ne'] at exact
  have product : num * one = units index * den := by exact_mod_cast exact
  rw [product, nearestIndex_units_mul _ pos]

/-- The scale at which a fraction below a power of two is rounded. -/
theorem scale_le_of_lt (pos : 0 < den) {e : ℤ} (normal : -1021 ≤ e)
    (less : (num / den : ℚ) < 2 ^ e) {s : Nat}
    (lower : s = 0 ∨ den * 2 ^ (52 + s) ≤ num * one) : (s : ℤ) ≤ e + 1021 := by
  rcases lower with rfl | filled
  · omega
  · have divisor : (0 : ℚ) < den := by exact_mod_cast pos
    rw [← Nat.cast_le (α := ℚ), Nat.cast_mul, Nat.cast_mul, Nat.cast_pow] at filled
    rw [div_lt_iff₀ divisor] at less
    have powers : (2 : ℚ) ^ (52 + s : ℤ) < 2 ^ (e + 1074) := by
      apply lt_of_mul_lt_mul_left _ divisor.le
      calc (den : ℚ) * 2 ^ (52 + s : ℤ) = den * 2 ^ (52 + s) := by norm_cast
        _ ≤ num * one := filled
        _ < 2 ^ e * den * one := mul_lt_mul_of_pos_right less one_cast_pos
        _ = den * 2 ^ (e + 1074) := by
          rw [one_cast, zpow_add₀ two_ne_zero, mul_comm (2 ^ e) (den : ℚ), mul_assoc]
    have := (zpow_lt_zpow_iff_right₀ one_lt_two).mp powers
    omega

/-- What rounding changes is at most half a step of the scale. -/
theorem two_mul_abs_steps_sub_le (pos : 0 < den) {s steps : Nat}
    (error : 2 * |(steps * ((den * 2 ^ s : ℕ) : ℚ)) - (num * one : ℕ)| ≤ (den * 2 ^ s : ℕ)) :
    2 * |(steps : ℚ) * 2 ^ (s - 1074 : ℤ) - num / den| ≤ 2 ^ (s - 1074 : ℤ) := by
  have divisor : (0 : ℚ) < den := by exact_mod_cast pos
  have unit : (2 : ℚ) ^ (s - 1074 : ℤ) * one = 2 ^ s := by
    rw [one_cast, ← zpow_add₀ two_ne_zero, sub_add_cancel, zpow_natCast]
  have measure := one_cast_pos
  push_cast at error
  generalize (one : ℚ) = measured at *
  -- Both the error and the step are measured in parts of `den * one`.
  have scaled : (steps * (den * 2 ^ s) - num * measured : ℚ) =
      (steps * 2 ^ (s - 1074 : ℤ) - num / den) * (den * measured) := by
    rw [← unit]
    field_simp
  rw [scaled, abs_mul, abs_of_pos (mul_pos divisor measure), ← unit] at error
  apply le_of_mul_le_mul_right _ (mul_pos divisor measure)
  linarith

/-- A fraction below a power of two is changed by no more than half a step below this power. -/
theorem abs_magnitude_sub_le_zpow (pos : 0 < den) {e : ℤ} (normal : -1021 ≤ e)
    (less : (num / den : ℚ) < 2 ^ e) :
    |magnitude (nearestIndex (num * one) den) - num / den| ≤ 2 ^ (e - 54) := by
  obtain ⟨s, upper, lower⟩ := exists_scale (num * one) pos
  have step : 0 < den * 2 ^ s := by positivity
  have error := two_mul_abs_steps_sub_le pos (two_mul_abs_divHalfEven_sub_le (num * one) step)
  have fine := scale_le_of_lt pos normal less lower
  have half : (2 : ℚ) ^ (s - 1074 : ℤ) ≤ 2 * 2 ^ (e - 54) := by
    rw [← zpow_one_add₀ two_ne_zero]
    exact zpow_le_zpow_right₀ one_le_two (by omega)
  rw [nearestIndex_eq pos upper lower, magnitude_steps (divHalfEven_le_two_binade pos upper)
    (lower.imp_right fun filled => binade_le_divHalfEven pos filled)]
  linarith

end Ratio

/-- The exact product of two magnitudes against the middle of two others. -/
theorem productIndex_le_iff (i j : Nat) {index : Nat} :
    nearestIndex (units i * units j) one ≤ index ↔
      2 * (magnitude i * magnitude j) < magnitude index + magnitude (index + 1) ∨
        2 * (magnitude i * magnitude j) = magnitude index + magnitude (index + 1) ∧
          index % 2 = 0 := by
  have same : nearestIndex (units i * units j) one =
      nearestIndex (units i * units j * one) (one * one) := by
    apply nearestIndex_congr one_pos (Nat.mul_pos one_pos one_pos)
    rw [Nat.mul_assoc _ one one]
  have ratio : ((units i * units j : ℕ) / (one * one : ℕ) : ℚ) = magnitude i * magnitude j := by
    rw [magnitude, magnitude, div_mul_div_comm, Nat.cast_mul, Nat.cast_mul]
  rw [same, nearestIndex_le_iff_ratio (Nat.mul_pos one_pos one_pos), ratio]

end PhaseBench.Double
