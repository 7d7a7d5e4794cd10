import Mathlib
import PhaseBench.Double.Basic

/-!
# Rounding

Rounding a fraction to a whole number (`divHalfEven`) and to a magnitude
(`Double.nearestIndex`) is monotone in the fraction and leaves alone what needs no
rounding. Two fractions of the same value round alike, and the order of the
magnitudes is the order of their indices: both follow from these two facts.

A magnitude is known by a scale `s` and a number `m` of steps of `2^s` units:
`units_steps` gives the magnitude of an index in that form, `exists_steps` finds
the form of an index, and `nearestIndex_eq` says which scale a fraction is rounded
at.
-/

namespace PhaseBench

/-! ## Whole numbers -/

theorem div_le_divHalfEven (num den : Nat) : num / den ≤ divHalfEven num den := by
  simp only [divHalfEven]
  split_ifs <;> omega

theorem divHalfEven_le_div_succ (num den : Nat) : divHalfEven num den ≤ num / den + 1 := by
  simp only [divHalfEven]
  split_ifs <;> omega

/-- Rounding keeps the order of fractions. -/
theorem divHalfEven_mono {a b c d : Nat} (hb : 0 < b) (hd : 0 < d) (le : a * d ≤ c * b) :
    divHalfEven a b ≤ divHalfEven c d := by
  have floors : a / b ≤ c / d := by
    rw [Nat.le_div_iff_mul_le hd]
    apply Nat.le_of_mul_le_mul_right _ hb
    calc a / b * d * b = a / b * b * d := by ring
      _ ≤ a * d := Nat.mul_le_mul_right d (Nat.div_mul_le_self a b)
      _ ≤ c * b := le
  rcases Nat.lt_or_eq_of_le floors with less | same
  · calc divHalfEven a b ≤ a / b + 1 := divHalfEven_le_div_succ a b
      _ ≤ c / d := less
      _ ≤ divHalfEven c d := div_le_divHalfEven c d
  · -- With equal floors the remainders are in the order of the fractions.
    have rests : a % b * d ≤ c % d * b := by
      have left : a * d = a / b * (b * d) + a % b * d := by
        rw [← Nat.mul_assoc, ← Nat.add_mul, Nat.div_add_mod']
      have right : c * b = c / d * (b * d) + c % d * b := by
        rw [Nat.mul_comm b d, ← Nat.mul_assoc, ← Nat.add_mul, Nat.div_add_mod']
      rw [left, right, same] at le
      exact Nat.le_of_add_le_add_left le
    have above : b < 2 * (a % b) → d < 2 * (c % d) := by
      intro half
      nlinarith
    have atLeast : b ≤ 2 * (a % b) → d ≤ 2 * (c % d) := by
      intro half
      nlinarith
    simp only [divHalfEven, same]
    split_ifs <;> omega

theorem divHalfEven_mul (n : Nat) {den : Nat} (pos : 0 < den) : divHalfEven (n * den) den = n := by
  simp [divHalfEven, Nat.mul_div_cancel n pos, pos]

theorem le_divHalfEven {n num den : Nat} (pos : 0 < den) (le : n * den ≤ num) :
    n ≤ divHalfEven num den := by
  rw [← divHalfEven_mul n pos]
  exact divHalfEven_mono pos pos (Nat.mul_le_mul_right den le)

theorem divHalfEven_le {n num den : Nat} (pos : 0 < den) (le : num ≤ n * den) :
    divHalfEven num den ≤ n := by
  rw [← divHalfEven_mul n pos]
  exact divHalfEven_mono pos pos (Nat.mul_le_mul_right den le)

/-- Only the value of a fraction matters. -/
theorem divHalfEven_congr {a b c d : Nat} (hb : 0 < b) (hd : 0 < d) (eq : a * d = c * b) :
    divHalfEven a b = divHalfEven c d :=
  Nat.le_antisymm (divHalfEven_mono hb hd eq.le) (divHalfEven_mono hd hb eq.ge)

namespace Double

/-! ## Indices by scale and steps -/

theorem binade_eq : binade = 4503599627370496 := rfl

theorem binade_pos : 0 < binade := by decide

theorem binade_mul_two_pow (s : Nat) : binade * 2 ^ s = 2 ^ (52 + s) := by
  rw [binade_eq]
  ring

/-- The magnitude of an index, given by its scale and its number of steps. -/
theorem units_steps {s m : Nat} (upper : m ≤ 2 * binade) (lower : s = 0 ∨ binade ≤ m) :
    units (s * binade + m) = m * 2 ^ s := by
  by_cases small : m < binade
  · obtain rfl : s = 0 := by omega
    simp [units, small]
  · obtain ⟨rest, rfl⟩ := Nat.exists_eq_add_of_le (Nat.le_of_not_lt small)
    have split : s * binade + (binade + rest) = rest + (s + 1) * binade := by ring
    have normal : ¬ rest + (s + 1) * binade < binade := by
      rw [← split]
      omega
    rw [split, units, if_neg normal, Nat.add_mul_mod_self_right,
      Nat.add_mul_div_right rest (s + 1) binade_pos]
    rcases Nat.lt_or_eq_of_le (show rest ≤ binade by omega) with inside | rfl
    · rw [Nat.mod_eq_of_lt inside, Nat.div_eq_of_lt inside, Nat.zero_add, Nat.add_sub_cancel]
      rfl
    · rw [Nat.mod_self, Nat.div_self binade_pos, Nat.add_zero, Nat.add_sub_cancel_left]
      show binade * 2 ^ (s + 1) = _
      ring

/-- Every index has a scale and a number of steps. -/
theorem exists_steps (index : Nat) :
    ∃ s m, index = s * binade + m ∧ m < 2 * binade ∧ (s = 0 ∨ binade ≤ m) := by
  by_cases small : index < binade
  · exact ⟨0, index, by simp, by omega, .inl rfl⟩
  · have rest := Nat.mod_lt index binade_pos
    have whole := Nat.div_add_mod' index binade
    have first : 1 ≤ index / binade := by
      rw [Nat.le_div_iff_mul_le binade_pos]
      omega
    refine ⟨index / binade - 1, binade + index % binade, ?_, by omega, .inr (by omega)⟩
    rw [Nat.sub_mul]
    have := Nat.mul_le_mul_right binade first
    omega

/-- The scale at which a fraction is rounded: `2^53` steps are beyond the fraction, and
`2^52` are not, unless the scale is the least one. -/
theorem nearestIndex_eq {num den s : Nat} (pos : 0 < den) (upper : num < den * 2 ^ (53 + s))
    (lower : s = 0 ∨ den * 2 ^ (52 + s) ≤ num) :
    nearestIndex num den = s * binade + divHalfEven num (den * 2 ^ s) := by
  have above : num / den < 2 ^ (53 + s) := by
    rw [Nat.div_lt_iff_lt_mul pos, Nat.mul_comm]
    exact upper
  have below : s = 0 ∨ 2 ^ (52 + s) ≤ num / den := by
    refine lower.imp_right fun filled => ?_
    rw [Nat.le_div_iff_mul_le pos, Nat.mul_comm]
    exact filled
  have shift : (num / den).log2 - 52 = s := by
    by_cases zero : num / den = 0
    · -- Less than one unit is rounded at the least scale.
      have some := Nat.two_pow_pos (52 + s)
      rw [zero, Nat.log2_zero]
      omega
    · have top := (Nat.log2_lt zero).mpr above
      have bottom := below.imp_right (Nat.le_log2 zero).mpr
      omega
  rw [nearestIndex, shift]
  rfl

theorem exists_scale (num : Nat) {den : Nat} (pos : 0 < den) :
    ∃ s, num < den * 2 ^ (53 + s) ∧ (s = 0 ∨ den * 2 ^ (52 + s) ≤ num) := by
  by_cases small : num < den * 2 ^ 53
  · exact ⟨0, small, .inl rfl⟩
  · have filled : 2 ^ 53 ≤ num / den := by
      rw [Nat.le_div_iff_mul_le pos, Nat.mul_comm]
      exact Nat.le_of_not_lt small
    have nonzero : num / den ≠ 0 := by
      have := Nat.two_pow_pos 53
      omega
    have bits := (Nat.le_log2 nonzero).mpr filled
    refine ⟨(num / den).log2 - 52, ?_, .inr ?_⟩
    · rw [show 53 + ((num / den).log2 - 52) = (num / den).log2 + 1 by omega, Nat.mul_comm,
        ← Nat.div_lt_iff_lt_mul pos]
      exact Nat.lt_log2_self
    · rw [show 52 + ((num / den).log2 - 52) = (num / den).log2 by omega, Nat.mul_comm,
        ← Nat.le_div_iff_mul_le pos]
      exact Nat.log2_self_le nonzero

/-- At the scale of a fraction no more than `2^53` steps are counted. -/
theorem divHalfEven_le_two_binade {num den s : Nat} (pos : 0 < den)
    (upper : num < den * 2 ^ (53 + s)) : divHalfEven num (den * 2 ^ s) ≤ 2 * binade := by
  apply divHalfEven_le (by positivity)
  calc num ≤ den * 2 ^ (53 + s) := upper.le
    _ = 2 * binade * (den * 2 ^ s) := by rw [binade_eq]; ring

/-- At the scale of a fraction no less than `2^52` steps are counted. -/
theorem binade_le_divHalfEven {num den s : Nat} (pos : 0 < den)
    (lower : den * 2 ^ (52 + s) ≤ num) : binade ≤ divHalfEven num (den * 2 ^ s) := by
  apply le_divHalfEven (by positivity)
  calc binade * (den * 2 ^ s) = den * 2 ^ (52 + s) := by rw [binade_eq]; ring
    _ ≤ num := lower

/-! ## Magnitudes -/

/-- Rounding keeps the order of fractions. -/
theorem nearestIndex_mono {a b c d : Nat} (hb : 0 < b) (hd : 0 < d) (le : a * d ≤ c * b) :
    nearestIndex a b ≤ nearestIndex c d := by
  obtain ⟨s, upperA, lowerA⟩ := exists_scale a hb
  obtain ⟨t, upperC, lowerC⟩ := exists_scale c hd
  rw [nearestIndex_eq hb upperA lowerA, nearestIndex_eq hd upperC lowerC]
  rcases Nat.lt_trichotomy s t with less | rfl | greater
  · -- The greater scale begins where the smaller one ends.
    have top := divHalfEven_le_two_binade hb upperA
    have bottom := binade_le_divHalfEven hd (lowerC.resolve_left (by omega))
    have scales := Nat.mul_le_mul_right binade less
    rw [Nat.succ_mul] at scales
    omega
  · apply Nat.add_le_add_left
    apply divHalfEven_mono (by positivity) (by positivity)
    calc a * (d * 2 ^ s) = a * d * 2 ^ s := by ring
      _ ≤ c * b * 2 ^ s := Nat.mul_le_mul_right _ le
      _ = c * (b * 2 ^ s) := by ring
  · exfalso
    have lowA := lowerA.resolve_left (by omega)
    have scales : 2 ^ (53 + t) ≤ 2 ^ (52 + s) := Nat.pow_le_pow_right (by decide) (by omega)
    have reversed : c * b < a * d := by
      calc c * b < d * 2 ^ (53 + t) * b := Nat.mul_lt_mul_of_pos_right upperC hb
        _ ≤ d * 2 ^ (52 + s) * b := Nat.mul_le_mul_right b (Nat.mul_le_mul_left d scales)
        _ = b * 2 ^ (52 + s) * d := by ring
        _ ≤ a * d := Nat.mul_le_mul_right d lowA
    omega

/-- Only the value of a fraction matters. -/
theorem nearestIndex_congr {a b c d : Nat} (hb : 0 < b) (hd : 0 < d) (eq : a * d = c * b) :
    nearestIndex a b = nearestIndex c d :=
  Nat.le_antisymm (nearestIndex_mono hb hd eq.le) (nearestIndex_mono hd hb eq.ge)

/-- What is a magnitude already is not rounded. -/
theorem nearestIndex_units (index : Nat) : nearestIndex (units index) 1 = index := by
  obtain ⟨s, m, rfl, upper, lower⟩ := exists_steps index
  have below : m * 2 ^ s < 1 * 2 ^ (53 + s) := by
    calc m * 2 ^ s < 2 * binade * 2 ^ s := Nat.mul_lt_mul_of_pos_right upper (Nat.two_pow_pos s)
      _ = 1 * 2 ^ (53 + s) := by rw [binade_eq]; ring
  have scale : s = 0 ∨ 1 * 2 ^ (52 + s) ≤ m * 2 ^ s := by
    refine lower.imp_right fun filled => ?_
    calc 1 * 2 ^ (52 + s) = binade * 2 ^ s := by rw [binade_eq]; ring
      _ ≤ m * 2 ^ s := Nat.mul_le_mul_right _ filled
  rw [units_steps upper.le lower, nearestIndex_eq Nat.one_pos below scale, Nat.one_mul,
    divHalfEven_mul m (Nat.two_pow_pos s)]

theorem nearestIndex_units_mul (index : Nat) {den : Nat} (pos : 0 < den) :
    nearestIndex (units index * den) den = index := by
  rw [← nearestIndex_congr Nat.one_pos pos (Nat.mul_one _).symm, nearestIndex_units]

/-- The order of magnitudes is that of their indices. -/
theorem units_strictMono : StrictMono units := by
  intro i j less
  by_contra reversed
  have back := nearestIndex_mono Nat.one_pos Nat.one_pos
    (Nat.mul_le_mul_right 1 (Nat.le_of_not_lt reversed))
  rw [nearestIndex_units, nearestIndex_units] at back
  omega

/-- Raising the scale multiplies a magnitude by a power of two. -/
theorem units_add_mul_binade {index : Nat} (k : Nat) (normal : binade ≤ index) :
    units (index + k * binade) = units index * 2 ^ k := by
  obtain ⟨s, m, rfl, upper, lower⟩ := exists_steps index
  have filled : binade ≤ m := by
    rcases lower with rfl | filled
    · omega
    · exact filled
  have raised : s * binade + m + k * binade = (s + k) * binade + m := by ring
  rw [raised, units_steps upper.le (.inr filled), units_steps upper.le (.inr filled), Nat.pow_add,
    Nat.mul_assoc]

/-- Rounding commutes with powers of two where no step is lost. -/
theorem nearestIndex_mul_two_pow {num den : Nat} (k : Nat) (pos : 0 < den)
    (normal : den * 2 ^ 52 ≤ num) :
    nearestIndex (num * 2 ^ k) den = nearestIndex num den + k * binade := by
  obtain ⟨s, upper, lower⟩ := exists_scale num pos
  have filled : den * 2 ^ (52 + s) ≤ num := by
    rcases lower with rfl | filled
    · exact normal
    · exact filled
  have raised : num * 2 ^ k < den * 2 ^ (53 + (s + k)) := by
    calc num * 2 ^ k < den * 2 ^ (53 + s) * 2 ^ k :=
          Nat.mul_lt_mul_of_pos_right upper (Nat.two_pow_pos k)
      _ = den * 2 ^ (53 + (s + k)) := by ring
  have kept : den * 2 ^ (52 + (s + k)) ≤ num * 2 ^ k := by
    calc den * 2 ^ (52 + (s + k)) = den * 2 ^ (52 + s) * 2 ^ k := by ring
      _ ≤ num * 2 ^ k := Nat.mul_le_mul_right _ filled
  rw [nearestIndex_eq pos upper lower, nearestIndex_eq pos raised (.inr kept),
    divHalfEven_congr (by positivity) (by positivity)
      (show num * 2 ^ k * (den * 2 ^ s) = num * (den * 2 ^ (s + k)) by ring)]
  ring

/-! ## Powers of two -/

/-- One is a power of two; the exponent is kept apart so that nothing computes the power. -/
theorem exists_one_eq : ∃ bits, one = 2 ^ bits ∧ bits = 1074 := by
  unfold one
  generalize 1074 = bits
  exact ⟨bits, rfl, rfl⟩

theorem one_pos : 0 < one := by
  obtain ⟨bits, unit, -⟩ := exists_one_eq
  rw [unit]
  exact Nat.two_pow_pos bits

/-- The index of a power of two. -/
theorem units_two_pow (k : Nat) : units ((1023 + k) * binade) = 2 ^ k * one := by
  have steps : (1023 + k) * binade = (1022 + k) * binade + binade := by ring
  obtain ⟨bits, unit, size⟩ := exists_one_eq
  rw [steps, units_steps (by omega) (.inr (Nat.le_refl _))]
  calc binade * 2 ^ (1022 + k) = 2 ^ (52 + (1022 + k)) := by rw [Nat.pow_add 2 52]; rfl
    _ = 2 ^ (bits + k) := by rw [size, ← Nat.add_assoc]
    _ = 2 ^ k * one := by rw [unit, Nat.pow_add, Nat.mul_comm]

end Double

end PhaseBench
