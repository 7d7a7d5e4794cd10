import PhaseBench.Proofs.Double.Nearest

/-!
# Numbers as rationals

A finite number stands for a rational (`toRat?`), and what a fraction is rounded to is
the nearest of these rationals, the one of the even index where two are as near
(`isNearest_nearestIndex`). Where the fraction is not below the finest scale the error
is at most one part in 2^53 of it (`abs_magnitude_sub_le`).
-/

namespace PhaseBench

/-- What rounding drops or fills up is at most a half. -/
theorem two_mul_abs_divHalfEven_sub_le (num : Nat) {den : Nat} (pos : 0 < den) :
    2 * |(divHalfEven num den * den : ℚ) - num| ≤ den := by
  have whole := Nat.div_add_mod' num den
  have part := Nat.mod_lt num pos
  have next : (num / den + 1) * den = num / den * den + den := Nat.succ_mul _ _
  have bounds : 2 * (divHalfEven num den * den) ≤ 2 * num + den ∧
      2 * num ≤ 2 * (divHalfEven num den * den) + den := by
    simp only [divHalfEven]
    split_ifs <;> omega
  have above : (2 * (divHalfEven num den * den) : ℚ) ≤ 2 * num + den := by exact_mod_cast bounds.1
  have below : (2 * num : ℚ) ≤ 2 * (divHalfEven num den * den) + den := by exact_mod_cast bounds.2
  rcases abs_cases ((divHalfEven num den * den : ℚ) - num) with ⟨size, -⟩ | ⟨size, -⟩ <;>
    linarith

namespace Double

/-! ## Values -/

/-- The rational that the magnitude of an index is. -/
def magnitude (index : Nat) : ℚ := units index / one

/-- The rational that a finite number stands for. -/
def toRat? : Double → Option ℚ
  | .finite negative index => some (if negative then -magnitude index else magnitude index)
  | .infinite _ => none
  | .nan => none

/-- Holds for a finite number whose last bit is clear. -/
def IsEven : Double → Prop
  | .finite _ index => index.val % 2 = 0
  | .infinite _ => False
  | .nan => False

/-- A number, of the value `x`, that `q` is to be rounded to: no finite number is nearer, and
where another one is as near, the number is even. -/
structure IsNearest (number : Double) (x q : ℚ) : Prop where
  value : number.toRat? = some x
  closest : ∀ (other : Double) (y : ℚ), other.toRat? = some y → |x - q| ≤ |y - q|
  even : ∀ (other : Double) (y : ℚ), other.toRat? = some y → y ≠ x → |x - q| = |y - q| →
    number.IsEven

theorem one_cast_pos : (0 : ℚ) < one := by exact_mod_cast one_pos

theorem magnitude_strictMono : StrictMono magnitude := by
  intro i j less
  have : (units i : ℚ) < units j := by exact_mod_cast units_strictMono less
  exact div_lt_div_of_pos_right this one_cast_pos

theorem magnitude_zero : magnitude 0 = 0 := by
  rw [magnitude, show units 0 = 0 from rfl, Nat.cast_zero, zero_div]

theorem magnitude_nonneg (index : Nat) : 0 ≤ magnitude index :=
  div_nonneg (Nat.cast_nonneg _) (Nat.cast_nonneg _)

/-- The value of a finite number is a magnitude, or not positive. -/
theorem eq_magnitude_or_nonpos {number : Double} {x : ℚ} (value : number.toRat? = some x) :
    (∃ index, x = magnitude index) ∨ x ≤ 0 := by
  cases number with
  | finite negative index =>
      cases negative with
      | false =>
          simp only [toRat?, Bool.false_eq_true, if_false, Option.some.injEq] at value
          exact .inl ⟨index, value.symm⟩
      | true =>
          simp only [toRat?, if_true, Option.some.injEq] at value
          have := magnitude_nonneg index
          right
          linarith
  | infinite negative => simp [toRat?] at value
  | nan => simp [toRat?] at value

/-! ## Rounding to the nearest -/

/-- Twice a fraction against a sum of magnitudes, in rationals and in units. -/
theorem two_mul_ratio_lt_iff {num den sum unit : Nat} (pos : 0 < den) (some : 0 < unit) :
    2 * (num / den : ℚ) < sum / unit ↔ 2 * (num * unit) < den * sum := by
  have divisor : (0 : ℚ) < den := by exact_mod_cast pos
  have measure : (0 : ℚ) < unit := by exact_mod_cast some
  rw [← mul_div_assoc, div_lt_div_iff₀ divisor measure, ← Nat.cast_lt (α := ℚ)]
  push_cast
  rw [mul_assoc, mul_comm (sum : ℚ)]

theorem two_mul_ratio_eq_iff {num den sum unit : Nat} (pos : 0 < den) (some : 0 < unit) :
    2 * (num / den : ℚ) = sum / unit ↔ 2 * (num * unit) = den * sum := by
  have divisor : (den : ℚ) ≠ 0 := by exact_mod_cast pos.ne'
  have measure : (unit : ℚ) ≠ 0 := by exact_mod_cast some.ne'
  rw [← mul_div_assoc, div_eq_div_iff divisor measure, ← Nat.cast_inj (R := ℚ)]
  push_cast
  rw [mul_assoc, mul_comm (sum : ℚ)]

theorem magnitude_add (i j : Nat) :
    magnitude i + magnitude j = ((units i + units j : ℕ) : ℚ) / one := by
  rw [magnitude, magnitude, ← add_div, Nat.cast_add]

section Ratio

variable {num den index : Nat}

/-- A fraction lies at or below the middle between the magnitude that it is rounded to and any
greater one, and in the middle only when the index is even. -/
theorem RoundsTo.le_middle (rounds : RoundsTo (num * one) den index) (pos : 0 < den) {j : Nat}
    (greater : index < j) :
    2 * (num / den : ℚ) < magnitude index + magnitude j ∨
      2 * (num / den : ℚ) = magnitude index + magnitude j ∧ index % 2 = 0 := by
  have next : magnitude (index + 1) ≤ magnitude j := magnitude_strictMono.monotone greater
  rcases rounds.above with less | ⟨tie, even⟩
  · rw [← two_mul_ratio_lt_iff pos one_pos, ← magnitude_add] at less
    left
    linarith
  · rw [← two_mul_ratio_eq_iff pos one_pos, ← magnitude_add] at tie
    rcases next.lt_or_eq with beyond | same
    · left
      linarith
    · right
      exact ⟨by linarith, even⟩

/-- A fraction lies at or above the middle between the magnitude that it is rounded to and any
smaller one, and in the middle only when the index is even. -/
theorem RoundsTo.middle_le (rounds : RoundsTo (num * one) den index) (pos : 0 < den) {j : Nat}
    (smaller : j < index) :
    magnitude index + magnitude j < 2 * (num / den : ℚ) ∨
      magnitude index + magnitude j = 2 * (num / den : ℚ) ∧ index % 2 = 0 := by
  obtain ⟨previous, rfl⟩ : ∃ previous, index = previous + 1 := ⟨index - 1, by omega⟩
  have next : magnitude j ≤ magnitude previous := magnitude_strictMono.monotone (by omega)
  have middle := magnitude_add previous (previous + 1)
  have order := lt_trichotomy (2 * (num / den : ℚ))
    (((units previous + units (previous + 1) : ℕ) : ℚ) / one)
  rw [two_mul_ratio_lt_iff pos one_pos, two_mul_ratio_eq_iff pos one_pos] at order
  rcases rounds.below previous rfl with less | ⟨tie, even⟩
  · have above := order.resolve_left (by omega) |>.resolve_left (by omega)
    left
    linarith
  · have same := (two_mul_ratio_eq_iff pos one_pos).mpr tie.symm
    rcases next.lt_or_eq with beyond | equal
    · left
      linarith
    · right
      exact ⟨by linarith, even⟩

/-- No magnitude is nearer to a fraction than the one that it is rounded to, and another one is
as near only when the index is even. -/
theorem RoundsTo.distance_lt (rounds : RoundsTo (num * one) den index) (pos : 0 < den) {j : Nat}
    (other : j ≠ index) :
    |magnitude index - num / den| < |magnitude j - num / den| ∨
      |magnitude index - num / den| = |magnitude j - num / den| ∧ index % 2 = 0 := by
  rcases Nat.lt_or_gt_of_ne other with smaller | greater
  · have below := magnitude_strictMono smaller
    have middle := rounds.middle_le pos smaller
    grind
  · have above := magnitude_strictMono greater
    have middle := rounds.le_middle pos greater
    grind

/-- A fraction is rounded to the nearest number. -/
theorem isNearest_nearestIndex (pos : 0 < den)
    (inside : nearestIndex (num * one) den < infinityIndex) :
    IsNearest (.finite false ⟨nearestIndex (num * one) den, inside⟩)
      (magnitude (nearestIndex (num * one) den)) (num / den) := by
  have rounds := (nearestIndex_eq_iff pos).mp (Eq.refl (nearestIndex (num * one) den))
  generalize nearestIndex (num * one) den = index at inside rounds
  have fraction : (0 : ℚ) ≤ num / den := div_nonneg (Nat.cast_nonneg _) (Nat.cast_nonneg _)
  have own := magnitude_nonneg index
  -- Among the numbers that are not positive, zero is the nearest one.
  have zero : magnitude index = 0 ∨ |magnitude index - num / den| < num / den ∨
      |magnitude index - num / den| = num / den ∧ index % 2 = 0 := by
    by_cases first : index = 0
    · subst first
      exact .inl magnitude_zero
    · have := rounds.distance_lt pos (Ne.symm first)
      rw [magnitude_zero, zero_sub, abs_neg, abs_of_nonneg fraction] at this
      exact .inr this
  refine ⟨rfl, ?_, ?_⟩
  · intro other y value
    rcases eq_magnitude_or_nonpos value with ⟨j, rfl⟩ | negative
    · by_cases same : j = index
      · rw [same]
      · rcases rounds.distance_lt pos same with less | ⟨equal, -⟩
        · exact less.le
        · exact equal.le
    · grind
  · intro other y value different equal
    rcases eq_magnitude_or_nonpos value with ⟨j, rfl⟩ | negative
    · have distinct : j ≠ index := fun same => different (by rw [same])
      rcases rounds.distance_lt pos distinct with less | ⟨-, even⟩
      · exact absurd equal less.ne
      · exact even
    · show index % 2 = 0
      grind

/-- Half a step is at most one part in 2^53 of what has 2^52 steps. -/
theorem abs_steps_sub_le {steps step unit : Nat} (pos : 0 < den) (some : 0 < unit)
    (error : 2 * |(steps * ((den * step : ℕ) : ℚ)) - (num * unit : ℕ)| ≤ (den * step : ℕ))
    (filled : den * (2 ^ 52 * step) ≤ num * unit) :
    |((steps * step : ℕ) : ℚ) / unit - num / den| ≤ num / den / 2 ^ 53 := by
  have divisor : (0 : ℚ) < den := by exact_mod_cast pos
  have measure : (0 : ℚ) < unit := by exact_mod_cast some
  have filled : (den : ℚ) * (2 ^ 52 * step) ≤ num * unit := by exact_mod_cast filled
  -- Both sides are measured in parts of `unit * den`.
  have scaled : ((steps * step : ℕ) : ℚ) / unit - num / den =
      (steps * ((den * step : ℕ) : ℚ) - (num * unit : ℕ)) / (unit * den) := by
    push_cast
    field_simp
  have share : (num : ℚ) / den / 2 ^ 53 = num * unit / 2 ^ 53 / (unit * den) := by
    field_simp
  rw [scaled, abs_div, abs_of_pos (mul_pos measure divisor), share]
  apply div_le_div_of_nonneg_right _ (mul_pos measure divisor).le
  push_cast at error ⊢
  linarith

/-- A rounding changes a fraction by at most one part in 2^53. -/
theorem abs_magnitude_sub_le (pos : 0 < den) (normal : den * 2 ^ 52 ≤ num * one) :
    |magnitude (nearestIndex (num * one) den) - num / den| ≤ num / den / 2 ^ 53 := by
  obtain ⟨s, upper, lower⟩ := exists_scale (num * one) pos
  have filled : den * (2 ^ 52 * 2 ^ s) ≤ num * one := by
    rw [← Nat.pow_add]
    rcases lower with rfl | filled
    · exact normal
    · exact filled
  have step : 0 < den * 2 ^ s := by positivity
  rw [nearestIndex_eq pos upper lower, magnitude,
    units_steps (divHalfEven_le_two_binade pos upper)
      (lower.imp_right fun filled => binade_le_divHalfEven pos filled)]
  exact abs_steps_sub_le pos one_pos (two_mul_abs_divHalfEven_sub_le _ step) filled

end Ratio

end Double

end PhaseBench
