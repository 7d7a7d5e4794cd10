import PhaseBench.Proofs.Double.Rounding

/-!
# Rounding is to the nearest

`nearestIndex_le_iff` places a fraction against the middle between two magnitudes that
follow each other: below the middle it is rounded down, above it up, and the middle
itself goes to the even index. `nearestIndex_eq_iff` is the same from both sides, the
definition of rounding to nearest without a word about scales.

Magnitudes are whole multiples of the step at their scale (`two_pow_dvd_units`), and
a whole number of steps that needs no more than 53 bits is not rounded
(`units_nearestIndex_steps`).
-/

namespace PhaseBench

theorem divHalfEven_le_iff {num den m : Nat} (pos : 0 < den) :
    divHalfEven num den ≤ m ↔
      2 * num < (2 * m + 1) * den ∨ 2 * num = (2 * m + 1) * den ∧ m % 2 = 0 := by
  have whole := Nat.div_add_mod' num den
  have part := Nat.mod_lt num pos
  have middle : (2 * m + 1) * den = 2 * (m * den) + den := by ring
  rcases Nat.lt_trichotomy m (num / den) with less | rfl | greater
  · have floor := div_le_divHalfEven num den
    have steps : m * den + den ≤ num / den * den := by
      rw [← Nat.succ_mul]
      exact Nat.mul_le_mul_right den less
    rw [middle]
    omega
  · rw [middle]
    simp only [divHalfEven]
    split_ifs <;> omega
  · have ceiling := divHalfEven_le_div_succ num den
    have steps : num / den * den + den ≤ m * den := by
      rw [← Nat.succ_mul]
      exact Nat.mul_le_mul_right den greater
    rw [middle]
    omega

namespace Double

/-! ## Middles -/

/-- A fraction is rounded down to an index, or further, when it lies below the middle to the
next magnitude, and in the middle when the index is even. -/
theorem nearestIndex_le_iff {num den index : Nat} (pos : 0 < den) :
    nearestIndex num den ≤ index ↔
      2 * num < den * (units index + units (index + 1)) ∨
        2 * num = den * (units index + units (index + 1)) ∧ index % 2 = 0 := by
  obtain ⟨s, m, rfl, upper, lower⟩ := exists_steps index
  obtain ⟨t, below, above⟩ := exists_scale num pos
  have sum : den * (units (s * binade + m) + units (s * binade + m + 1)) =
      (2 * m + 1) * (den * 2 ^ s) := by
    rw [Nat.add_assoc, units_steps upper.le lower, units_steps (by omega) (by omega)]
    ring
  have parity : (s * binade + m) % 2 = m % 2 := by
    rw [binade_eq]
    omega
  have steps : den * 2 ^ (53 + s) = 2 * binade * (den * 2 ^ s) := by
    rw [binade_eq]
    ring
  have step : 0 < den * 2 ^ s := by positivity
  rw [nearestIndex_eq pos below above, sum, parity]
  rcases Nat.lt_trichotomy t s with less | rfl | greater
  · -- At a smaller scale than that of the index, the fraction is below all its steps.
    have filled : binade ≤ m := lower.resolve_left (by omega)
    have top := divHalfEven_le_two_binade pos below
    have scales := Nat.mul_le_mul_right binade (Nat.succ_le_of_lt less)
    rw [Nat.succ_mul] at scales
    have twice : 2 * num < den * 2 ^ (53 + s) := by
      calc 2 * num < 2 * (den * 2 ^ (53 + t)) := by omega
        _ = den * 2 ^ (53 + (t + 1)) := by ring
        _ ≤ den * 2 ^ (53 + s) :=
          Nat.mul_le_mul_left den (Nat.pow_le_pow_right (by decide) (by omega))
    have room : 2 * binade * (den * 2 ^ s) ≤ (2 * m + 1) * (den * 2 ^ s) :=
      Nat.mul_le_mul_right _ (by omega)
    omega
  · rw [Nat.add_le_add_iff_left]
    exact divHalfEven_le_iff step
  · -- At a greater scale it is beyond them.
    have filled := above.resolve_left (by omega)
    have bottom := binade_le_divHalfEven pos filled
    have scales := Nat.mul_le_mul_right binade (Nat.succ_le_of_lt greater)
    rw [Nat.succ_mul] at scales
    have large : den * 2 ^ (53 + s) ≤ num :=
      (Nat.mul_le_mul_left den (Nat.pow_le_pow_right (by decide) (by omega))).trans filled
    have room : (2 * m + 1) * (den * 2 ^ s) < 2 * (2 * binade * (den * 2 ^ s)) := by
      rw [← Nat.mul_assoc 2 (2 * binade)]
      exact Nat.mul_lt_mul_of_pos_right (by omega) step
    omega

/-- The fraction `num / den`, in units, is to be rounded to the magnitude of an index: it lies
between the middles to the magnitudes on both sides, and a middle belongs to the even index. -/
structure RoundsTo (num den index : Nat) : Prop where
  above : 2 * num < den * (units index + units (index + 1)) ∨
    2 * num = den * (units index + units (index + 1)) ∧ index % 2 = 0
  below : ∀ previous, index = previous + 1 →
    den * (units previous + units index) < 2 * num ∨
      den * (units previous + units index) = 2 * num ∧ index % 2 = 0

/-- Rounding is to the nearest magnitude, in the middle to the even one. -/
theorem nearestIndex_eq_iff {num den index : Nat} (pos : 0 < den) :
    nearestIndex num den = index ↔ RoundsTo num den index := by
  constructor
  · intro same
    refine ⟨(nearestIndex_le_iff pos).mp same.le, ?_⟩
    rintro previous rfl
    have beyond : ¬ nearestIndex num den ≤ previous := by omega
    rw [nearestIndex_le_iff pos] at beyond
    omega
  · rintro ⟨above, below⟩
    have le := (nearestIndex_le_iff pos).mpr above
    cases index with
    | zero => omega
    | succ previous =>
        have beyond : ¬ nearestIndex num den ≤ previous := by
          rw [nearestIndex_le_iff pos]
          have := below previous rfl
          omega
        omega

/-! ## Multiples of a step -/

/-- From the first magnitude of a scale on, all magnitudes are whole numbers of its steps. -/
theorem two_pow_dvd_units {s index : Nat} (le : (s + 1) * binade ≤ index) :
    2 ^ s ∣ units index := by
  have scale : s + 1 ≤ index / binade := (Nat.le_div_iff_mul_le binade_pos).mpr le
  have normal : ¬ index < binade := by
    have first : 1 * binade ≤ (s + 1) * binade := Nat.mul_le_mul_right binade (by omega)
    omega
  rw [units, if_neg normal]
  have power : 2 ^ s ∣ 2 ^ (index / binade - 1) := Nat.pow_dvd_pow 2 (by omega)
  exact power.mul_left _

/-- A whole number of steps is not rounded when it needs no more than 53 bits. -/
theorem units_nearestIndex_steps {m : Nat} (s : Nat) (le : m ≤ 2 ^ 53) :
    units (nearestIndex (m * 2 ^ s) 1) = m * 2 ^ s := by
  obtain ⟨t, below, above⟩ := exists_scale (m * 2 ^ s) Nat.one_pos
  rw [Nat.one_mul] at below above
  -- The steps of the scale of rounding divide the number.
  obtain ⟨count, steps⟩ : 2 ^ t ∣ m * 2 ^ s := by
    rcases Nat.lt_or_ge s t with greater | within
    · have filled := above.resolve_left (by omega)
      have bits : 2 ^ 53 * 2 ^ s ≤ m * 2 ^ s := by
        calc 2 ^ 53 * 2 ^ s = 2 ^ (53 + s) := (Nat.pow_add 2 53 s).symm
          _ ≤ 2 ^ (52 + t) := Nat.pow_le_pow_right (by decide) (by omega)
          _ ≤ m * 2 ^ s := filled
      obtain rfl : m = 2 ^ 53 :=
        le.antisymm (Nat.le_of_mul_le_mul_right bits (Nat.two_pow_pos s))
      rw [← Nat.pow_add] at filled ⊢
      apply Nat.pow_dvd_pow
      have := (Nat.pow_le_pow_iff_right (by decide)).mp filled
      omega
    · exact (Nat.pow_dvd_pow 2 within).mul_left m
  rw [Nat.mul_comm (2 ^ t)] at steps
  have upper : count ≤ 2 * binade := by
    apply Nat.le_of_mul_le_mul_right _ (Nat.two_pow_pos t)
    calc count * 2 ^ t ≤ 2 ^ (53 + t) := by rw [← steps]; exact below.le
      _ = 2 * binade * 2 ^ t := by rw [binade_eq]; ring
  have lower : t = 0 ∨ binade ≤ count := by
    refine above.imp_right fun filled => ?_
    apply Nat.le_of_mul_le_mul_right _ (Nat.two_pow_pos t)
    calc binade * 2 ^ t = 2 ^ (52 + t) := binade_mul_two_pow t
      _ ≤ count * 2 ^ t := by rw [← steps]; exact filled
  rw [nearestIndex_eq Nat.one_pos (by rw [Nat.one_mul]; exact below)
    (by rw [Nat.one_mul]; exact above), Nat.one_mul, steps,
    divHalfEven_mul count (Nat.two_pow_pos t), units_steps upper lower]

end Double

end PhaseBench
