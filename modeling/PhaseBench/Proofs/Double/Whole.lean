import PhaseBench.Proofs.Table.EqualSamples

/-!
# Exact arithmetic

An operation whose exact result is a magnitude of the format is not rounded: the three laws
`add_of_units`, `sub_of_units` and `mul_of_units` say this on units, without a word about
scales. Whole numbers of no more than 53 bits are magnitudes, so sums, differences and
products of them are exact as long as they stay in this range.
-/

namespace PhaseBench.Double

/-! ## Results that are magnitudes -/

section Exact

variable {i j k : Fin infinityIndex}

theorem ofIndex_val (negative : Bool) (i : Fin infinityIndex) :
    ofIndex negative i = .finite negative i := dif_pos i.isLt

theorem add_of_units (sum : units i + units j = units k) :
    Double.finite false i + .finite false j = .finite false k := by
  show add (.finite false i) (.finite false j) = _
  rw [add, if_pos rfl, sum, nearest, nearestIndex_units, ofIndex_val]

theorem sub_of_units (sum : units j + units k = units i) :
    Double.finite false i - .finite false j = .finite false k := by
  show add (.finite false i) (.finite true j) = _
  rw [add, if_neg Bool.false_ne_true, ← sum]
  by_cases positive : 0 < units k
  · rw [if_pos (by omega), Nat.add_sub_cancel_left, nearest, nearestIndex_units, ofIndex_val]
  · -- Equal terms give the positive zero.
    have zero : units k = units 0 := by
      rw [show units 0 = 0 from rfl]
      omega
    have first : k.val = 0 := units_strictMono.injective zero
    rw [if_neg (by omega), if_neg (by omega), Double.zero, ← first, ofIndex_val]

theorem mul_of_units (product : units i * units j = units k * one) :
    Double.finite false i * .finite false j = .finite false k := by
  show mul (.finite false i) (.finite false j) = _
  rw [mul, product, nearest, nearestIndex_units_mul _ one_pos, bne_self_eq_false, ofIndex_val]

end Exact

/-! ## Whole numbers -/

section Whole

variable {a b : Nat}

theorem ofNat_add_ofNat (few : a + b ≤ 2 ^ 53) : ofNat a + ofNat b = ofNat (a + b) := by
  rw [ofNat_eq (by omega), ofNat_eq (by omega), ofNat_eq (by omega)]
  apply add_of_units
  show units (wholeIndex a) + units (wholeIndex b) = units (wholeIndex (a + b))
  rw [units_wholeIndex_of_le (by omega), units_wholeIndex_of_le (by omega),
    units_wholeIndex_of_le few, Nat.add_mul]

theorem ofNat_sub_ofNat (le : b ≤ a) (few : a ≤ 2 ^ 53) : ofNat a - ofNat b = ofNat (a - b) := by
  rw [ofNat_eq (by omega), ofNat_eq (by omega), ofNat_eq (by omega)]
  apply sub_of_units
  show units (wholeIndex b) + units (wholeIndex (a - b)) = units (wholeIndex a)
  rw [units_wholeIndex_of_le (by omega), units_wholeIndex_of_le (by omega),
    units_wholeIndex_of_le few, ← Nat.add_mul, Nat.add_sub_cancel' le]

theorem ofNat_mul_ofNat (fewA : a ≤ 2 ^ 53) (fewB : b ≤ 2 ^ 53) (few : a * b ≤ 2 ^ 53) :
    ofNat a * ofNat b = ofNat (a * b) := by
  rw [ofNat_eq (by omega), ofNat_eq (by omega), ofNat_eq (by omega)]
  apply mul_of_units
  show units (wholeIndex a) * units (wholeIndex b) = units (wholeIndex (a * b)) * one
  rw [units_wholeIndex_of_le fewA, units_wholeIndex_of_le fewB, units_wholeIndex_of_le few]
  ring

/-- The index of half of a whole number. -/
theorem exists_units_half (few : a ≤ 2 ^ 53) :
    ∃ i : Fin infinityIndex, 2 * units i = a * one := by
  obtain ⟨bits, unit, bits_eq⟩ := exists_one_eq
  obtain ⟨bits, rfl⟩ : ∃ half, bits = half + 1 := ⟨bits - 1, by omega⟩
  have half : 2 * units (nearestIndex (a * 2 ^ bits) 1) = a * one := by
    rw [units_nearestIndex_steps bits few, unit, Nat.pow_succ]
    ring
  have inside : nearestIndex (a * 2 ^ bits) 1 < infinityIndex := by
    refine Nat.lt_of_le_of_lt ?_ (wholeIndex_lt (show a ≤ 2 ^ 128 by omega))
    apply nearestIndex_mono Nat.one_pos Nat.one_pos
    apply Nat.mul_le_mul_right
    apply Nat.mul_le_mul_left
    rw [unit]
    exact Nat.pow_le_pow_right (by decide) (by omega)
  exact ⟨⟨_, inside⟩, half⟩

theorem ofRatio_one_two : ∃ i : Fin infinityIndex, ofRatio 1 2 = .finite false i ∧
    2 * units i = one := by
  obtain ⟨i, half⟩ := exists_units_half (show 1 ≤ 2 ^ 53 by decide)
  have same : nearestIndex (1 * one) 2 = i := by
    rw [← half, Nat.mul_comm, nearestIndex_units_mul _ (by decide)]
  refine ⟨i, ?_, by rw [half, Nat.one_mul]⟩
  rw [ofRatio, nearest, same, ofIndex_val]

/-- A whole number and a half, taken an even number of times, is a whole number again. -/
theorem ofNat_mul_add_half (few : 2 * b + 1 ≤ 2 ^ 53) (small : a * (2 * b + 1) ≤ 2 ^ 53)
    (even : 2 * a ≤ 2 ^ 53) :
    ofNat (2 * a) * (ofNat b + ofRatio 1 2) = ofNat (a * (2 * b + 1)) := by
  obtain ⟨h, half_eq, half⟩ := ofRatio_one_two
  obtain ⟨k, sum⟩ := exists_units_half few
  have total : ofNat b + ofRatio 1 2 = .finite false k := by
    rw [ofNat_eq (by omega), half_eq]
    apply add_of_units
    show units (wholeIndex b) + units h = units k
    rw [units_wholeIndex_of_le (by omega)]
    rw [Nat.add_mul, Nat.mul_assoc] at sum
    omega
  rw [total, ofNat_eq (by omega), ofNat_eq (by omega)]
  apply mul_of_units
  show units (wholeIndex (2 * a)) * units k = units (wholeIndex (a * (2 * b + 1))) * one
  rw [units_wholeIndex_of_le even, units_wholeIndex_of_le small]
  calc 2 * a * one * units k = a * one * (2 * units k) := by ring
    _ = a * (2 * b + 1) * one * one := by rw [sum]; ring

end Whole

end PhaseBench.Double
