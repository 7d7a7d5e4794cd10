import PhaseBench.Double.Shortest
import PhaseBench.Proofs.Double.Whole

/-!
# Numerals of whole numbers

A decimal reads back as an index when it is rounded to it (`readsBack_iff`). Among whole
numbers below 2^53 rounding changes nothing, so on a grid of whole numbers only the number
itself reads back (`decimalAt?_whole`): the search for the shortest decimal may end on a
coarser grid than that of the ones, but never at another number, and the text of the number
is its numeral (`text_ofNat`).
-/

namespace PhaseBench.Double

/-! ## Reading back -/

theorem scale_eq : scale = 10 ^ fineness := by
  unfold scale
  generalize fineness = places
  rfl

theorem scale_pos : 0 < scale := by
  rw [scale_eq]
  exact Nat.pow_pos (by decide)

/-- A decimal reads back as the index that it is rounded to. -/
theorem readsBack_iff {index n : Nat} :
    readsBack index n = true ↔ nearestIndex n scale = index := by
  have pos := scale_pos
  rw [nearestIndex_eq_iff pos]
  unfold readsBack
  generalize scale = unit at pos ⊢
  constructor
  · intro within
    refine ⟨?_, ?_⟩
    · rw [Nat.mul_comm unit]
      split at within <;> simp at within <;> omega
    · rintro previous rfl
      rw [Nat.mul_comm unit]
      split at within <;> simp at within <;> omega
  · rintro ⟨above, below⟩
    rw [Nat.mul_comm unit] at above
    cases index with
    | zero =>
        have zero : units 0 = 0 := rfl
        simp [zero] at above ⊢
        omega
    | succ previous =>
        have lower := below previous rfl
        rw [Nat.mul_comm unit] at lower
        split <;> simp <;> omega

/-- Among whole numbers below 2^53 rounding tells every one from all others. -/
theorem wholeIndex_eq_iff {m n : Nat} (few : n < 2 ^ 53) : wholeIndex m = wholeIndex n ↔ m = n := by
  refine ⟨fun same => ?_, congrArg wholeIndex⟩
  have value := units_wholeIndex_of_le few.le
  have next := units_wholeIndex_of_le (show n + 1 ≤ 2 ^ 53 from few)
  have unit := one_pos
  rcases Nat.lt_or_ge n m with above | below
  · have := units_strictMono.monotone (wholeIndex_mono (show n + 1 ≤ m from above))
    rw [same, value, next, Nat.succ_mul] at this
    omega
  · have exact := units_wholeIndex_of_le (below.trans few.le)
    rw [same, value] at exact
    exact (Nat.eq_of_mul_eq_mul_right unit exact).symm

/-! ## The search -/

section Whole

variable {n : Nat}

/-- The step of a grid of whole numbers. -/
theorem step_eq (p : Nat) : Nat.pow 10 (fineness + p) * one = 10 ^ p * one * scale := by
  have power : Nat.pow 10 (fineness + p) = 10 ^ fineness * 10 ^ p := Nat.pow_add 10 fineness p
  rw [power, scale_eq]
  ring

theorem readsBack_whole_iff (few : n < 2 ^ 53) (k p : Nat) :
    readsBack (wholeIndex n) (k * (10 ^ p * one * scale)) = true ↔ k * 10 ^ p = n := by
  rw [readsBack_iff, ← wholeIndex_eq_iff few]
  have same : nearestIndex (k * (10 ^ p * one * scale)) scale = wholeIndex (k * 10 ^ p) := by
    apply nearestIndex_congr scale_pos Nat.one_pos
    ring
  rw [same]

/-- On a grid of whole numbers the search finds the number itself or nothing. -/
theorem decimalAt?_whole (few : n < 2 ^ 53) (p : Nat) :
    decimalAt? (wholeIndex n) (fineness + p) =
      if 10 ^ p ∣ n then some ⟨n / 10 ^ p, fineness + p⟩ else none := by
  have grid : 0 < 10 ^ p := Nat.pow_pos (by decide)
  have below : units (wholeIndex n) * scale / (10 ^ p * one * scale) = n / 10 ^ p := by
    rw [units_wholeIndex_of_le few.le, Nat.mul_div_mul_right _ _ scale_pos,
      Nat.mul_div_mul_right _ _ one_pos]
  have above : readsBack (wholeIndex n) ((n / 10 ^ p + 1) * (10 ^ p * one * scale)) = false := by
    rw [← Bool.not_eq_true, readsBack_whole_iff few]
    have := Nat.lt_div_mul_add grid (a := n)
    rw [Nat.succ_mul]
    omega
  have here : readsBack (wholeIndex n) (n / 10 ^ p * (10 ^ p * one * scale)) = true ↔
      10 ^ p ∣ n := by
    rw [readsBack_whole_iff few, Nat.dvd_iff_div_mul_eq]
  simp only [decimalAt?, step_eq, below, above]
  by_cases divides : 10 ^ p ∣ n
  · rw [if_pos divides, if_pos (by simp [here.mpr divides])]
  · have misses := Bool.not_eq_true _ ▸ mt here.mp divides
    rw [if_neg divides, misses]
    simp

/-- The search ends at the number, on whatever grid. -/
theorem searchDecimal_whole (few : n < 2 ^ 53) (p : Nat) :
    ∃ q, searchDecimal (wholeIndex n) (fineness + p) = ⟨n / 10 ^ q, fineness + q⟩ ∧ 10 ^ q ∣ n := by
  obtain ⟨places, places_eq⟩ : ∃ places, fineness = places + 1 := ⟨399, rfl⟩
  induction p with
  | zero =>
      have divides : 10 ^ 0 ∣ n := one_dvd n
      have found := decimalAt?_whole few 0
      rw [if_pos divides] at found
      refine ⟨0, ?_, divides⟩
      rw [Nat.add_zero, places_eq] at found ⊢
      rw [searchDecimal, found]
  | succ p ih =>
      have found := decimalAt?_whole few (p + 1)
      rw [← Nat.add_assoc] at found ⊢
      rw [searchDecimal, found]
      by_cases divides : 10 ^ (p + 1) ∣ n
      · rw [if_pos divides]
        exact ⟨p + 1, rfl, divides⟩
      · rw [if_neg divides]
        exact ih

/-- The search begins on a grid of whole numbers. -/
theorem exists_shortest_whole (pos : 0 < n) (few : n < 2 ^ 53) :
    ∃ q, shortest (wholeIndex n) = ⟨n / 10 ^ q, fineness + q⟩ ∧ 10 ^ q ∣ n := by
  have whole : units (wholeIndex n) * scale / one = n * scale := by
    rw [units_wholeIndex_of_le few.le, Nat.mul_right_comm, Nat.mul_div_cancel _ one_pos]
  have long : ¬ (Nat.toDigits 10 (n * scale)).length ≤ fineness := by
    rw [Nat.length_toDigits_le_iff (by decide) (by decide), Nat.not_lt, ← scale_eq]
    exact Nat.le_mul_of_pos_left scale pos
  obtain ⟨p, length⟩ := Nat.exists_eq_add_of_le (Nat.le_of_not_le long)
  rw [shortest, whole, length]
  exact searchDecimal_whole few p

/-- A decimal that is a whole number is written without a fraction. -/
theorem Decimal.text_whole {decimal : Decimal}
    (whole : decimal.digits * Nat.pow 10 decimal.place = n * scale) :
    decimal.text = Text.decimal n := by
  have rest : n * scale % scale = 0 := Nat.mul_mod_left n scale
  have trimmed : trimZeros (List.replicate (fineness - ['0'].length) '0' ++ ['0']) = [] := by
    rw [← List.replicate_one, ← List.replicate_add, trimZeros, List.reverse_replicate,
      List.reverse_eq_nil_iff, List.dropWhile_eq_nil_iff]
    intro c member
    rw [List.eq_of_mem_replicate member]
    rfl
  simp only [Decimal.text, whole, rest, Nat.toDigits_zero, trimmed,
    Nat.mul_div_cancel n scale_pos]

/-- The text of a whole number below 2^53 is its numeral. -/
theorem text_ofNat (pos : 0 < n) (few : n < 2 ^ 53) : (ofNat n).text = Text.decimal n := by
  obtain ⟨q, found, divides⟩ := exists_shortest_whole pos few
  have numeral : (shortest (wholeIndex n)).text = Text.decimal n := by
    apply Decimal.text_whole
    have power : Nat.pow 10 (fineness + q) = scale * 10 ^ q :=
      (Nat.pow_add 10 fineness q).trans (by rw [scale_eq])
    rw [found, power, Nat.mul_left_comm, Nat.div_mul_cancel divides, Nat.mul_comm]
  rw [ofNat_eq (by omega), text, numeral, if_neg Bool.false_ne_true, String.empty_append]

end Whole

end PhaseBench.Double
