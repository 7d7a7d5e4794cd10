import PhaseBench.Chart.Basic
import PhaseBench.Proofs.Table.Accuracy
import PhaseBench.Proofs.Text.Numeral

/-!
# Captions of means

A mean is rounded to a number and its caption to hundredths, so a caption is rounded
twice. Nothing goes wrong as long as 200 times the sum of the samples is below 2^53: the
exact mean is a fraction over the count `n`, so it keeps a distance of `1 / (200 * n)`
from every half of a hundredth that it does not hit, and the first rounding changes it by
less (`abs_quotient_sub_lt`). A caption is then nearest to the exact mean
(`caption_mean_nearest`).
-/

namespace PhaseBench

/-! ## Numerals -/

/-- A numeral with two decimal places: digits, without a zero in front that could be left out,
a point and two more digits, which together denote a number of hundredths. -/
structure TwoPlaces (text : String) (hundredths : Nat) : Prop where
  read : ∃ whole places : List Char, text.toList = whole ++ '.' :: places ∧
    whole ≠ [] ∧ (whole.head? = some '0' → whole = ['0']) ∧ places.length = 2 ∧
    Text.decimalValue? (whole ++ places) = some hundredths

theorem head?_toDigits_ne_zero {n : Nat} (pos : 0 < n) : (Nat.toDigits 10 n).head? ≠ some '0' := by
  induction n using Nat.strong_induction_on with
  | h n ih =>
      by_cases small : n < 10
      · rw [Nat.toDigits_of_lt_base small]
        interval_cases n <;> decide
      · rw [Nat.toDigits_of_base_le (by decide) (by omega)]
        have front := ih (n / 10) (by omega) (by omega)
        rw [List.head?_append_of_ne_nil _ Nat.toDigits_ne_nil]
        exact front

theorem eq_zero_of_head?_toDigits {n : Nat} (zero : (Nat.toDigits 10 n).head? = some '0') :
    Nat.toDigits 10 n = ['0'] := by
  rcases Nat.eq_zero_or_pos n with rfl | pos
  · rfl
  · exact absurd zero (head?_toDigits_ne_zero pos)

theorem twoPlaces_hundredthsText (n : Nat) : TwoPlaces (Double.hundredthsText n) n := by
  have tens : Nat.toDigits 10 (n % 100 / 10) = [(n % 100 / 10).digitChar] :=
    Nat.toDigits_of_lt_base (by omega)
  have units : Nat.toDigits 10 (n % 10) = [(n % 10).digitChar] :=
    Nat.toDigits_of_lt_base (by omega)
  refine ⟨Nat.toDigits 10 (n / 100), [(n % 100 / 10).digitChar, (n % 10).digitChar],
    ?_, Nat.toDigits_ne_nil, eq_zero_of_head?_toDigits, rfl, ?_⟩
  · simp [Double.hundredthsText, Text.decimal, tens, units]
  · rw [decimalValue?_eq_some]
    · have ten : n % 100 / 10 < 10 := by omega
      have one : n % 10 < 10 := by omega
      rw [Nat.ofDigitChars_append, Nat.ofDigitChars_ten_toDigits,
        Nat.ofDigitChars_cons_digitChar_of_lt_ten ten,
        Nat.ofDigitChars_cons_digitChar_of_lt_ten one, Nat.ofDigitChars_nil]
      congr 1
      omega
    · intro c member
      rw [← List.singleton_append, ← tens, ← units, List.mem_append, List.mem_append] at member
      rcases member with digit | digit | digit <;>
        exact Nat.isDigit_of_mem_toDigits (by decide) (by decide) digit

/-! ## Two roundings -/

namespace Double

/-- The hundredths of a number are at most half a hundredth away from it. -/
theorem abs_hundredths_sub_le (index : Nat) :
    |(hundredths index : ℚ) / 100 - magnitude index| ≤ 1 / 200 := by
  have half := two_mul_abs_divHalfEven_sub_le (units index * 100) one_pos
  have unit := one_cast_pos
  rw [hundredths, magnitude]
  generalize divHalfEven (units index * 100) one = count at half
  generalize units index = value at half
  generalize one = measure at half unit
  have scaled : (count : ℚ) / 100 - value / measure =
      (count * measure - (value * 100 : ℕ)) / (100 * measure) := by
    push_cast
    field_simp
  rw [scaled, abs_div, abs_of_pos (by positivity : (0 : ℚ) < 100 * measure),
    div_le_div_iff₀ (by positivity) (by norm_num)]
  linarith

/-- The rounded quotient is nearer to the exact one than the latter to any half of a hundredth
that it does not hit. -/
theorem abs_quotient_sub_lt {s n : Nat} (pos : 0 < n) (few : n ≤ 2 ^ 53)
    (small : 200 * s < 2 ^ 53) :
    |magnitude (quotientIndex s n) - s / n| < 1 / (200 * n) := by
  have divisor : (0 : ℚ) < n := by exact_mod_cast pos
  rcases Nat.eq_zero_or_pos s with rfl | some
  · rw [quotientIndex_zero pos, magnitude_zero]
    simpa using divisor
  · have normal : n * 2 ^ 52 ≤ s * one := by
      calc n * 2 ^ 52 ≤ 2 ^ 53 * 2 ^ 52 := Nat.mul_le_mul_right _ few
        _ ≤ 1 * one := by decide +kernel
        _ ≤ s * one := Nat.mul_le_mul_right _ some
    have error := abs_magnitude_sub_le pos normal
    rw [← quotientIndex_of_le (by omega) few pos] at error
    have small : (200 * s : ℚ) < 2 ^ 53 := by exact_mod_cast small
    calc |magnitude (quotientIndex s n) - s / n| ≤ s / n / 2 ^ 53 := error
      _ = 200 * s / 2 ^ 53 / (200 * n) := by field_simp
      _ < 1 / (200 * n) := by
          apply div_lt_div_of_pos_right _ (by positivity)
          rw [div_lt_one (by positivity)]
          exact small

/-- The hundredths of a rounded quotient are at most half a hundredth away from the exact one.
The two roundings could add up to a little more, but in parts of `1 / (200 * n)` the distance
is a whole number. -/
theorem abs_hundredths_quotient_sub_le {s n : Nat} (pos : 0 < n) (few : n ≤ 2 ^ 53)
    (small : 200 * s < 2 ^ 53) :
    |(hundredths (quotientIndex s n) : ℚ) / 100 - s / n| ≤ 1 / 200 := by
  have divisor : (0 : ℚ) < n := by exact_mod_cast pos
  have second := abs_hundredths_sub_le (quotientIndex s n)
  have first := abs_quotient_sub_lt pos few small
  have both := abs_sub_le ((hundredths (quotientIndex s n) : ℚ) / 100)
    (magnitude (quotientIndex s n)) (s / n)
  generalize hundredths (quotientIndex s n) = count at *
  generalize magnitude (quotientIndex s n) = value at *
  have parts : (count : ℚ) / 100 - s / n = ((2 * count * n - 200 * s : ℤ) : ℚ) / (200 * n) := by
    push_cast
    field_simp
    ring
  have bound : |(2 * count * n - 200 * s : ℤ)| < n + 1 := by
    have total : |(count : ℚ) / 100 - s / n| < 1 / 200 + 1 / (200 * n) := by linarith
    have sum : (1 : ℚ) / 200 + 1 / (200 * n) = (n + 1) / (200 * n) := by field_simp
    rw [parts, sum, abs_div, abs_of_pos (by positivity : (0 : ℚ) < 200 * n),
      div_lt_div_iff_of_pos_right (by positivity)] at total
    exact_mod_cast total
  have whole : |((2 * count * n - 200 * s : ℤ) : ℚ)| ≤ n := by
    have := Int.le_of_lt_add_one bound
    exact_mod_cast this
  rw [parts, abs_div, abs_of_pos (by positivity : (0 : ℚ) < 200 * n),
    div_le_div_iff₀ (by positivity) (by norm_num)]
  linarith

end Double

/-! ## Nearest hundredths -/

section Nearest

variable {count : Nat} {k : ℤ} {q : ℚ}

/-- Different numbers of hundredths are a hundredth apart, so one that is half a hundredth away
is not further away than another one. -/
theorem le_abs_hundredths_sub (near : |(count / 100 : ℚ) - q| ≤ 1 / 200) (other : k ≠ count) :
    1 / 200 ≤ |(k / 100 : ℚ) - q| := by
  have apart : (1 : ℚ) ≤ |(k - count : ℚ)| := by
    have := Int.one_le_abs (sub_ne_zero.mpr other)
    exact_mod_cast this
  have hundredth : |(k / 100 : ℚ) - count / 100| = |(k - count : ℚ)| / 100 := by
    rw [← sub_div, abs_div, abs_of_pos (by norm_num : (0 : ℚ) < 100)]
  have sum := abs_sub_le (k / 100 : ℚ) q (count / 100)
  rw [hundredth, abs_sub_comm q] at sum
  linarith

theorem abs_hundredths_sub_lt (near : |(count / 100 : ℚ) - q| ≤ 1 / 200)
    (noTie : ∀ k : ℤ, q ≠ (2 * k + 1) / 200) : |(count / 100 : ℚ) - q| < 1 / 200 := by
  refine lt_of_le_of_ne near fun tie => ?_
  rcases abs_cases ((count / 100 : ℚ) - q) with ⟨above, -⟩ | ⟨below, -⟩
  · apply noTie (count - 1)
    push_cast
    linarith
  · apply noTie count
    push_cast
    linarith

end Nearest

/-- The caption of a mean is a numeral with two decimal places, nearest to the exact mean, and
no other one is as near unless the exact mean lies in the middle between two of them. -/
theorem caption_mean_nearest {samples : List Nat} (some : samples ≠ [])
    (few : samples.length ≤ 2 ^ 53) (small : 200 * total samples < 2 ^ 53) :
    ∃ count : Nat, TwoPlaces (Chart.caption (mean samples)) count ∧
      (∀ k : ℤ, |(count / 100 : ℚ) - total samples / samples.length| ≤
        |(k / 100 : ℚ) - total samples / samples.length|) ∧
      ((∀ k : ℤ, (total samples / samples.length : ℚ) ≠ (2 * k + 1) / 200) →
        ∀ k : ℤ, k ≠ count → |(count / 100 : ℚ) - total samples / samples.length| <
          |(k / 100 : ℚ) - total samples / samples.length|) := by
  have length : 0 < samples.length := List.length_pos_iff.mpr some
  have words : ∀ sample ∈ samples, sample ≤ 2 ^ 64 := by
    intro sample member
    have := le_total member
    omega
  obtain ⟨index, value, index_eq, -⟩ := mean_eq_finite length (by omega) words
  have near := Double.abs_hundredths_quotient_sub_le length few small
  rw [← index_eq] at near
  refine ⟨Double.hundredths index, ?_, ?_, ?_⟩
  · rw [value]
    exact twoPlaces_hundredthsText _
  · intro k
    by_cases same : k = Double.hundredths index
    · rw [same, Int.cast_natCast]
    · exact near.trans (le_abs_hundredths_sub near same)
  · intro noTie k other
    exact (abs_hundredths_sub_lt near noTie).trans_le (le_abs_hundredths_sub near other)

/-- The mean of 1, 2 and 2 has no last decimal place, and its caption is the nearest one. -/
theorem caption_mean_nearest_five_thirds :
    ∃ count : Nat, TwoPlaces (Chart.caption (mean [1, 2, 2])) count ∧
      ∀ k : ℤ, k ≠ count → |(count / 100 : ℚ) - 5 / 3| < |(k / 100 : ℚ) - 5 / 3| := by
  obtain ⟨count, numeral, -, strict⟩ :=
    @caption_mean_nearest [1, 2, 2] (by decide) (by decide) (by decide)
  have mean : ((total [1, 2, 2] : ℕ) : ℚ) / ([1, 2, 2].length : ℕ) = 5 / 3 := by norm_num [total]
  rw [mean] at strict
  refine ⟨count, numeral, strict ?_⟩
  intro k tie
  have whole : (1000 : ℤ) = 3 * (2 * k + 1) := by
    have : (1000 : ℚ) = 3 * (2 * k + 1) := by linarith
    exact_mod_cast this
  omega

end PhaseBench
