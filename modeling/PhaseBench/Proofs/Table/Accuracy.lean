import PhaseBench.Proofs.Double.Value
import PhaseBench.Proofs.Table.EqualSamples

/-!
# How exact a mean is

The sum of the samples is exact: an accumulator of 128 bits holds every partial sum
(`toNat_accumulated`), so the order of the samples does not matter. Sum, count and
quotient are then rounded, each by at most one part in 2^53, and together by less than
one part in 2^51 (`abs_quotient_sub_le`). Where sum and count need no rounding, the mean
is the number nearest to the exact mean, and since samples are numbers themselves it
stays between the smallest and the largest of them.
-/

namespace PhaseBench

/-! ## Sums -/

/-- The sum of the samples in an accumulator of 128 bits, from the first sample to the last. -/
def accumulated (samples : List Nat) : BitVec 128 :=
  samples.foldl (fun sum sample => sum + BitVec.ofNat 128 sample) 0

theorem total_append (first second : List Nat) :
    total (first ++ second) = total first + total second := by
  induction first with
  | nil => simp [total]
  | cons sample first ih =>
      simp only [total, List.cons_append, List.foldr_cons] at ih ⊢
      omega

theorem total_perm {samples others : List Nat} (mixed : samples.Perm others) :
    total samples = total others := by
  induction mixed with
  | nil => rfl
  | cons sample _ ih => simpa [total] using ih
  | swap first second rest => simp only [total, List.foldr_cons]; omega
  | trans _ _ ih₁ ih₂ => rw [ih₁, ih₂]

theorem length_mul_le_total {samples : List Nat} {bound : Nat}
    (le : ∀ sample ∈ samples, bound ≤ sample) : samples.length * bound ≤ total samples := by
  induction samples with
  | nil => simp
  | cons sample samples ih =>
      have first := le sample (by simp)
      have rest := ih fun other member => le other (by simp [member])
      simp only [total, List.foldr_cons, List.length_cons, Nat.succ_mul] at rest ⊢
      omega

theorem le_total {samples : List Nat} {sample : Nat} (member : sample ∈ samples) :
    sample ≤ total samples := by
  obtain ⟨before, after, rfl⟩ := List.append_of_mem member
  rw [total_append, total, total, List.foldr_cons]
  omega

/-- The accumulator holds the sum as long as the sum has 128 bits. -/
theorem toNat_accumulated {samples : List Nat} (fits : total samples < 2 ^ 128) :
    (accumulated samples).toNat = total samples := by
  induction samples using List.reverseRecOn with
  | nil => rfl
  | append_singleton samples sample ih =>
      rw [total_append] at fits ⊢
      have single : total [sample] = sample := by simp [total]
      rw [single] at fits ⊢
      rw [accumulated, List.foldl_append, ← accumulated, List.foldl_cons, List.foldl_nil,
        BitVec.toNat_add, BitVec.toNat_ofNat, ih (by omega)]
      rw [Nat.mod_eq_of_lt (show sample < 2 ^ 128 by omega), Nat.mod_eq_of_lt fits]

theorem total_lt_128_bits {samples : List Nat} (few : samples.length < 2 ^ 64)
    (words : ∀ sample ∈ samples, sample < 2 ^ 64) : total samples < 2 ^ 128 := by
  have whole := total_le fun sample member => (words sample member).le
  have product := Nat.mul_le_mul_right (2 ^ 64) (Nat.le_pred_of_lt few)
  simp only [Nat.pred_eq_sub_one] at product
  omega

namespace Double

/-! ## Errors -/

theorem magnitude_wholeIndex (n : Nat) : magnitude (wholeIndex n) = rounded n := by
  rw [magnitude, units_wholeIndex, Nat.cast_mul, mul_div_cancel_right₀ _ one_cast_pos.ne']

/-- A whole number is rounded by at most one part in 2^53. -/
theorem abs_rounded_sub_le (n : Nat) : |(rounded n : ℚ) - n| ≤ n / 2 ^ 53 := by
  rcases Nat.eq_zero_or_pos n with rfl | pos
  · rw [rounded_of_le (by decide)]
    simp
  · have normal : 1 * 2 ^ 52 ≤ n * one :=
      Nat.mul_le_mul pos (by decide +kernel)
    have error := abs_magnitude_sub_le Nat.one_pos normal
    rw [← wholeIndex, magnitude_wholeIndex] at error
    simpa using error

theorem rounded_le_two_pow {n k : Nat} (le : n ≤ 2 ^ k) : rounded n ≤ 2 ^ k := by
  have units := units_strictMono.monotone (wholeIndex_mono le)
  rw [units_wholeIndex, wholeIndex_two_pow, units_two_pow] at units
  exact Nat.le_of_mul_le_mul_right units one_pos

/-- Three roundings by one part in `1 / u` each change a quotient by less than four such parts. -/
theorem abs_sub_le_of_roundings {s n sum count x u : ℚ} (dividend : 0 ≤ s) (divisor : 0 < n)
    (part : 0 ≤ u) (small : u ≤ 1 / 5) (sumError : |sum - s| ≤ s * u)
    (countError : |count - n| ≤ n * u) (error : |x - sum / count| ≤ sum / count * u) :
    |x - s / n| ≤ s / n * (4 * u) := by
  obtain ⟨sumBelow, sumAbove⟩ := abs_le.mp sumError
  obtain ⟨countBelow, countAbove⟩ := abs_le.mp countError
  obtain ⟨below, above⟩ := abs_le.mp error
  have countPos : 0 < count := by nlinarith
  have ratio : 0 ≤ s / n := div_nonneg dividend divisor.le
  -- The quotient of the rounded numbers, against that of the exact ones.
  have quotientAbove : sum / count * (1 - u) ≤ s / n * (1 + u) := by
    rw [div_mul_eq_mul_div, div_mul_eq_mul_div, div_le_div_iff₀ countPos divisor]
    calc sum * (1 - u) * n ≤ s * (1 + u) * (1 - u) * n := by
          apply mul_le_mul_of_nonneg_right _ divisor.le
          apply mul_le_mul_of_nonneg_right _ (by linarith)
          linarith
      _ = s * (1 + u) * (n * (1 - u)) := by ring
      _ ≤ s * (1 + u) * count := by
          apply mul_le_mul_of_nonneg_left _ (by positivity)
          linarith
  have quotientBelow : s / n * (1 - u) ≤ sum / count * (1 + u) := by
    rw [div_mul_eq_mul_div, div_mul_eq_mul_div, div_le_div_iff₀ divisor countPos]
    calc s * (1 - u) * count ≤ s * (1 - u) * (n * (1 + u)) := by
          apply mul_le_mul_of_nonneg_left _ (mul_nonneg dividend (by linarith))
          linarith
      _ = s * (1 - u) * (1 + u) * n := by ring
      _ ≤ sum * (1 + u) * n := by
          apply mul_le_mul_of_nonneg_right _ divisor.le
          apply mul_le_mul_of_nonneg_right _ (by linarith)
          linarith
  generalize s / n = r at *
  generalize sum / count = quotient at *
  rw [abs_le]
  constructor
  · have : r * (1 - 4 * u) * (1 + u) ≤ x * (1 + u) := by
      calc r * (1 - 4 * u) * (1 + u) ≤ r * (1 - u) * (1 - u) := by nlinarith
        _ ≤ quotient * (1 + u) * (1 - u) :=
          mul_le_mul_of_nonneg_right quotientBelow (by linarith)
        _ = quotient * (1 - u) * (1 + u) := by ring
        _ ≤ x * (1 + u) := mul_le_mul_of_nonneg_right (by linarith) (by linarith)
    have := le_of_mul_le_mul_right this (by linarith)
    linarith
  · have : x * (1 - u) ≤ r * (1 + 4 * u) * (1 - u) := by
      calc x * (1 - u) ≤ quotient * (1 + u) * (1 - u) :=
            mul_le_mul_of_nonneg_right (by linarith) (by linarith)
        _ = quotient * (1 - u) * (1 + u) := by ring
        _ ≤ r * (1 + u) * (1 + u) := mul_le_mul_of_nonneg_right quotientAbove (by linarith)
        _ ≤ r * (1 + 4 * u) * (1 - u) := by
            have : 0 ≤ r * (u * (1 - 5 * u)) :=
              mul_nonneg ratio (mul_nonneg part (by linarith))
            linarith
    have := le_of_mul_le_mul_right this (by linarith)
    linarith

/-- The rounded quotient of two whole numbers is exact up to one part in 2^51. -/
theorem abs_quotient_sub_le {a b : Nat} (pos : 0 < b) (le : b ≤ 2 ^ 128) :
    |magnitude (quotientIndex a b) - a / b| ≤ a / b / 2 ^ 51 := by
  rcases Nat.eq_zero_or_pos a with rfl | some
  · rw [quotientIndex_zero pos, magnitude_zero]
    simp
  · have divisor := rounded_le_two_pow le
    have normal : rounded b * 2 ^ 52 ≤ rounded a * one := by
      calc rounded b * 2 ^ 52 ≤ 2 ^ 128 * 2 ^ 52 := Nat.mul_le_mul_right _ divisor
        _ ≤ 1 * one := by decide +kernel
        _ ≤ rounded a * one := Nat.mul_le_mul_right _ (rounded_pos some)
    have error := abs_magnitude_sub_le (rounded_pos pos) normal
    rw [← quotientIndex_eq a pos] at error
    have sumError := abs_rounded_sub_le a
    have countError := abs_rounded_sub_le b
    rw [div_eq_mul_inv] at sumError countError
    rw [div_eq_mul_inv (_ / _)] at error
    have bound := abs_sub_le_of_roundings (Nat.cast_nonneg a) (by exact_mod_cast pos)
      (by norm_num) (by norm_num) sumError countError error
    calc _ ≤ _ := bound
      _ = (a / b / 2 ^ 51 : ℚ) := by ring

theorem quotientIndex_of_le {a b : Nat} (leA : a ≤ 2 ^ 53) (leB : b ≤ 2 ^ 53) (pos : 0 < b) :
    quotientIndex a b = nearestIndex (a * one) b := by
  rw [quotientIndex_eq a pos, rounded_of_le leA, rounded_of_le leB]

/-- A whole number that is not rounded stays on its side of the quotient. -/
theorem le_magnitude_quotientIndex {a b bound : Nat} (leA : a ≤ 2 ^ 53) (leB : b ≤ 2 ^ 53)
    (pos : 0 < b) (exact : bound ≤ 2 ^ 53) (le : b * bound ≤ a) :
    (bound : ℚ) ≤ magnitude (quotientIndex a b) := by
  have indices : wholeIndex bound ≤ quotientIndex a b := by
    rw [quotientIndex_of_le leA leB pos]
    apply nearestIndex_mono Nat.one_pos pos
    calc bound * one * b = b * bound * one := by ring
      _ ≤ a * one := Nat.mul_le_mul_right one le
      _ = a * one * 1 := (Nat.mul_one _).symm
  have values := magnitude_strictMono.monotone indices
  rwa [magnitude_wholeIndex, rounded_of_le exact] at values

theorem magnitude_quotientIndex_le {a b bound : Nat} (leA : a ≤ 2 ^ 53) (leB : b ≤ 2 ^ 53)
    (pos : 0 < b) (exact : bound ≤ 2 ^ 53) (le : a ≤ b * bound) :
    magnitude (quotientIndex a b) ≤ bound := by
  have indices : quotientIndex a b ≤ wholeIndex bound := by
    rw [quotientIndex_of_le leA leB pos]
    apply nearestIndex_mono pos Nat.one_pos
    calc a * one * 1 = a * one := Nat.mul_one _
      _ ≤ b * bound * one := Nat.mul_le_mul_right one le
      _ = bound * one * b := by ring
  have values := magnitude_strictMono.monotone indices
  rwa [magnitude_wholeIndex, rounded_of_le exact] at values

end Double

/-! ## Means -/

/-- A number of the value `x` as the mean of samples. -/
structure Accurate (samples : List Nat) (number : Double) (x : ℚ) : Prop where
  value : number.toRat? = some x
  /-- Whatever part of the samples has been added, the accumulator holds their sum. -/
  sum : ∀ added, added <+: samples →
    total added < 2 ^ 128 ∧ (accumulated added).toNat = total added
  /-- The value is that of the exact mean up to one part in 2^51. -/
  error : |x - total samples / samples.length| ≤ total samples / samples.length / 2 ^ 51
  /-- The samples may come in any order. -/
  unordered : ∀ others : List Nat, others.Perm samples → mean others = number
  /-- Where sum and count are not rounded, the number is the nearest one. -/
  nearest : total samples ≤ 2 ^ 53 → samples.length ≤ 2 ^ 53 →
    number.IsNearest x (total samples / samples.length)
  /-- There it also lies between the smallest and the largest sample. -/
  between : total samples ≤ 2 ^ 53 → samples.length ≤ 2 ^ 53 →
    ∃ low ∈ samples, ∃ high ∈ samples, (∀ sample ∈ samples, low ≤ sample ∧ sample ≤ high) ∧
      low ≤ x ∧ x ≤ high

theorem exists_least_greatest {samples : List Nat} (some : samples ≠ []) :
    ∃ low ∈ samples, ∃ high ∈ samples, ∀ sample ∈ samples, low ≤ sample ∧ sample ≤ high := by
  have filled : samples.toFinset.Nonempty := (List.toFinset_nonempty_iff samples).mpr some
  obtain ⟨low, lowMember, least⟩ := samples.toFinset.exists_min_image id filled
  obtain ⟨high, highMember, greatest⟩ := samples.toFinset.exists_max_image id filled
  refine ⟨low, List.mem_toFinset.mp lowMember, high, List.mem_toFinset.mp highMember, ?_⟩
  intro sample member
  have among := List.mem_toFinset.mpr member
  exact ⟨least sample among, greatest sample among⟩

/-- The mean of samples of 64 bits is exact up to one part in 2^51, and the number nearest to
the exact mean when the sum and the count have no more than 53 bits. -/
theorem mean_accurate {samples : List Nat} (some : samples ≠ [])
    (few : samples.length < 2 ^ 64) (words : ∀ sample ∈ samples, sample < 2 ^ 64) :
    ∃ x, Accurate samples (mean samples) x := by
  have count : 0 < samples.length := List.length_pos_iff.mpr some
  obtain ⟨⟨index, inside⟩, value, index_eq, -⟩ :=
    mean_eq_finite count few.le fun sample member => (words sample member).le
  obtain rfl : index = Double.quotientIndex (total samples) samples.length := index_eq
  refine ⟨Double.magnitude (Double.quotientIndex (total samples) samples.length),
    ?_, ?_, ?_, ?_, ?_, ?_⟩
  · rw [value]
    rfl
  · rintro added ⟨rest, rfl⟩
    have whole := total_lt_128_bits few words
    rw [total_append] at whole
    have fits : total added < 2 ^ 128 := by omega
    exact ⟨fits, toNat_accumulated fits⟩
  · exact Double.abs_quotient_sub_le count (by omega)
  · intro others mixed
    rw [mean, mean, total_perm mixed, mixed.length_eq]
  · intro sum few
    rw [value]
    have quotient := Double.quotientIndex_of_le sum few count
    simp only [quotient] at inside ⊢
    exact Double.isNearest_nearestIndex count inside
  · intro sum few
    obtain ⟨low, lowMember, high, highMember, bounds⟩ := exists_least_greatest some
    have exact {sample : Nat} (member : sample ∈ samples) : sample ≤ 2 ^ 53 :=
      (le_total member).trans sum
    refine ⟨low, lowMember, high, highMember, bounds, ?_, ?_⟩
    · exact Double.le_magnitude_quotientIndex sum few count (exact lowMember)
        (length_mul_le_total fun sample member => (bounds sample member).1)
    · exact Double.magnitude_quotientIndex_le sum few count (exact highMember)
        (total_le fun sample member => (bounds sample member).2)

/-- Two thirds are not a number of the format, and the mean is the nearest one. -/
theorem mean_accurate_two_thirds :
    ∃ x, Accurate [0, 1, 1] (mean [0, 1, 1]) x ∧
      (mean [0, 1, 1]).IsNearest x (2 / 3) ∧ 0 ≤ x ∧ x ≤ 1 := by
  obtain ⟨x, accurate⟩ := @mean_accurate [0, 1, 1] (by decide) (by decide) (by decide)
  have nearest := accurate.nearest (by decide) (by decide)
  obtain ⟨low, -, high, member, -, below, above⟩ := accurate.between (by decide) (by decide)
  have one : (high : ℚ) ≤ 1 := by
    have : ∀ sample ∈ [0, 1, 1], sample ≤ 1 := by decide
    exact_mod_cast this high member
  have zero : (0 : ℚ) ≤ low := Nat.cast_nonneg low
  refine ⟨x, accurate, ?_, zero.trans below, above.trans one⟩
  have mean : ((total [0, 1, 1] : ℕ) : ℚ) / ([0, 1, 1].length : ℕ) = 2 / 3 := by norm_num [total]
  rwa [mean] at nearest

end PhaseBench
