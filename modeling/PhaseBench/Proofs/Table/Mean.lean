import PhaseBench.Proofs.Double.Rounding
import PhaseBench.Table.Summary

/-!
# Means

A mean is the quotient of two whole numbers, each of which is rounded before the
quotient is: three roundings, none of which is exact in general. They agree on the
two things a reader of a chart relies on. The quotient is zero only for the sum
zero (`quotientIndex_pos`), and a bound on the samples by a power of two is a bound
on their mean, with nothing added for the roundings (`quotientIndex_le_two_pow`).
-/

namespace PhaseBench

namespace Double

/-! ## Whole numbers as magnitudes -/

/-- The index of the magnitude nearest to a whole number. -/
def wholeIndex (n : Nat) : Nat := nearestIndex (n * one) 1

theorem wholeIndex_zero : wholeIndex 0 = 0 := by
  rw [wholeIndex, Nat.zero_mul]
  exact nearestIndex_units 0

theorem wholeIndex_mono : Monotone wholeIndex := by
  intro a b le
  apply nearestIndex_mono Nat.one_pos Nat.one_pos
  rw [Nat.mul_one, Nat.mul_one]
  exact Nat.mul_le_mul_right one le

theorem wholeIndex_two_pow (k : Nat) : wholeIndex (2 ^ k) = (1023 + k) * binade := by
  rw [wholeIndex, ← units_two_pow, nearestIndex_units]

theorem le_wholeIndex {n : Nat} (pos : 0 < n) : 1023 * binade ≤ wholeIndex n := by
  have least := wholeIndex_mono (show 2 ^ 0 ≤ n from pos)
  rwa [wholeIndex_two_pow] at least

/-- A whole number of 128 bits is far below the greatest finite magnitude. -/
theorem wholeIndex_lt {n : Nat} (le : n ≤ 2 ^ 128) : wholeIndex n < infinityIndex := by
  have bound := wholeIndex_mono le
  rw [wholeIndex_two_pow, binade_eq] at bound
  unfold infinityIndex
  omega

theorem wholeIndex_mul_two_pow {n : Nat} (k : Nat) (pos : 0 < n) :
    wholeIndex (n * 2 ^ k) = wholeIndex n + k * binade := by
  have normal : 1 * 2 ^ 52 ≤ n * one := by
    calc 1 * 2 ^ 52 ≤ 1 * one := Nat.mul_le_mul_left 1 (by decide +kernel)
      _ ≤ n * one := Nat.mul_le_mul_right one pos
  rw [wholeIndex, Nat.mul_right_comm, nearestIndex_mul_two_pow k Nat.one_pos normal]
  rfl

theorem units_wholeIndex_pos {n : Nat} (pos : 0 < n) : 0 < units (wholeIndex n) := by
  have least : units 0 < units (wholeIndex n) := by
    apply units_strictMono
    have := le_wholeIndex pos
    rw [binade_eq] at this
    omega
  exact least

/-! ## Quotients -/

/-- The index of the quotient of two whole numbers that are rounded first. -/
def quotientIndex (a b : Nat) : Nat :=
  nearestIndex (units (wholeIndex a) * one) (units (wholeIndex b))

theorem ofNat_eq {n : Nat} (le : n ≤ 2 ^ 128) :
    ofNat n = .finite false ⟨wholeIndex n, wholeIndex_lt le⟩ := dif_pos (wholeIndex_lt le)

theorem ofNat_div_ofNat {a b : Nat} (leA : a ≤ 2 ^ 128) (leB : b ≤ 2 ^ 128) (pos : 0 < b) :
    ofNat a / ofNat b = ofIndex false (quotientIndex a b) := by
  have divisor : wholeIndex b ≠ 0 := by
    have := le_wholeIndex pos
    rw [binade_eq] at this
    omega
  rw [ofNat_eq leA, ofNat_eq leB]
  show div _ _ = _
  simp only [div, if_neg divisor]
  rfl

theorem quotientIndex_zero {b : Nat} (pos : 0 < b) : quotientIndex 0 b = 0 := by
  have zero : units (wholeIndex 0) * one = units 0 * units (wholeIndex b) := by
    rw [wholeIndex_zero, show units 0 = 0 from rfl, Nat.zero_mul, Nat.zero_mul]
  rw [quotientIndex, zero, nearestIndex_units_mul 0 (units_wholeIndex_pos pos)]

/-- A quotient is zero only when the dividend is. -/
theorem quotientIndex_pos {a b : Nat} (posA : 0 < a) (posB : 0 < b) (leB : b ≤ 2 ^ 128) :
    0 < quotientIndex a b := by
  have dividend : one ≤ units (wholeIndex a) := by
    have once (n : Nat) : n = 2 ^ 0 * n := by rw [pow_zero, one_mul]
    calc one = 2 ^ 0 * one := once one
      _ = units (1023 * binade) := (units_two_pow 0).symm
      _ ≤ units (wholeIndex a) := units_strictMono.monotone (le_wholeIndex posA)
  have divisor : units (wholeIndex b) ≤ one * one := by
    have greatest := units_strictMono.monotone (wholeIndex_mono leB)
    rw [wholeIndex_two_pow, units_two_pow] at greatest
    exact greatest.trans (Nat.mul_le_mul_right one (by decide +kernel))
  -- The quotient is at least one unit, the magnitude of index 1.
  calc 0 < 1 := Nat.one_pos
    _ = nearestIndex (units 1) 1 := (nearestIndex_units 1).symm
    _ ≤ quotientIndex a b := by
      apply nearestIndex_mono Nat.one_pos (units_wholeIndex_pos posB)
      rw [show units 1 = 1 from rfl, Nat.one_mul, Nat.mul_one]
      exact divisor.trans (Nat.mul_le_mul_right one dividend)

/-- A bound by a power of two survives the roundings. -/
theorem quotientIndex_le_two_pow {a b k : Nat} (pos : 0 < b) (le : a ≤ b * 2 ^ k) :
    quotientIndex a b ≤ (1023 + k) * binade := by
  have normal : binade ≤ wholeIndex b := by
    have := le_wholeIndex pos
    rw [binade_eq] at this ⊢
    omega
  have dividend : units (wholeIndex a) ≤ units (wholeIndex b) * 2 ^ k := by
    rw [← units_add_mul_binade k normal, ← wholeIndex_mul_two_pow k pos]
    exact units_strictMono.monotone (wholeIndex_mono le)
  have divisor := units_wholeIndex_pos pos
  calc quotientIndex a b
      ≤ nearestIndex (units ((1023 + k) * binade) * units (wholeIndex b))
          (units (wholeIndex b)) := by
        apply nearestIndex_mono divisor divisor
        apply Nat.mul_le_mul_right
        calc units (wholeIndex a) * one ≤ units (wholeIndex b) * 2 ^ k * one :=
              Nat.mul_le_mul_right one dividend
          _ = units ((1023 + k) * binade) * units (wholeIndex b) := by
              rw [units_two_pow]
              ring
    _ = (1023 + k) * binade := nearestIndex_units_mul _ divisor

end Double

/-! ## Samples -/

theorem total_le {samples : List Nat} {bound : Nat} (le : ∀ sample ∈ samples, sample ≤ bound) :
    total samples ≤ samples.length * bound := by
  induction samples with
  | nil => simp [total]
  | cons sample samples ih =>
      have first := le sample (by simp)
      have rest := ih fun other member => le other (by simp [member])
      simp only [total, List.foldr_cons, List.length_cons, Nat.succ_mul] at rest ⊢
      omega

theorem total_eq_zero_iff {samples : List Nat} :
    total samples = 0 ↔ ∀ sample ∈ samples, sample = 0 := by
  induction samples with
  | nil => simp [total]
  | cons sample samples ih =>
      simp only [total, List.foldr_cons, List.forall_mem_cons] at ih ⊢
      rw [← ih]
      omega

theorem total_le_128_bits {samples : List Nat} (few : samples.length ≤ 2 ^ 64)
    (words : ∀ sample ∈ samples, sample ≤ 2 ^ 64) : total samples ≤ 2 ^ 128 := by
  have whole := total_le words
  have product := Nat.mul_le_mul_right (2 ^ 64) few
  omega

/-- The mean of samples of 64 bits is a number from zero up to 2^64. -/
theorem mean_eq_finite {samples : List Nat} (some : 0 < samples.length)
    (few : samples.length ≤ 2 ^ 64) (words : ∀ sample ∈ samples, sample ≤ 2 ^ 64) :
    ∃ index, mean samples = .finite false index ∧
      index.val = Double.quotientIndex (total samples) samples.length ∧
      Double.units index ≤ 2 ^ 64 * Double.one := by
  have bound : Double.quotientIndex (total samples) samples.length ≤ (1023 + 64) * Double.binade :=
    Double.quotientIndex_le_two_pow some (total_le words)
  have inside : Double.quotientIndex (total samples) samples.length < Double.infinityIndex := by
    rw [Double.binade_eq] at bound
    unfold Double.infinityIndex
    omega
  refine ⟨⟨_, inside⟩, ?_, rfl, ?_⟩
  · rw [mean, Double.ofNat_div_ofNat (total_le_128_bits few words) (by omega) some]
    exact dif_pos inside
  · rw [← Double.units_two_pow 64]
    exact Double.units_strictMono.monotone bound

/-- The mean of samples is zero only when all of them are. -/
theorem mean_eq_zero_iff {samples : List Nat} (some : 0 < samples.length)
    (few : samples.length ≤ 2 ^ 64) (words : ∀ sample ∈ samples, sample ≤ 2 ^ 64) :
    mean samples = Double.zero ↔ ∀ sample ∈ samples, sample = 0 := by
  obtain ⟨⟨index, inside⟩, value, index_eq, -⟩ := mean_eq_finite some few words
  obtain rfl : index = Double.quotientIndex (total samples) samples.length := index_eq
  have zero : Double.zero = .finite false ⟨0, by decide⟩ := rfl
  rw [value, zero, Double.finite.injEq, Fin.mk.injEq, ← total_eq_zero_iff]
  constructor
  · rintro ⟨-, none⟩
    by_contra nonzero
    have := Double.quotientIndex_pos (Nat.pos_of_ne_zero nonzero) some (by omega)
    omega
  · intro none
    rw [none]
    exact ⟨rfl, Double.quotientIndex_zero some⟩

end PhaseBench
