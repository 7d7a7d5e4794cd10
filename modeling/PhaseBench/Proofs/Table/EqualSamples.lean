import PhaseBench.Proofs.Double.Nearest
import PhaseBench.Proofs.Table.Mean

/-!
# Means of equal samples

The mean of `n` samples of one value `v` should be `v`, as near as a number can be. The
sum `n * v` is rounded before it is divided, and its error is shared out among the
samples: the mean drifts away from `v` when the share is more than half a step of `v`.
This can happen once the sum needs more than 53 bits and one digit more than its factors
have together, because its steps are then more than `n` steps of `v`
(`mean_five_drifts`).

`mean_replicate_eq_iff` says for which counts and values there is no drift. The share
is never exactly half a step (`two_mul_units_ne`), and where the steps below `v` are
finer than those above, at a power of two, the sum is never rounded down
(`mul_units_wholeIndex_le`), so one comparison decides.
-/

namespace PhaseBench

namespace Double

/-! ## Whole numbers after rounding -/

/-- The whole number that a whole number is rounded to. -/
def rounded (n : Nat) : Nat := units (wholeIndex n) / one

theorem units_wholeIndex_of_le {n : Nat} (le : n ≤ 2 ^ 53) : units (wholeIndex n) = n * one := by
  obtain ⟨bits, unit, -⟩ := exists_one_eq
  rw [wholeIndex, unit]
  exact units_nearestIndex_steps bits le

theorem units_wholeIndex (n : Nat) : units (wholeIndex n) = rounded n * one := by
  have whole : one ∣ units (wholeIndex n) := by
    rcases Nat.le_total n (2 ^ 53) with small | large
    · rw [units_wholeIndex_of_le small]
      exact Nat.dvd_mul_left one n
    · obtain ⟨bits, unit, bits_eq⟩ := exists_one_eq
      have least := wholeIndex_mono large
      rw [wholeIndex_two_pow] at least
      have scale : (bits + 1) * binade ≤ wholeIndex n :=
        (Nat.mul_le_mul_right binade (by omega)).trans least
      rw [unit]
      exact two_pow_dvd_units scale
  exact (Nat.div_mul_cancel whole).symm

theorem rounded_of_le {n : Nat} (le : n ≤ 2 ^ 53) : rounded n = n := by
  rw [rounded, units_wholeIndex_of_le le, Nat.mul_div_cancel n one_pos]

theorem rounded_pos {n : Nat} (pos : 0 < n) : 0 < rounded n := by
  have units := units_wholeIndex_pos pos
  rw [units_wholeIndex] at units
  exact Nat.pos_of_mul_pos_right units

/-- The quotient that is rounded is that of the two rounded whole numbers. -/
theorem quotientIndex_eq (a : Nat) {b : Nat} (pos : 0 < b) :
    quotientIndex a b = nearestIndex (rounded a * one) (rounded b) := by
  rw [quotientIndex, units_wholeIndex, units_wholeIndex]
  apply nearestIndex_congr (Nat.mul_pos (rounded_pos pos) one_pos) (rounded_pos pos)
  ring

/-- The scale and the steps of a positive whole number. The step is known from the leading
digit of what the number is rounded to. -/
theorem exists_steps_wholeIndex {v : Nat} (pos : 0 < v) :
    ∃ s m, wholeIndex v = (s + 1) * binade + m ∧ binade ≤ m ∧ m < 2 * binade ∧
      2 ^ (53 + s) = 2 ^ (rounded v).log2 * one := by
  obtain ⟨s, m, index, upper, lower⟩ := exists_steps (wholeIndex v)
  obtain ⟨bits, unit, bits_eq⟩ := exists_one_eq
  have least := le_wholeIndex pos
  have scale : 1022 ≤ s := by
    by_contra small
    have := Nat.mul_le_mul_right binade (show s + 1 ≤ 1022 by omega)
    rw [Nat.succ_mul] at this
    omega
  have filled : binade ≤ m := lower.resolve_left (by omega)
  obtain ⟨s, rfl⟩ : ∃ t, s = t + 1 := ⟨s - 1, by omega⟩
  have value : rounded v * one = m * 2 ^ (s + 1) := by
    rw [← units_wholeIndex, index, units_steps upper.le (.inr filled)]
  have step : binade * 2 ^ (s + 1) = 2 ^ (s - 1021) * one := by
    rw [binade_mul_two_pow, unit, ← Nat.pow_add, show 52 + (s + 1) = s - 1021 + bits by omega]
  have digit : (rounded v).log2 = s - 1021 := by
    rw [Nat.log2_eq_iff (rounded_pos pos).ne']
    constructor
    · apply Nat.le_of_mul_le_mul_right _ one_pos
      rw [value, ← step]
      exact Nat.mul_le_mul_right _ filled
    · apply Nat.lt_of_mul_lt_mul_right
      calc rounded v * one = m * 2 ^ (s + 1) := value
        _ < 2 * binade * 2 ^ (s + 1) := Nat.mul_lt_mul_of_pos_right upper (Nat.two_pow_pos _)
        _ = 2 * (2 ^ (s - 1021) * one) := by rw [Nat.mul_assoc, step]
        _ = 2 ^ (s - 1021 + 1) * one := by rw [Nat.pow_succ']; ring
  refine ⟨s, m, index, filled, upper, ?_⟩
  rw [digit, ← step, binade_mul_two_pow, show 53 + s = 52 + (s + 1) by omega]

/-! ## Rounding a multiple -/

/-- The sum of equal samples is never rounded to the middle between two of the shares of a
step: taken without its factors of two, the count is odd, and the sum is a whole number of
steps. -/
theorem two_mul_units_ne {n v s k : Nat} (some : 0 < n) (pos : 0 < v)
    (scale : (s + 1) * binade ≤ wholeIndex v) (odd : k % 2 = 1) :
    2 * units (wholeIndex (n * v)) ≠ n * (k * 2 ^ s) := by
  obtain ⟨a, b, oddCount, rfl⟩ := Nat.exists_eq_two_pow_mul_odd some.ne'
  have few : 0 < b * v := Nat.mul_pos oddCount.pos pos
  have normal : (s + 1) * binade ≤ wholeIndex (b * v) :=
    scale.trans (wholeIndex_mono (Nat.le_mul_of_pos_left v oddCount.pos))
  have first : binade ≤ wholeIndex (b * v) := by
    have := Nat.mul_le_mul_right binade (show 1 ≤ s + 1 by omega)
    omega
  obtain ⟨steps, steps_eq⟩ := two_pow_dvd_units normal
  rw [show 2 ^ a * b * v = b * v * 2 ^ a by ring, wholeIndex_mul_two_pow a few,
    units_add_mul_binade a first, steps_eq]
  intro tie
  have shares : 2 * steps = b * k := by
    apply Nat.eq_of_mul_eq_mul_right (show 0 < 2 ^ s * 2 ^ a by positivity)
    calc 2 * steps * (2 ^ s * 2 ^ a) = 2 * (2 ^ s * steps * 2 ^ a) := by ring
      _ = 2 ^ a * b * (k * 2 ^ s) := tie
      _ = b * k * (2 ^ s * 2 ^ a) := by ring
  have product : (b * k) % 2 = 1 := Nat.odd_iff.mp (oddCount.mul (Nat.odd_iff.mpr odd))
  omega

/-- Sums of shares that meet from both sides. -/
theorem eq_of_shares {x y z sum : Nat} (shares : (2 ^ 54 - 1) * x ≤ sum)
    (multiple : z + y = 2 ^ 53 * x) (coarse : x ≤ y) (low : sum ≤ z + (z + y)) :
    sum = z + (z + y) ∧ x = y := by
  omega

/-- A value that is rounded to a power of two has multiples that are not rounded to less than
the multiples of this power. -/
theorem mul_units_wholeIndex_le {n v r : Nat} (few : n ≤ 2 ^ 53)
    (power : wholeIndex v = (r + 1) * binade + binade) :
    n * units (wholeIndex v) ≤ units (wholeIndex (n * v)) := by
  have value : units (wholeIndex v) = 2 ^ (53 + r) := by
    rw [power, units_steps (by omega) (.inr (Nat.le_refl _)), binade_mul_two_pow,
      show 53 + r = 52 + (r + 1) by omega]
  -- The multiple of the power is a magnitude itself, the one of index `j`.
  obtain ⟨j, multiple⟩ : ∃ j, units j = n * 2 ^ (53 + r) := ⟨_, units_nearestIndex_steps _ few⟩
  rw [value, ← multiple]
  by_contra less
  have before : wholeIndex (n * v) < j := units_strictMono.lt_iff_lt.mp (Nat.lt_of_not_le less)
  obtain ⟨p, rfl⟩ : ∃ p, j = p + 1 := ⟨j - 1, by omega⟩
  have low := (nearestIndex_le_iff Nat.one_pos).mp (Nat.le_of_lt_succ before)
  -- The value lies above the middle to the magnitude before the power, one fine step below.
  have high : ¬ wholeIndex v ≤ r * binade + (2 * binade - 1) := by
    rw [power, Nat.succ_mul r]
    have := binade_pos
    omega
  rw [wholeIndex, nearestIndex_le_iff Nat.one_pos, not_or] at high
  have next : r * binade + (2 * binade - 1) + 1 = (r + 1) * binade + binade := by
    rw [Nat.succ_mul r]
    have := binade_pos
    omega
  obtain ⟨t, k, rfl, upper, lower⟩ := exists_steps p
  have above : units (t * binade + k + 1) = (k + 1) * 2 ^ t := by
    rw [Nat.add_assoc, units_steps (by omega) (by omega)]
  rw [units_steps upper.le lower, above] at low
  rw [next, ← power, value, units_steps (by omega) (.inr (by have := binade_pos; omega))] at high
  rw [above] at multiple
  -- So a step at the index before `j` is no coarser than `n` of these fine steps, and being
  -- one of less than 2^53 it is no finer: the multiple lies in the middle, which is not even.
  have shares : n * ((2 ^ 54 - 1) * 2 ^ r) ≤ 2 * (n * v * one) := by
    have fine : (2 ^ 54 - 1) * 2 ^ r ≤ 2 * (v * one) := by
      have above := Nat.le_of_not_lt high.1
      rw [Nat.pow_add, binade_eq] at above
      clear * - above
      omega
    calc n * ((2 ^ 54 - 1) * 2 ^ r) ≤ n * (2 * (v * one)) := Nat.mul_le_mul_left n fine
      _ = 2 * (n * v * one) := by ring
  have coarse : n * 2 ^ r ≤ 2 ^ t := by
    apply Nat.le_of_mul_le_mul_left _ (Nat.two_pow_pos 53)
    calc 2 ^ 53 * (n * 2 ^ r) = n * 2 ^ (53 + r) := by ring
      _ = (k + 1) * 2 ^ t := multiple.symm
      _ ≤ 2 ^ 53 * 2 ^ t := Nat.mul_le_mul_right _ (by rw [binade_eq] at upper; omega)
  have shares_eq : n * ((2 ^ 54 - 1) * 2 ^ r) = (2 ^ 54 - 1) * (n * 2 ^ r) := by ring
  have multiple_eq : k * 2 ^ t + 2 ^ t = 2 ^ 53 * (n * 2 ^ r) := by
    rw [← Nat.succ_mul, multiple]
    ring
  rw [shares_eq] at shares
  rw [Nat.one_mul, Nat.succ_mul k] at low
  obtain ⟨tie, same⟩ := eq_of_shares shares multiple_eq coarse (low.elim Nat.le_of_lt (·.1.le))
  have last : k + 1 = 2 ^ 53 := by
    apply Nat.eq_of_mul_eq_mul_right (Nat.two_pow_pos t)
    rw [Nat.succ_mul, multiple_eq, same]
  have even := (low.resolve_left (Nat.not_lt.mpr tie.ge)).2
  rw [binade_eq] at even
  clear * - even last
  omega

/-- Where the count is not rounded, a quotient rounds back to the value when it is nearer to it
than half a step of its scale, on either side. -/
theorem roundsTo_multiple_iff {n v s m : Nat} (some : 0 < n) (few : n ≤ 2 ^ 53) (pos : 0 < v)
    (index : wholeIndex v = (s + 1) * binade + m) (filled : binade ≤ m) (upper : m < 2 * binade) :
    RoundsTo (units (wholeIndex (n * v))) n (wholeIndex v) ↔
      n * ((2 * m - 1) * 2 ^ (s + 1)) < 2 * units (wholeIndex (n * v)) ∧
        2 * units (wholeIndex (n * v)) < n * ((2 * m + 1) * 2 ^ (s + 1)) := by
  have least := binade_pos
  have scale : (s + 1 + 1) * binade ≤ wholeIndex v := by
    rw [index, Nat.succ_mul (s + 1)]
    omega
  have value : units (wholeIndex v) = m * 2 ^ (s + 1) := by
    rw [index, units_steps upper.le (.inr filled)]
  have sumAbove : units (wholeIndex v) + units (wholeIndex v + 1) = (2 * m + 1) * 2 ^ (s + 1) := by
    rw [value, index, Nat.add_assoc, units_steps (by omega) (.inr (by omega))]
    ring
  have offAbove := two_mul_units_ne some pos scale (show (2 * m + 1) % 2 = 1 by omega)
  have offBelow := two_mul_units_ne some pos scale (show (2 * m - 1) % 2 = 1 by omega)
  -- Below a power of two the steps are finer, but the sum is not rounded down there.
  have down : (∀ previous, wholeIndex v = previous + 1 →
      n * (units previous + units (wholeIndex v)) < 2 * units (wholeIndex (n * v)) ∨
        n * (units previous + units (wholeIndex v)) = 2 * units (wholeIndex (n * v)) ∧
          wholeIndex v % 2 = 0) ↔
      n * ((2 * m - 1) * 2 ^ (s + 1)) < 2 * units (wholeIndex (n * v)) := by
    rcases Nat.eq_or_lt_of_le filled with rfl | beyond
    · have notLess := mul_units_wholeIndex_le few index
      have twice : n * (2 * units (wholeIndex v)) ≤ 2 * units (wholeIndex (n * v)) := by
        rw [Nat.mul_left_comm]
        exact Nat.mul_le_mul_left 2 notLess
      constructor
      · intro _
        refine Nat.lt_of_lt_of_le (Nat.mul_lt_mul_of_pos_left ?_ some) twice
        rw [value, ← Nat.mul_assoc]
        exact Nat.mul_lt_mul_of_pos_right (by omega) (Nat.two_pow_pos _)
      · intro _ previous next
        have smaller : units previous < units (wholeIndex v) := units_strictMono (by omega)
        exact .inl (Nat.lt_of_lt_of_le (Nat.mul_lt_mul_of_pos_left (by omega) some) twice)
    · have sumBelow : units ((s + 1) * binade + (m - 1)) + units (wholeIndex v) =
          (2 * m - 1) * 2 ^ (s + 1) := by
        rw [value, units_steps (by omega) (.inr (by omega)), ← Nat.add_mul,
          show m - 1 + m = 2 * m - 1 by omega]
      constructor
      · intro below
        have side := below ((s + 1) * binade + (m - 1)) (by omega)
        rw [sumBelow] at side
        exact side.resolve_right fun tie => offBelow tie.1.symm
      · intro strict previous next
        obtain rfl : previous = (s + 1) * binade + (m - 1) := by omega
        rw [sumBelow]
        exact .inl strict
  constructor
  · rintro ⟨above, below⟩
    rw [sumAbove] at above
    exact ⟨down.mp below, above.resolve_right fun tie => offAbove tie.1⟩
  · rintro ⟨strictBelow, strictAbove⟩
    refine ⟨.inl ?_, down.mpr strictBelow⟩
    rw [sumAbove]
    exact strictAbove

theorem two_mul_abs_lt_iff {x n m step : Nat} (pos : 0 < m) :
    2 * |(x : ℤ) - n * (m * step)| < n * step ↔
      n * ((2 * m - 1) * step) < 2 * x ∧ 2 * x < n * ((2 * m + 1) * step) := by
  obtain ⟨k, rfl⟩ : ∃ k, m = k + 1 := ⟨m - 1, by omega⟩
  rw [show 2 * (k + 1) - 1 = 2 * k + 1 by omega]
  zify
  rw [← abs_two, ← abs_mul, abs_lt, abs_two]
  constructor
  · rintro ⟨below, above⟩
    constructor <;> linarith
  · rintro ⟨below, above⟩
    constructor <;> linarith

/-- The same criterion on whole numbers: the error of the rounded sum, against the count times
the rounded value, is less than half a step of the value for each sample. -/
theorem roundsTo_iff_abs_lt {n v : Nat} (some : 0 < n) (few : n ≤ 2 ^ 53) :
    RoundsTo (rounded (n * v) * one) n (wholeIndex v) ↔
      2 ^ 53 * |(rounded (n * v) : ℤ) - n * rounded v| < n * 2 ^ (rounded v).log2 := by
  rcases Nat.eq_zero_or_pos v with rfl | pos
  · have zero : rounded 0 = 0 := rounded_of_le (by decide)
    have exact : nearestIndex (0 * n) n = 0 := nearestIndex_units_mul 0 some
    rw [Nat.mul_zero, zero, ← nearestIndex_eq_iff some, Nat.zero_mul, wholeIndex_zero,
      ← Nat.zero_mul n, exact]
    simpa using some
  · obtain ⟨s, m, index, filled, upper, step⟩ := exists_steps_wholeIndex pos
    have value : m * 2 ^ (s + 1) = rounded v * one := by
      rw [← units_wholeIndex, index, units_steps upper.le (.inr filled)]
    have half : 2 ^ 52 * 2 ^ (s + 1) = 2 ^ (rounded v).log2 * one := by
      rw [← step, ← Nat.pow_add, show 52 + (s + 1) = 53 + s by omega]
    have unit : (0 : ℤ) < one := by exact_mod_cast one_pos
    rw [← units_wholeIndex, roundsTo_multiple_iff some few pos index filled upper,
      units_wholeIndex, ← two_mul_abs_lt_iff (by have := binade_pos; omega)]
    zify at value half
    have error : ((rounded (n * v) * one : ℕ) : ℤ) - n * (m * (2 ^ (s + 1) : ℕ)) =
        (rounded (n * v) - n * rounded v) * one := by
      push_cast
      rw [value]
      ring
    rw [error, abs_mul, abs_of_pos unit]
    -- Both sides are taken 2^52 times and measured in units.
    generalize |(rounded (n * v) : ℤ) - n * rounded v| = err
    calc 2 * (err * one) < n * (2 ^ (s + 1) : ℕ)
        ↔ 2 ^ 52 * (2 * (err * one)) < 2 ^ 52 * (n * (2 ^ (s + 1) : ℕ)) :=
          (mul_lt_mul_iff_right₀ (by norm_num)).symm
      _ ↔ 2 ^ 53 * err * one < n * 2 ^ (rounded v).log2 * one := by
          rw [show (2 : ℤ) ^ 52 * (2 * (err * one)) = 2 ^ 53 * err * one by ring,
            show (2 : ℤ) ^ 52 * (n * (2 ^ (s + 1) : ℕ)) = n * 2 ^ (rounded v).log2 * one by
              push_cast
              linear_combination (n : ℤ) * half]
      _ ↔ 2 ^ 53 * err < n * 2 ^ (rounded v).log2 := mul_lt_mul_iff_left₀ unit

end Double

/-! ## Equal samples -/

theorem total_replicate (n v : Nat) : total (List.replicate n v) = n * v := by
  induction n with
  | zero => simp [total]
  | succ n ih =>
      rw [List.replicate_succ, total, List.foldr_cons, ← total, ih, Nat.succ_mul, Nat.add_comm]

/-- The mean of equal samples is their value exactly when the rounded sum, divided by the
rounded count, is rounded to it. -/
theorem mean_replicate_eq_iff_roundsTo {n v : Nat} (some : 0 < n) (few : n ≤ 2 ^ 64)
    (word : v ≤ 2 ^ 64) :
    mean (List.replicate n v) = Double.ofNat v ↔
      Double.RoundsTo (Double.rounded (n * v) * Double.one) (Double.rounded n)
        (Double.wholeIndex v) := by
  have sum : n * v ≤ 2 ^ 128 := (Nat.mul_le_mul few word).trans (by norm_num)
  rw [← Double.nearestIndex_eq_iff (Double.rounded_pos some),
    ← Double.quotientIndex_eq (n * v) some, mean, total_replicate,
    List.length_replicate, Double.ofNat_div_ofNat sum (by omega) some, Double.ofNat_eq (by omega)]
  unfold Double.ofIndex
  split
  · simp
  · next beyond =>
      have inside := Double.wholeIndex_lt (show v ≤ 2 ^ 128 by omega)
      simp only [reduceCtorEq, false_iff]
      omega

theorem mean_replicate_zero {n : Nat} (some : 0 < n) (few : n ≤ 2 ^ 64) :
    mean (List.replicate n 0) = Double.ofNat 0 := by
  have zero : Double.ofNat 0 = Double.zero := by
    show Double.ofIndex false (Double.wholeIndex 0) = Double.ofIndex false 0
    rw [Double.wholeIndex_zero]
  have none : ∀ sample ∈ List.replicate n 0, sample = 0 := fun _ => List.eq_of_mem_replicate
  rw [zero, mean_eq_zero_iff (by rwa [List.length_replicate]) (by rwa [List.length_replicate])
    fun sample member => by rw [none sample member]; exact Nat.zero_le _]
  exact none

/-- A count that is a power of two only raises the scale of the sum. -/
theorem mean_replicate_two_pow {k v : Nat} (few : 2 ^ k ≤ 2 ^ 64) (word : v ≤ 2 ^ 64) :
    mean (List.replicate (2 ^ k) v) = Double.ofNat v := by
  rcases Nat.eq_zero_or_pos v with rfl | pos
  · exact mean_replicate_zero (Nat.two_pow_pos k) few
  have normal : Double.binade ≤ Double.wholeIndex v := by
    have := Double.le_wholeIndex pos
    rw [Double.binade_eq] at this ⊢
    omega
  have count : Double.rounded (2 ^ k) = 2 ^ k := by
    rw [Double.rounded, Double.wholeIndex_two_pow, Double.units_two_pow,
      Nat.mul_div_cancel _ Double.one_pos]
  have sum : Double.rounded (2 ^ k * v) * Double.one =
      Double.units (Double.wholeIndex v) * 2 ^ k := by
    rw [← Double.units_wholeIndex, Nat.mul_comm, Double.wholeIndex_mul_two_pow k pos,
      Double.units_add_mul_binade k normal]
  rw [mean_replicate_eq_iff_roundsTo (Nat.two_pow_pos k) few word, count, sum,
    ← Double.nearestIndex_eq_iff (Nat.two_pow_pos k),
    Double.nearestIndex_units_mul _ (Nat.two_pow_pos k)]

/-- For which counts and values of equal samples the mean is the value as a number. Of all
lists it is known from the three roundings. Where the count is not rounded, the error of the
rounded sum decides: there is no drift exactly when it is less than half a step of the value
for each sample. So there is none when the sum is not rounded, or the count is a power of two. -/
theorem mean_replicate_eq_iff {n v : Nat} (some : 1 ≤ n) (few : n < 2 ^ 64) (word : v < 2 ^ 64) :
    (mean (List.replicate n v) = Double.ofNat v ↔
      Double.RoundsTo (Double.rounded (n * v) * Double.one) (Double.rounded n)
        (Double.wholeIndex v)) ∧
    (n ≤ 2 ^ 53 → (mean (List.replicate n v) = Double.ofNat v ↔
      2 ^ 53 * |(Double.rounded (n * v) : ℤ) - n * Double.rounded v| <
        n * 2 ^ (Double.rounded v).log2)) ∧
    (n * v ≤ 2 ^ 53 → mean (List.replicate n v) = Double.ofNat v) ∧
    (∀ k, n = 2 ^ k → mean (List.replicate n v) = Double.ofNat v) := by
  have general := mean_replicate_eq_iff_roundsTo some few.le word.le
  have criterion : n ≤ 2 ^ 53 → (mean (List.replicate n v) = Double.ofNat v ↔
      2 ^ 53 * |(Double.rounded (n * v) : ℤ) - n * Double.rounded v| <
        n * 2 ^ (Double.rounded v).log2) := by
    intro exact
    rw [general, Double.rounded_of_le exact]
    exact Double.roundsTo_iff_abs_lt some exact
  refine ⟨general, criterion, ?_, ?_⟩
  · intro sum
    rcases Nat.eq_zero_or_pos v with rfl | pos
    · exact mean_replicate_zero some few.le
    · have count : n ≤ 2 ^ 53 := (Nat.le_mul_of_pos_right n pos).trans sum
      have value : v ≤ 2 ^ 53 := (Nat.le_mul_of_pos_left v some).trans sum
      rw [criterion count, Double.rounded_of_le sum, Double.rounded_of_le value]
      push_cast
      rw [sub_self, abs_zero, mul_zero]
      positivity
  · rintro k rfl
    exact mean_replicate_two_pow few.le word.le

/-- The sum of three samples is rounded, and their mean is still exact. -/
theorem mean_three_exact : Double.rounded (3 * 9007199254740991) = 27021597764222972 ∧
    mean (List.replicate 3 9007199254740991) = Double.ofNat 9007199254740991 := by
  have sum : Double.rounded (3 * 9007199254740991) = 27021597764222972 := by decide +kernel
  have value : Double.rounded 9007199254740991 = 9007199254740991 := by decide +kernel
  refine ⟨sum, ((mean_replicate_eq_iff (by decide) (by decide) (by decide)).2.1 (by decide)).mpr ?_⟩
  have digit : Nat.log2 9007199254740991 = 52 := by decide +kernel
  rw [sum, value, digit]
  norm_num

/-- The mean of five equal samples is another number than the sample. -/
theorem mean_five_drifts :
    mean (List.replicate 5 9007199254740991) = Double.ofNat 9007199254740990 ∧
      mean (List.replicate 5 9007199254740991) ≠ Double.ofNat 9007199254740991 := by
  decide +kernel

end PhaseBench
