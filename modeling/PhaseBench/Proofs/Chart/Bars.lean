import PhaseBench.Chart.Terminal
import PhaseBench.Proofs.Table.EqualSamples

/-!
# Lengths of bars

The greatest value of a chart is a number in any case and has a rank, the place in the
order of the format, that no value of the chart exceeds (`exists_rank?_maxValue`). The
share of a value in it is therefore at most one, and 40 times the share rounds to a whole
number of at most 40 marks: also where the share of a negative value is beyond the finite
numbers, or infinity has to be divided by infinity (`exists_share`).
-/

namespace PhaseBench

namespace Double

/-! ## Ranks -/

theorem max_eq_of_rank? {x y : Double} {a b : Int} (rankX : x.rank? = some a)
    (rankY : y.rank? = some b) : x.max y = if a < b then y else x := by
  have less : x.lt y = decide (a < b) := by simp [lt, rankX, rankY]
  cases x with
  | nan => simp [rank?] at rankX
  | _ =>
      cases y with
      | nan => simp [rank?] at rankY
      | _ => simp [Double.max, less]

/-- The greater of two numbers has the greater rank. -/
theorem rank?_max {x y : Double} {a b : Int} (rankX : x.rank? = some a)
    (rankY : y.rank? = some b) : (x.max y).rank? = some (Max.max a b) := by
  rw [max_eq_of_rank? rankX rankY]
  split
  · next less => rw [rankY, max_eq_right less.le]
  · next notLess => rw [rankX, max_eq_left (Int.not_lt.mp notLess)]

theorem max_nan {x : Double} {a : Int} (rankX : x.rank? = some a) : x.max .nan = x := by
  cases x with
  | nan => simp [rank?] at rankX
  | _ => rfl

/-- The greatest of some numbers has a rank from that of the start on, and no lower one than
any of the numbers. -/
theorem exists_rank?_foldl_max (values : List Double) {start : Double} {a : Int}
    (rank : start.rank? = some a) :
    ∃ m, (values.foldl Double.max start).rank? = some m ∧ a ≤ m ∧
      ∀ value ∈ values, ∀ b, value.rank? = some b → b ≤ m := by
  induction values generalizing start a with
  | nil => exact ⟨a, rank, Int.le_refl a, by simp⟩
  | cons value values ih =>
      rw [List.foldl_cons]
      cases other : value.rank? with
      | none =>
          have nan : value = .nan := by
            cases value with
            | nan => rfl
            | _ => simp [rank?] at other
          subst nan
          rw [max_nan rank]
          obtain ⟨m, found, above, below⟩ := ih rank
          refine ⟨m, found, above, ?_⟩
          intro x member b ranked
          rcases List.mem_cons.mp member with rfl | later
          · simp [rank?] at ranked
          · exact below x later b ranked
      | some b =>
          obtain ⟨m, found, above, below⟩ := ih (rank?_max rank other)
          refine ⟨m, found, by omega, ?_⟩
          intro x member c ranked
          rcases List.mem_cons.mp member with rfl | later
          · obtain rfl : b = c := Option.some.inj (other.symm.trans ranked)
            omega
          · exact below x later c ranked

/-! ## Shares -/

/-- Negative numbers, those beyond the finite ones included, round to no marks. -/
theorem roundToNat?_ofIndex_true (index : Nat) : (ofIndex true index).roundToNat? = some 0 := by
  unfold ofIndex
  split <;> rfl

theorem ofIndex_true_mul (index : Nat) {factor : Fin infinityIndex} (nonzero : factor.val ≠ 0) :
    ∃ product, ofIndex true index * .finite false factor = ofIndex true product := by
  by_cases inside : index < infinityIndex
  · refine ⟨nearestIndex (units index * units factor) one, ?_⟩
    rw [ofIndex, dif_pos inside]
    show mul (.finite true ⟨index, inside⟩) (.finite false factor) = _
    simp only [mul, nearest]
    rfl
  · refine ⟨index, ?_⟩
    rw [ofIndex, dif_neg inside]
    show mul (.infinite true) (.finite false factor) = _
    simp only [mul, if_neg nonzero]
    rfl

theorem units_index_one : units (1023 * binade) = one := by
  have once (n : Nat) : 2 ^ 0 * n = n := by rw [pow_zero, one_mul]
  exact (units_two_pow 0).trans (once one)

/-- The quotient of two magnitudes in order is at most one. -/
theorem nearestIndex_quotient_le {i j : Nat} (le : i ≤ j) (pos : 0 < units j) :
    nearestIndex (units i * one) (units j) ≤ 1023 * binade := by
  calc nearestIndex (units i * one) (units j)
      ≤ nearestIndex (units (1023 * binade) * units j) (units j) := by
        apply nearestIndex_mono pos pos
        apply Nat.mul_le_mul_right
        rw [units_index_one, Nat.mul_comm]
        exact Nat.mul_le_mul_left one (units_strictMono.monotone le)
    _ = 1023 * binade := nearestIndex_units_mul _ pos

/-- The product of a magnitude up to one and a whole number is at most this number. -/
theorem nearestIndex_product_le {share n : Nat} (le : share ≤ 1023 * binade) :
    nearestIndex (units share * units (wholeIndex n)) one ≤ wholeIndex n := by
  have one_le := units_strictMono.monotone le
  rw [units_index_one] at one_le
  calc nearestIndex (units share * units (wholeIndex n)) one
      ≤ nearestIndex (units (wholeIndex n) * one) one := by
        apply nearestIndex_mono one_pos one_pos
        apply Nat.mul_le_mul_right
        rw [Nat.mul_comm]
        exact Nat.mul_le_mul_left _ one_le
    _ = wholeIndex n := nearestIndex_units_mul _ one_pos

/-- What the share of a value in a positive number of no lower rank can be: not a number,
negative, or at most one. -/
theorem share_cases {value greatest : Double} {m : Int} (rank : greatest.rank? = some m)
    (pos : 0 < m) (le : ∀ b, value.rank? = some b → b ≤ m) :
    value / greatest = .nan ∨ (∃ index, value / greatest = ofIndex true index) ∨
      ∃ index ≤ 1023 * binade, value / greatest = ofIndex false index := by
  show div value greatest = .nan ∨ (∃ index, div value greatest = ofIndex true index) ∨
    ∃ index ≤ 1023 * binade, div value greatest = ofIndex false index
  cases greatest with
  | nan => simp [rank?] at rank
  | infinite negative =>
      cases negative with
      | true => simp [rank?, infinityIndex] at rank; omega
      | false =>
          cases value with
          | nan => exact .inl rfl
          | infinite sign => exact .inl rfl
          | finite sign i =>
              cases sign with
              | true => exact .inr (.inl ⟨0, rfl⟩)
              | false => exact .inr (.inr ⟨0, Nat.zero_le _, rfl⟩)
  | finite negative j =>
      cases negative with
      | true => simp [rank?] at rank; omega
      | false =>
          have rank : (j.val : Int) = m := by simpa [rank?] using rank
          have nonzero : j.val ≠ 0 := by omega
          cases value with
          | nan => exact .inl rfl
          | infinite sign =>
              cases sign with
              | true => exact .inr (.inl ⟨infinityIndex, rfl⟩)
              | false =>
                  have beyond := le infinityIndex rfl
                  have := j.isLt
                  omega
          | finite sign i =>
              simp only [div, if_neg nonzero, nearest]
              cases sign with
              | true => exact .inr (.inl ⟨_, rfl⟩)
              | false =>
                  have below := le i rfl
                  have divisor : 0 < units j := units_strictMono (show 0 < j.val by omega)
                  exact .inr (.inr ⟨_, nearestIndex_quotient_le (by omega) divisor, rfl⟩)

/-- The marks out of `n` that the share of an index gives: the rounded product, rounded to a
whole number. -/
def marksOf (share n : Nat) : Nat :=
  (2 * units (nearestIndex (units share * units (wholeIndex n)) one) + one) / (2 * one)

/-- A share of at most one gives at most the whole number of marks. -/
theorem marksOf_le {share n : Nat} (le : share ≤ 1023 * binade) (few : n ≤ 2 ^ 53) :
    marksOf share n ≤ n := by
  have size := (units_strictMono.monotone (nearestIndex_product_le le)).trans_eq
    (units_wholeIndex_of_le few)
  have measurePos := one_pos
  unfold marksOf
  generalize units (nearestIndex (units share * units (wholeIndex n)) one) = found at size ⊢
  generalize one = measure at size measurePos ⊢
  apply Nat.le_of_lt_succ
  rw [Nat.div_lt_iff_lt_mul (by omega)]
  calc 2 * found + measure ≤ 2 * (n * measure) + measure := by omega
    _ < (n + 1) * (2 * measure) := by nlinarith

theorem roundToNat?_share {share n : Nat} (le : share ≤ 1023 * binade) (few : n ≤ 2 ^ 53) :
    (ofIndex false share * ofNat n).roundToNat? = some (marksOf share n) := by
  have inside : share < infinityIndex := by
    rw [binade_eq] at le
    unfold infinityIndex
    omega
  have product := @nearestIndex_product_le share n le
  have finite := wholeIndex_lt (show n ≤ 2 ^ 128 by omega)
  rw [ofIndex, dif_pos inside, ofNat_eq (by omega)]
  show (mul (.finite false ⟨share, inside⟩) (.finite false ⟨wholeIndex n, _⟩)).roundToNat? = _
  simp only [mul, nearest]
  rw [ofIndex, dif_pos (product.trans_lt finite)]
  rfl

/-- A negative share gives no marks. -/
theorem roundToNat?_negative_share (index : Nat) {n : Nat} (some : 0 < n) (few : n ≤ 2 ^ 53) :
    (ofIndex true index * ofNat n).roundToNat? = .some 0 := by
  have factor : wholeIndex n ≠ 0 := by
    have := le_wholeIndex some
    rw [binade_eq] at this
    omega
  obtain ⟨product, product_eq⟩ :=
    @ofIndex_true_mul index ⟨wholeIndex n, wholeIndex_lt (by omega)⟩ factor
  rw [ofNat_eq (by omega), product_eq]
  exact roundToNat?_ofIndex_true product

/-- The share of a value in the greatest one gives a number of marks. -/
theorem exists_share {value greatest : Double} {m : Int} (rank : greatest.rank? = some m)
    (pos : 0 < m) (le : ∀ b, value.rank? = some b → b ≤ m) {n : Nat} (some : 0 < n)
    (few : n ≤ 2 ^ 53) :
    ∃ marks ≤ n, (value / greatest * ofNat n).roundToNat? = .some marks := by
  rcases share_cases rank pos le with nan | ⟨index, negative⟩ | ⟨index, small, share⟩
  · rw [nan]
    exact ⟨0, Nat.zero_le n, rfl⟩
  · rw [negative]
    exact ⟨0, Nat.zero_le n, roundToNat?_negative_share index some few⟩
  · rw [share]
    exact ⟨marksOf index n, marksOf_le small few, roundToNat?_share small few⟩

end Double

namespace Chart

/-! ## Bars -/

/-- The greatest value of a chart has a rank that is not negative, and no value of the chart has
a higher one. -/
theorem exists_rank?_maxValue (chart : Chart) :
    ∃ m, chart.maxValue.rank? = some m ∧ 0 ≤ m ∧
      ∀ series ∈ chart.series, ∀ value ∈ series.values, ∀ b, value.rank? = some b → b ≤ m := by
  have zero : Double.zero.rank? = some 0 := rfl
  obtain ⟨m, rank, start, above⟩ :=
    Double.exists_rank?_foldl_max (chart.series.flatMap (·.values)) zero
  refine ⟨m, rank, start, ?_⟩
  intro series member value among b ranked
  exact above value (List.mem_flatMap.mpr ⟨series, member, among⟩) b ranked

/-- No bar of a chart is longer than its column. -/
theorem barLength_le {chart : Chart} {series : BarSeries} {value : Double}
    (member : series ∈ chart.series) (among : value ∈ series.values) :
    barLength value chart.maxValue ≤ 40 := by
  obtain ⟨m, rank, nonneg, above⟩ := chart.exists_rank?_maxValue
  unfold barLength
  split
  · exact Nat.zero_le 40
  · next positive =>
      have zero : Double.zero.rank? = some 0 := rfl
      have pos : 0 < m := by simpa [Double.le, rank, zero] using positive
      obtain ⟨marks, few, share⟩ := Double.exists_share rank pos (above series member value among)
        (show 0 < barColumns by decide) (by decide)
      rw [share]
      exact few

end Chart

end PhaseBench
