import PhaseBench.Proofs.Chart.Bars

/-!
# The greatest value and its bars

The greatest value of a chart is found by one pass that starts at zero and passes over what
is not a number. A step keeps what it has or takes a number of a strictly higher rank, so the
pass ends at zero or at a positive value of the chart (`Double.foldl_max_cases`), and which
one that is depends on the values alone and not on their order (`Chart.maxValue_congr`).

A bar has marks only for a positive value of a chart whose greatest value is finite
(`Chart.barLength_eq_zero_or`). Its length is then `Double.marksOf` of a rounded quotient, and
every rounding on the way keeps the order. `Chart.maxValue_bars_sound` puts these together.
-/

namespace PhaseBench

namespace Double

/-! ## Ranks -/

theorem exists_rank? {x : Double} (number : x ≠ .nan) : ∃ a, x.rank? = some a := by
  cases x with
  | nan => exact absurd rfl number
  | finite negative index => exact ⟨_, rfl⟩
  | infinite negative => exact ⟨_, rfl⟩

theorem le_iff {x y : Double} {a b : Int} (rankX : x.rank? = some a) (rankY : y.rank? = some b) :
    x.le y = true ↔ a ≤ b := by
  simp [le, rankX, rankY]

theorem exists_ranks_of_le {x y : Double} (le : x.le y = true) :
    ∃ a b, x.rank? = some a ∧ y.rank? = some b ∧ a ≤ b := by
  have numberX : x ≠ .nan := by
    rintro rfl
    cases le
  have numberY : y ≠ .nan := by
    rintro rfl
    cases x <;> cases le
  obtain ⟨a, rankX⟩ := exists_rank? numberX
  obtain ⟨b, rankY⟩ := exists_rank? numberY
  exact ⟨a, b, rankX, rankY, (le_iff rankX rankY).mp le⟩

/-- What has a positive rank: its sign is positive, and the rank is the index. -/
theorem cases_of_rank?_pos {x : Double} {a : Int} (rank : x.rank? = some a) (pos : 0 < a) :
    (∃ i : Fin infinityIndex, x = .finite false i ∧ a = i.val) ∨
      x = .infinite false ∧ a = infinityIndex := by
  cases x with
  | nan => cases rank
  | finite negative i =>
      obtain rfl := Option.some.inj rank
      cases negative with
      | false => exact .inl ⟨i, rfl, rfl⟩
      | true => exact absurd pos (by simp)
  | infinite negative =>
      obtain rfl := Option.some.inj rank
      cases negative with
      | false => exact .inr ⟨rfl, rfl⟩
      | true => exact absurd pos (by simp)

/-- Only the two zeros share a rank. -/
theorem eq_of_rank?_pos {x y : Double} {a : Int} (pos : 0 < a) (rankX : x.rank? = some a)
    (rankY : y.rank? = some a) : x = y := by
  rcases cases_of_rank?_pos rankX pos with ⟨i, rfl, same⟩ | ⟨rfl, same⟩ <;>
    rcases cases_of_rank?_pos rankY pos with ⟨j, rfl, equal⟩ | ⟨rfl, equal⟩
  · obtain rfl : i = j := Fin.ext (by omega)
    rfl
  · have := i.isLt
    omega
  · have := j.isLt
    omega
  · rfl

/-- A pass for the greatest number ends where it starts, or at a number of a higher rank. -/
theorem foldl_max_cases (values : List Double) {start : Double} {a : Int}
    (rank : start.rank? = some a) :
    values.foldl Double.max start = start ∨
      values.foldl Double.max start ∈ values ∧
        ∃ m, (values.foldl Double.max start).rank? = some m ∧ a < m := by
  induction values generalizing start a with
  | nil => exact .inl rfl
  | cons value values ih =>
      rw [List.foldl_cons]
      by_cases nan : value = .nan
      · subst nan
        rw [max_nan rank]
        exact (ih rank).imp_right fun ⟨member, higher⟩ => ⟨List.mem_cons_of_mem _ member, higher⟩
      · obtain ⟨b, other⟩ := exists_rank? nan
        rw [max_eq_of_rank? rank other]
        split
        · next less =>
            -- From here on the pass starts at a value of the list, above the old start.
            right
            rcases ih other with same | ⟨member, m, higher, above⟩
            · rw [same]
              exact ⟨List.mem_cons_self, b, other, less⟩
            · exact ⟨List.mem_cons_of_mem _ member, m, higher, less.trans above⟩
        · exact (ih rank).imp_right fun ⟨member, higher⟩ => ⟨List.mem_cons_of_mem _ member, higher⟩

/-! ## Marks -/

theorem marksOf_mono {share other : Nat} (le : share ≤ other) (n : Nat) :
    marksOf share n ≤ marksOf other n := by
  have product : nearestIndex (units share * units (wholeIndex n)) one ≤
      nearestIndex (units other * units (wholeIndex n)) one := by
    apply nearestIndex_mono one_pos one_pos
    apply Nat.mul_le_mul_right
    exact Nat.mul_le_mul_right _ (units_strictMono.monotone le)
  have found := units_strictMono.monotone product
  exact Nat.div_le_div_right (by omega)

theorem marksOf_zero (n : Nat) : marksOf 0 n = 0 := by
  have zero : units 0 * units (wholeIndex n) = units 0 * one := by
    rw [show units 0 = 0 from rfl, Nat.zero_mul, Nat.zero_mul]
  rw [marksOf, zero, nearestIndex_units_mul 0 one_pos, show units 0 = 0 from rfl]
  have := one_pos
  exact Nat.div_eq_of_lt (by omega)

/-- The whole share gives all marks. -/
theorem marksOf_one {n : Nat} (few : n ≤ 2 ^ 53) : marksOf (1023 * binade) n = n := by
  rw [marksOf, units_index_one, Nat.mul_comm one, nearestIndex_units_mul _ one_pos,
    units_wholeIndex_of_le few]
  have measurePos := one_pos
  generalize one = measure at measurePos
  rw [show 2 * (n * measure) + measure = measure + n * (2 * measure) by ring,
    Nat.add_mul_div_right _ _ (by omega), Nat.div_eq_of_lt (by omega), Nat.zero_add]

theorem finite_div_finite (i : Fin infinityIndex) {j : Fin infinityIndex} (pos : 0 < j.val) :
    Double.finite false i / .finite false j =
      ofIndex false (nearestIndex (units i * one) (units j)) := by
  show div _ _ = _
  simp only [div, if_neg pos.ne']
  rfl

theorem nearestIndex_quotient_self {j : Nat} (pos : 0 < units j) :
    nearestIndex (units j * one) (units j) = 1023 * binade := by
  rw [Nat.mul_comm, ← units_index_one, nearestIndex_units_mul _ pos]

end Double

namespace Chart

/-! ## The greatest value -/

/-- All values of a chart, series by series. -/
def values (chart : Chart) : List Double := chart.series.flatMap (·.values)

theorem rank?_zero : Double.zero.rank? = some 0 := rfl

/-- The greatest value is zero, or a value of the chart that is positive. -/
theorem maxValue_cases (chart : Chart) :
    chart.maxValue = Double.zero ∨
      chart.maxValue ∈ chart.values ∧ ∃ m, chart.maxValue.rank? = some m ∧ 0 < m :=
  Double.foldl_max_cases chart.values rank?_zero

theorem rank?_le_of_mem {chart : Chart} {m : Int} (rank : chart.maxValue.rank? = some m)
    {value : Double} (member : value ∈ chart.values) {b : Int} (ranked : value.rank? = some b) :
    b ≤ m := by
  obtain ⟨greatest, found, -, above⟩ := Double.exists_rank?_foldl_max chart.values rank?_zero
  obtain rfl : greatest = m := Option.some.inj (found.symm.trans rank)
  exact above value member b ranked

/-- What the values of one chart reach, those of a chart with the same values reach too. -/
theorem maxValue_rank?_le {chart other : Chart}
    (within : ∀ value ∈ chart.values, value ∈ other.values) {m n : Int}
    (rank : chart.maxValue.rank? = some m) (found : other.maxValue.rank? = some n)
    (nonneg : 0 ≤ n) : m ≤ n := by
  rcases chart.maxValue_cases with zero | ⟨member, -⟩
  · rw [zero, rank?_zero] at rank
    obtain rfl := Option.some.inj rank
    exact nonneg
  · exact rank?_le_of_mem found (within _ member) rank

/-- The greatest value depends on which values there are, not on their order or number. -/
theorem maxValue_congr {chart other : Chart}
    (same : ∀ value, value ∈ chart.values ↔ value ∈ other.values) :
    chart.maxValue = other.maxValue := by
  obtain ⟨m, rank, nonneg, -⟩ := chart.exists_rank?_maxValue
  obtain ⟨n, found, positive, -⟩ := other.exists_rank?_maxValue
  have le := maxValue_rank?_le (fun value => (same value).mp) rank found positive
  have ge := maxValue_rank?_le (fun value => (same value).mpr) found rank nonneg
  obtain rfl : m = n := by omega
  rcases chart.maxValue_cases with zero | ⟨-, a, rankA, above⟩
  · -- Of the two zeros it is the positive one in both charts.
    rcases other.maxValue_cases with alike | ⟨-, b, rankB, above⟩
    · rw [zero, alike]
    · rw [zero, rank?_zero] at rank
      rw [found, ← rank] at rankB
      obtain rfl := Option.some.inj rankB
      omega
  · obtain rfl : a = m := Option.some.inj (rankA.symm.trans rank)
    exact Double.eq_of_rank?_pos above rankA found

/-- What the greatest value of a chart is, whatever numbers the chart holds. -/
structure Greatest (chart : Chart) : Prop where
  number : chart.maxValue ≠ .nan
  nonneg : Double.zero.le chart.maxValue = true
  above : ∀ value ∈ chart.values, value ≠ .nan → value.le chart.maxValue = true
  attained : chart.maxValue = Double.zero ∨ chart.maxValue ∈ chart.values
  /-- Neither the order of the series nor that of the values matters. -/
  unordered : ∀ other : Chart, other.values.Perm chart.values → other.maxValue = chart.maxValue

theorem greatest_maxValue (chart : Chart) : chart.Greatest := by
  obtain ⟨m, rank, nonneg, -⟩ := chart.exists_rank?_maxValue
  refine ⟨?_, (Double.le_iff rank?_zero rank).mpr nonneg, ?_, ?_, ?_⟩
  · intro nan
    rw [nan] at rank
    cases rank
  · intro value member number
    obtain ⟨b, ranked⟩ := Double.exists_rank? number
    exact (Double.le_iff ranked rank).mpr (rank?_le_of_mem rank member ranked)
  · exact chart.maxValue_cases.imp_right (·.1)
  · intro other mixed
    exact maxValue_congr fun value => mixed.mem_iff

/-! ## Bars -/

theorem barLength_of_nonpos {greatest : Double} {m : Int} (rank : greatest.rank? = some m)
    (nonpos : m ≤ 0) (value : Double) : barLength value greatest = 0 := by
  rw [barLength, if_pos ((Double.le_iff rank rank?_zero).mpr nonpos)]

theorem barLength_of_pos {greatest : Double} {m : Int} (rank : greatest.rank? = some m)
    (pos : 0 < m) (value : Double) :
    barLength value greatest =
      ((value / greatest * Double.ofNat 40).roundToNat?).getD 40 := by
  have above : ¬ greatest.le Double.zero = true := by
    rw [Double.le_iff rank rank?_zero]
    omega
  rw [barLength, if_neg above, barColumns]

theorem barLength_finite {i j : Fin Double.infinityIndex} (pos : 0 < j.val) (le : i.val ≤ j.val) :
    barLength (.finite false i) (.finite false j) =
      Double.marksOf (Double.nearestIndex (Double.units i * Double.one) (Double.units j)) 40 := by
  have divisor : 0 < Double.units j := Double.units_strictMono pos
  have rank : (Double.finite false j).rank? = some (j.val : Int) := rfl
  rw [barLength_of_pos rank (by omega), Double.finite_div_finite i pos,
    Double.roundToNat?_share (Double.nearestIndex_quotient_le le divisor) (by decide),
    Option.getD_some]

theorem barLength_infinite (value : Double) : barLength value (.infinite false) = 0 := by
  have rank : (Double.infinite false).rank? = some (Double.infinityIndex : Int) := rfl
  rw [barLength_of_pos rank (by decide)]
  cases value with
  | nan => rfl
  | infinite negative => rfl
  | finite negative i =>
      cases negative with
      | true =>
          show (((Double.ofIndex true 0) * Double.ofNat 40).roundToNat?).getD 40 = 0
          rw [Double.roundToNat?_negative_share 0 (by decide) (by decide), Option.getD_some]
      | false =>
          show (((Double.ofIndex false 0) * Double.ofNat 40).roundToNat?).getD 40 = 0
          rw [Double.roundToNat?_share (Nat.zero_le _) (by decide), Double.marksOf_zero,
            Option.getD_some]

/-- A bar without marks, or a positive value in a chart whose greatest value is finite. -/
theorem barLength_eq_zero_or {value greatest : Double} {m : Int} (rank : greatest.rank? = some m)
    (le : ∀ b, value.rank? = some b → b ≤ m) :
    barLength value greatest = 0 ∨
      ∃ i j : Fin Double.infinityIndex, value = .finite false i ∧ greatest = .finite false j ∧
        0 < i.val ∧ i.val ≤ j.val := by
  by_cases pos : 0 < m
  · rcases Double.cases_of_rank?_pos rank pos with ⟨j, rfl, same⟩ | ⟨rfl, -⟩
    · have negative (index : Nat) (share : value / .finite false j = Double.ofIndex true index) :
          barLength value (.finite false j) = 0 := by
        rw [barLength_of_pos rank pos, share,
          Double.roundToNat?_negative_share index (by decide) (by decide), Option.getD_some]
      have nonzero : j.val ≠ 0 := by omega
      cases value with
      | nan =>
          left
          rw [barLength_of_pos rank pos]
          rfl
      | infinite sign =>
          cases sign with
          | true => exact .inl (negative Double.infinityIndex rfl)
          | false =>
              have := le Double.infinityIndex rfl
              have := j.isLt
              omega
      | finite sign i =>
          cases sign with
          | true =>
              left
              apply negative
              show Double.div _ _ = _
              simp only [Double.div, if_neg nonzero, Double.nearest]
              rfl
          | false =>
              have below : i.val ≤ j.val := by
                have := le i rfl
                omega
              by_cases zero : i.val = 0
              · left
                have exact : Double.units 0 * Double.one =
                    Double.units 0 * Double.units j := by
                  rw [show Double.units 0 = 0 from rfl, Nat.zero_mul, Nat.zero_mul]
                rw [barLength_finite (by omega) below, zero, exact, Double.nearestIndex_units_mul 0
                  (Double.units_strictMono (Nat.pos_of_ne_zero nonzero)), Double.marksOf_zero]
              · exact .inr ⟨i, j, rfl, rfl, Nat.pos_of_ne_zero zero, below⟩
    · exact .inl (barLength_infinite value)
  · exact .inl (barLength_of_nonpos rank (Int.not_lt.mp pos) value)

/-- The order of two values of a chart is that of their bars. -/
theorem barLength_mono {chart : Chart} {a b : Double} (first : a ∈ chart.values)
    (second : b ∈ chart.values) (le : a.le b = true) :
    barLength a chart.maxValue ≤ barLength b chart.maxValue := by
  obtain ⟨m, rank, -, -⟩ := chart.exists_rank?_maxValue
  rcases barLength_eq_zero_or rank (fun _ ranked => rank?_le_of_mem rank first ranked) with
    none | ⟨i, j, rfl, greatest, pos, below⟩
  · rw [none]
    exact Nat.zero_le _
  · -- The greater value is positive too, and no greater than the finite greatest one.
    obtain ⟨p, q, rankA, rankB, order⟩ := Double.exists_ranks_of_le le
    obtain rfl : (i.val : Int) = p := Option.some.inj rankA
    have top := rank?_le_of_mem rank second rankB
    rw [greatest] at rank ⊢
    obtain rfl : (j.val : Int) = m := Option.some.inj rank
    rcases Double.cases_of_rank?_pos rankB (by omega) with ⟨k, rfl, same⟩ | ⟨-, same⟩
    · rw [barLength_finite (by omega) below, barLength_finite (by omega) (by omega)]
      have divisor : 0 < Double.units j := Double.units_strictMono (show 0 < j.val by omega)
      apply Double.marksOf_mono
      apply Double.nearestIndex_mono divisor divisor
      apply Nat.mul_le_mul_right
      apply Nat.mul_le_mul_right
      exact Double.units_strictMono.monotone (by omega)
    · have := j.isLt
      omega

theorem barLength_self {j : Fin Double.infinityIndex} (pos : 0 < j.val) :
    barLength (.finite false j) (.finite false j) = 40 := by
  rw [barLength_finite pos (Nat.le_refl _),
    Double.nearestIndex_quotient_self (Double.units_strictMono pos),
    Double.marksOf_one (by decide)]

/-- Bars that are true to the values of their chart. -/
structure BarsSound (chart : Chart) : Prop where
  drawn : ∀ value ∈ chart.values, ∃ marks ≤ 40,
    bar value chart.maxValue = Text.rule '#' marks
  /-- The rounded share is a number of marks by itself: none is cut down to the column. -/
  whole : chart.maxValue.le Double.zero = false → ∀ value ∈ chart.values,
    (value / chart.maxValue * Double.ofNat 40).roundToNat? =
      some (bar value chart.maxValue).length
  mono : ∀ a ∈ chart.values, ∀ b ∈ chart.values, a.le b = true →
    (bar a chart.maxValue).length ≤ (bar b chart.maxValue).length
  empty : ∀ value ∈ chart.values, value = .nan ∨ value.le Double.zero = true →
    bar value chart.maxValue = ""
  full : ∀ value ∈ chart.values, value = chart.maxValue →
    ∀ index, chart.maxValue = .finite false index → 0 < index.val →
      bar value chart.maxValue = Text.rule '#' 40

theorem length_bar (value greatest : Double) :
    (bar value greatest).length = barLength value greatest := by
  simp [bar, Text.rule]

theorem barsSound (chart : Chart) : chart.BarsSound := by
  obtain ⟨m, rank, -, -⟩ := chart.exists_rank?_maxValue
  have below {value : Double} (member : value ∈ chart.values) :
      ∀ b, value.rank? = some b → b ≤ m := fun _ ranked => rank?_le_of_mem rank member ranked
  refine ⟨?_, ?_, ?_, ?_, ?_⟩
  · intro value member
    obtain ⟨series, among, inSeries⟩ := List.mem_flatMap.mp member
    exact ⟨barLength value chart.maxValue, barLength_le among inSeries, rfl⟩
  · intro positive value member
    have pos : 0 < m := by
      by_contra nonpos
      rw [(Double.le_iff rank rank?_zero).mpr (Int.not_lt.mp nonpos)] at positive
      cases positive
    obtain ⟨marks, -, share⟩ := Double.exists_share rank pos (below member)
      (show 0 < 40 by decide) (by decide)
    rw [length_bar, barLength_of_pos rank pos, share, Option.getD_some]
  · intro a first b second le
    rw [length_bar, length_bar]
    exact barLength_mono first second le
  · intro value member nonpos
    have none : barLength value chart.maxValue = 0 := by
      refine (barLength_eq_zero_or rank (below member)).resolve_right ?_
      rintro ⟨i, j, rfl, -, pos, -⟩
      rcases nonpos with nan | le
      · cases nan
      · have ranked : (Double.finite false i).rank? = some (i.val : Int) := rfl
        have := (Double.le_iff ranked rank?_zero).mp le
        omega
    rw [bar, none]
    rfl
  · rintro value - same index finite pos
    rw [same, bar, finite, barLength_self pos]

/-- The greatest value of a chart is one of its values, or zero, whatever the values are and in
whatever order, and the bars that are scaled by it are true to the values. -/
theorem maxValue_bars_sound (chart : Chart) : chart.Greatest ∧ chart.BarsSound :=
  ⟨chart.greatest_maxValue, chart.barsSound⟩

end Chart

end PhaseBench
