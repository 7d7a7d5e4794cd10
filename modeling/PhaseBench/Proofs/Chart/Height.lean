import PhaseBench.Proofs.Chart.Greatest
import PhaseBench.Proofs.Chart.Spacing
import PhaseBench.Proofs.Double.Step

/-!
# The height of the tallest bar

The heights of the bars are their values times one scale, the height of the plot divided by
the greatest value. The quotient is rounded, and so is the product: the bar of the greatest
value should be as high as the plot, and can be one step of the format higher or lower. The
exact product of the greatest value and the scale decides (`Chart.tallest_of_reach`). It is
off by less than one step, and by no more than half a step, which the second rounding takes
back, when the value is not between a power of two and a quarter more
(`Chart.abs_reach_sub_le_half`). For values so small that the scale is infinite there is no
height at all.

`Chart.tallest_bar_in_plot` states this for the document of every chart, and
`Chart.oneBar_exceeds_plot` is a chart whose bar reaches out of the plot.
-/

namespace PhaseBench

namespace Double

/-! ## Order of products -/

theorem finite_mul_finite (negative : Bool) (i j : Fin infinityIndex) :
    Double.finite negative i * .finite false j =
      ofIndex negative (nearestIndex (units i * units j) one) := by
  show mul _ _ = _
  rw [mul, Bool.bne_false, nearest]

theorem rank?_ofIndex (negative : Bool) (index : Nat) :
    (ofIndex negative index).rank? =
      some (if negative then -(min index infinityIndex : ℤ) else min index infinityIndex) := by
  rw [ofIndex]
  split
  · next inside => rw [min_eq_left (by exact_mod_cast inside.le), rank?]
  · next beyond => rw [min_eq_right (by exact_mod_cast Nat.le_of_not_lt beyond), rank?]

theorem rank?_le {x : Double} {a : ℤ} (rank : x.rank? = some a) : a ≤ infinityIndex := by
  cases x with
  | nan => cases rank
  | finite negative i =>
      obtain rfl := Option.some.inj rank
      have := i.isLt
      split <;> omega
  | infinite negative =>
      obtain rfl := Option.some.inj rank
      split <;> omega

/-- What is no greater than a magnitude is not when both are taken several times. -/
theorem rank?_mul_le {x : Double} {i : Fin infinityIndex} (factor : Fin infinityIndex)
    (le : ∀ a, x.rank? = some a → a ≤ i.val) {b : ℤ}
    (rank : (x * .finite false factor).rank? = some b) :
    b ≤ min (nearestIndex (units i * units factor) one : ℤ) infinityIndex := by
  cases x with
  | nan => cases rank
  | infinite negative =>
      cases negative with
      | false =>
          have : (infinityIndex : ℤ) ≤ i.val := le infinityIndex rfl
          have := i.isLt
          omega
      | true =>
          change (if factor.val = 0 then nan else infinite true).rank? = _ at rank
          split at rank
          · cases rank
          · obtain rfl : -(infinityIndex : ℤ) = b := Option.some.inj rank
            omega
  | finite negative k =>
      rw [finite_mul_finite, rank?_ofIndex] at rank
      obtain rfl := Option.some.inj rank
      cases negative with
      | true =>
          simp only [if_true]
          omega
      | false =>
          have below : (k.val : ℤ) ≤ i.val := le k rfl
          have product : nearestIndex (units k * units factor) one ≤
              nearestIndex (units i * units factor) one := by
            apply nearestIndex_mono one_pos one_pos
            apply Nat.mul_le_mul_right
            exact Nat.mul_le_mul_right _ (units_strictMono.monotone (by omega))
          simp only [Bool.false_eq_true, if_false]
          omega

theorem lt_eq_false {x y : Double}
    (le : ∀ a b, x.rank? = some a → y.rank? = some b → b ≤ a) : x.lt y = false := by
  rw [lt]
  split
  · next a b rankX rankY => simpa using le a b rankX rankY
  · rfl

end Double

namespace Chart

/-! ## The height of the plot -/

/-- The index of the height of the plot. -/
def plotIndex : Nat := 1030 * Double.binade + 5 * 2 ^ 50

theorem plotHeight_eq : plotHeight = Double.ofIndex false plotIndex := by decide +kernel

/-- Magnitudes around the height of the plot follow each other in steps of 2^-44. -/
theorem magnitude_plot {steps : Nat} (lower : Double.binade ≤ steps)
    (upper : steps ≤ 2 * Double.binade) :
    Double.magnitude (1030 * Double.binade + steps) = steps / 2 ^ 44 := by
  rw [Double.magnitude_steps upper (.inr lower), div_eq_mul_inv]
  norm_num

theorem magnitude_plotIndex : Double.magnitude plotIndex = 320 := by
  refine (magnitude_plot (by decide) (by decide)).trans ?_
  norm_num

/-- A product against the height of the plot, in half steps. -/
theorem productIndex_le_plot_iff (i j : Nat) {steps : Nat} (lower : Double.binade ≤ steps)
    (upper : steps < 2 * Double.binade) :
    Double.nearestIndex (Double.units i * Double.units j) Double.one ≤
        1030 * Double.binade + steps ↔
      2 ^ 45 * (Double.magnitude i * Double.magnitude j) < 2 * steps + 1 ∨
        2 ^ 45 * (Double.magnitude i * Double.magnitude j) = 2 * steps + 1 ∧ steps % 2 = 0 := by
  have parity : (1030 * Double.binade + steps) % 2 = steps % 2 := by
    rw [Double.binade_eq]
    omega
  rw [Double.productIndex_le_iff, parity, Nat.add_assoc, magnitude_plot lower upper.le,
    magnitude_plot (by omega) upper]
  push_cast
  generalize Double.magnitude i * Double.magnitude j = product
  constructor
  · rintro (less | ⟨tie, even⟩)
    · left
      linarith
    · right
      exact ⟨by linarith, even⟩
  · rintro (less | ⟨tie, even⟩)
    · left
      linarith
    · right
      exact ⟨by linarith, even⟩

/-- A product that is near to the height of the plot is rounded to it, or to the next number on
either side. A half step belongs to the height, whose last bit is clear. -/
theorem productIndex_of_near {i j : Nat}
    (near : |Double.magnitude i * Double.magnitude j - 320| < 1 / 2 ^ 44) :
    (|Double.magnitude i * Double.magnitude j - 320| ≤ 1 / 2 ^ 45 →
      Double.nearestIndex (Double.units i * Double.units j) Double.one = plotIndex) ∧
    (1 / 2 ^ 45 < Double.magnitude i * Double.magnitude j - 320 →
      Double.nearestIndex (Double.units i * Double.units j) Double.one = plotIndex + 1) ∧
    (1 / 2 ^ 45 < 320 - Double.magnitude i * Double.magnitude j →
      Double.nearestIndex (Double.units i * Double.units j) Double.one = plotIndex - 1) := by
  have place {steps : Nat} (lower : Double.binade ≤ steps) (upper : steps < 2 * Double.binade) :=
    productIndex_le_plot_iff i j lower upper
  have second := @place (5 * 2 ^ 50 - 2) (by decide) (by decide)
  have previous := @place (5 * 2 ^ 50 - 1) (by decide) (by decide)
  have here := @place (5 * 2 ^ 50) (by decide) (by decide)
  have next := @place (5 * 2 ^ 50 + 1) (by decide) (by decide)
  norm_num at second previous here next
  rw [← le_iff_lt_or_eq] at second here
  unfold plotIndex
  generalize Double.nearestIndex (Double.units i * Double.units j) Double.one = index at *
  generalize Double.magnitude i * Double.magnitude j = product at *
  obtain ⟨low, high⟩ := abs_lt.mp near
  refine ⟨?_, ?_, ?_⟩
  · intro half
    obtain ⟨least, most⟩ := abs_le.mp half
    have upper := here.mpr (by linarith)
    have lower := mt previous.mp (by linarith)
    omega
  · intro above
    have upper := next.mpr (by linarith)
    have lower := mt here.mp (by linarith)
    omega
  · intro below
    have upper := previous.mpr (by linarith)
    have lower := mt second.mp (by linarith)
    omega

/-! ## The scale -/

/-- The index of the scale of a chart whose greatest value has the given index. -/
def scaleIndex (index : Nat) : Nat :=
  Double.nearestIndex (Double.units plotIndex * Double.one) (Double.units index)

section Scale

variable {index : Nat}

theorem quotient_eq (index : Nat) :
    (Double.units plotIndex / Double.units index : ℚ) = 320 / Double.magnitude index := by
  rw [← magnitude_plotIndex, Double.magnitude, Double.magnitude,
    div_div_div_cancel_right₀ Double.one_cast_pos.ne']

/-- The exact product of the greatest value and its scale misses the height of the plot by the
error of the scale, as many times as the value is. -/
theorem abs_reach_sub_le (positive : 0 < index) {e : ℤ} (normal : -1021 ≤ e)
    (less : 320 / Double.magnitude index < 2 ^ e) :
    |Double.magnitude index * Double.magnitude (scaleIndex index) - 320| ≤
      Double.magnitude index * 2 ^ (e - 54) := by
  have divisor : 0 < Double.units index := Double.units_strictMono positive
  have value := Double.magnitude_pos positive
  rw [← quotient_eq] at less
  have error := Double.abs_magnitude_sub_le_zpow divisor normal less
  rw [quotient_eq, ← scaleIndex] at error
  have share : Double.magnitude index * Double.magnitude (scaleIndex index) - 320 =
      Double.magnitude index *
        (Double.magnitude (scaleIndex index) - 320 / Double.magnitude index) := by
    rw [mul_sub, mul_div_cancel₀ _ value.ne']
  rw [share, abs_mul, abs_of_pos value]
  exact mul_le_mul_of_nonneg_left error value.le

theorem abs_reach_sub_lt (positive : 0 < index) (finite : index < Double.infinityIndex) :
    |Double.magnitude index * Double.magnitude (scaleIndex index) - 320| < 1 / 2 ^ 44 := by
  obtain ⟨k, small, least, most⟩ := Double.exists_zpow_le positive finite
  have less : 320 / Double.magnitude index < 2 ^ (9 - k) := by
    rw [div_lt_iff₀ (Double.magnitude_pos positive)]
    calc (320 : ℚ) < 2 ^ (9 - k + k) := by norm_num
      _ = 2 ^ (9 - k) * 2 ^ k := zpow_add₀ two_ne_zero ..
      _ ≤ 2 ^ (9 - k) * Double.magnitude index := by gcongr
  refine (abs_reach_sub_le positive (by omega) less).trans_lt ?_
  calc Double.magnitude index * 2 ^ (9 - k - 54) < 2 ^ (k + 1) * 2 ^ (9 - k - 54) := by gcongr
    _ = 2 ^ (k + 1 + (9 - k - 54)) := (zpow_add₀ two_ne_zero ..).symm
    _ = 1 / 2 ^ 44 := by rw [show k + 1 + (9 - k - 54) = -44 by omega]; norm_num

/-- A greatest value that is a power of two, or is at least a quarter above one, has no more
than half a step to the height. -/
theorem abs_reach_sub_le_half (positive : 0 < index) (finite : index < Double.infinityIndex)
    (apart : ∀ k : ℤ, Double.magnitude index ≤ 2 ^ k ∨ 5 / 4 * 2 ^ k ≤ Double.magnitude index) :
    |Double.magnitude index * Double.magnitude (scaleIndex index) - 320| ≤ 1 / 2 ^ 45 := by
  obtain ⟨k, small, least, most⟩ := Double.exists_zpow_le positive finite
  have value := Double.magnitude_pos positive
  rcases apart k with power | quarter
  · have same : Double.magnitude index = 2 ^ k := power.antisymm least
    have less : 320 / Double.magnitude index < 2 ^ (9 - k) := by
      rw [div_lt_iff₀ value, same, ← zpow_add₀ two_ne_zero, sub_add_cancel]
      norm_num
    refine (abs_reach_sub_le positive (by omega) less).trans_eq ?_
    rw [same, ← zpow_add₀ two_ne_zero, show k + (9 - k - 54) = -45 by omega]
    norm_num
  · rcases quarter.lt_or_eq with beyond | same
    · have less : 320 / Double.magnitude index < 2 ^ (8 - k) := by
        rw [div_lt_iff₀ value]
        calc (320 : ℚ) = 5 / 4 * 2 ^ (8 - k + k) := by norm_num
          _ = 2 ^ (8 - k) * (5 / 4 * 2 ^ k) := by rw [zpow_add₀ two_ne_zero]; ring
          _ < 2 ^ (8 - k) * Double.magnitude index := by gcongr
      refine (abs_reach_sub_le positive (by omega) less).trans ?_
      calc Double.magnitude index * 2 ^ (8 - k - 54) ≤ 2 ^ (k + 1) * 2 ^ (8 - k - 54) := by gcongr
        _ = 2 ^ (k + 1 + (8 - k - 54)) := (zpow_add₀ two_ne_zero ..).symm
        _ = 1 / 2 ^ 45 := by rw [show k + 1 + (8 - k - 54) = -45 by omega]; norm_num
    · -- The quotient is a power of two, which is not rounded.
      obtain ⟨j, two⟩ := @Double.exists_magnitude_zpow (8 - k) (by omega)
      have product : Double.magnitude index * 2 ^ (8 - k) = 320 := by
        rw [← same, mul_assoc, ← zpow_add₀ two_ne_zero, add_sub_cancel]
        norm_num
      have exact : (Double.units plotIndex / Double.units index : ℚ) = Double.magnitude j := by
        rw [quotient_eq, two, div_eq_iff value.ne', mul_comm, product]
      have divisor : 0 < Double.units index := Double.units_strictMono positive
      rw [scaleIndex, Double.nearestIndex_of_magnitude divisor exact, two, product, sub_self,
        abs_zero]
      positivity

/-- The scale is finite exactly when the quotient is below the middle between the greatest
finite magnitude and the next power of two. -/
theorem scaleIndex_lt_iff (positive : 0 < index) :
    scaleIndex index < Double.infinityIndex ↔
      320 < Double.magnitude index * ((2 ^ 54 - 1) * 2 ^ 970) := by
  have divisor : 0 < Double.units index := Double.units_strictMono positive
  have last : Double.infinityIndex = 2045 * Double.binade + (2 * Double.binade - 1) + 1 := by decide
  have odd : (2045 * Double.binade + (2 * Double.binade - 1)) % 2 = 1 := by decide
  have top : (2 : ℚ) ^ ((2045 : ℕ) - 1074 : ℤ) = 2 * 2 ^ 970 := by
    rw [show ((2045 : ℕ) - 1074 : ℤ) = (970 + 1 : ℕ) from rfl, zpow_natCast, pow_succ']
  rw [last, Nat.lt_succ_iff, scaleIndex, Double.nearestIndex_le_iff_ratio divisor, odd, quotient_eq,
    Nat.add_assoc, Double.magnitude_steps (by omega) (.inr (by decide)),
    Double.magnitude_steps (by decide) (.inr (by decide)), top, Double.binade_eq]
  simp only [one_ne_zero, and_false, or_false]
  rw [← mul_div_assoc, div_lt_iff₀ (Double.magnitude_pos positive)]
  push_cast
  generalize (2 : ℚ) ^ 970 = power
  constructor <;> intro less <;> linarith

end Scale

/-! ## The bar of the greatest value -/

/-- The bar of the greatest value fills the plot, and no bar is taller than the plot. -/
structure FillsPlot (chart : Chart) : Prop where
  height : chart.maxValue * chart.scale = plotHeight
  top : baseline - chart.maxValue * chart.scale = marginTop
  within : ∀ value ∈ chart.values, plotHeight.lt (value * chart.scale) = false

theorem baseline_sub_plotHeight : baseline - plotHeight = marginTop := by decide +kernel

section Greatest

variable {chart : Chart} {index : Fin Double.infinityIndex}
  (greatest : chart.maxValue = .finite false index) (positive : 0 < index.val)

include greatest positive

theorem scale_of_finite : chart.scale = Double.ofIndex false (scaleIndex index) := by
  have above : Double.zero.lt (.finite false index) = true := by
    show decide ((0 : ℤ) < index.val) = true
    simpa using positive
  rw [scale, greatest, if_pos above, plotHeight_eq, Double.ofIndex, dif_pos (by decide),
    Double.finite_div_finite _ positive, scaleIndex]

theorem toRat?_scale_eq_some_iff {s : ℚ} : chart.scale.toRat? = some s ↔
      scaleIndex index < Double.infinityIndex ∧ Double.magnitude (scaleIndex index) = s := by
  rw [scale_of_finite greatest positive, Double.toRat?_ofIndex]
  split
  · next inside => simp [inside]
  · next beyond => simp [beyond]

theorem toRat?_scale_eq_none_iff :
    chart.scale.toRat? = none ↔ ¬ scaleIndex index < Double.infinityIndex := by
  rw [scale_of_finite greatest positive, Double.toRat?_ofIndex]
  simp

theorem tallest_of_finite (finite : scaleIndex index < Double.infinityIndex) :
    chart.maxValue * chart.scale = Double.ofIndex false
      (Double.nearestIndex (Double.units index * Double.units (scaleIndex index)) Double.one) := by
  rw [scale_of_finite greatest positive, greatest, Double.ofIndex, dif_pos finite,
    Double.finite_mul_finite]

theorem tallest_of_infinite (infinite : ¬ scaleIndex index < Double.infinityIndex) :
    chart.maxValue * chart.scale = .infinite false := by
  rw [scale_of_finite greatest positive, greatest, Double.ofIndex, dif_neg infinite]
  show Double.mul _ _ = _
  rw [Double.mul, if_neg positive.ne', bne_self_eq_false]

/-- No bar is taller than that of the greatest value. -/
theorem not_tallest_lt {value : Double} (member : value ∈ chart.values) :
    (chart.maxValue * chart.scale).lt (value * chart.scale) = false := by
  have ranked : chart.maxValue.rank? = some (index.val : ℤ) := by
    rw [greatest]
    rfl
  apply Double.lt_eq_false
  intro a b tallest other
  by_cases finite : scaleIndex index < Double.infinityIndex
  · rw [tallest_of_finite greatest positive finite, Double.rank?_ofIndex,
      if_neg Bool.false_ne_true] at tallest
    obtain rfl := Option.some.inj tallest
    rw [scale_of_finite greatest positive, Double.ofIndex, dif_pos finite] at other
    exact @Double.rank?_mul_le value index ⟨scaleIndex index, finite⟩
      (fun _ rank => rank?_le_of_mem ranked member rank) b other
  · rw [tallest_of_infinite greatest positive finite] at tallest
    obtain rfl := Option.some.inj tallest
    exact Double.rank?_le other

theorem fillsPlot_iff_height :
    chart.FillsPlot ↔ chart.maxValue * chart.scale = plotHeight := by
  refine ⟨FillsPlot.height, fun height => ⟨height, ?_, ?_⟩⟩
  · rw [height, baseline_sub_plotHeight]
  · intro value member
    rw [← height]
    exact not_tallest_lt greatest positive member

/-- With a finite scale the height of the greatest value is that of the plot, or one of the two
numbers beside it; the exact product decides. -/
theorem tallest_of_reach (finite : scaleIndex index < Double.infinityIndex) :
    (|Double.magnitude index * Double.magnitude (scaleIndex index) - 320| ≤ 1 / 2 ^ 45 →
      chart.maxValue * chart.scale = plotHeight) ∧
    (1 / 2 ^ 45 < Double.magnitude index * Double.magnitude (scaleIndex index) - 320 →
      chart.maxValue * chart.scale = Double.ofIndex false (plotIndex + 1)) ∧
    (1 / 2 ^ 45 < 320 - Double.magnitude index * Double.magnitude (scaleIndex index) →
      chart.maxValue * chart.scale = Double.ofIndex false (plotIndex - 1)) := by
  obtain ⟨full, above, below⟩ := productIndex_of_near (abs_reach_sub_lt positive index.isLt)
  rw [tallest_of_finite greatest positive finite, plotHeight_eq]
  exact ⟨fun half => congrArg _ (full half), fun far => congrArg _ (above far),
    fun far => congrArg _ (below far)⟩

theorem fillsPlot_iff_reach (finite : scaleIndex index < Double.infinityIndex) :
    chart.FillsPlot ↔
      |Double.magnitude index * Double.magnitude (scaleIndex index) - 320| ≤ 1 / 2 ^ 45 := by
  have next : Double.ofIndex false (plotIndex + 1) ≠ plotHeight := by decide +kernel
  have previous : Double.ofIndex false (plotIndex - 1) ≠ plotHeight := by decide +kernel
  obtain ⟨full, above, below⟩ := tallest_of_reach greatest positive finite
  rw [fillsPlot_iff_height greatest positive]
  refine ⟨fun height => ?_, full⟩
  by_contra far
  rcases lt_abs.mp (not_le.mp far) with high | low
  · exact next ((above high).symm.trans height)
  · rw [neg_sub] at low
    exact previous ((below low).symm.trans height)

end Greatest

/-! ## Bars in the document -/

/-- The line of a bar in a document, with the texts of its top and its height. -/
def BarAt (chart : Chart) (lines : List String) (place group : Nat) (top height : String) : Prop :=
  ∃ x width, lines[chart.barsFrom place + 2 * group]? = some (emptyElement "rect" [("x", x),
    ("y", top), ("width", width), ("height", height), ("fill", color place)])

/-- Every bar of the greatest value has the given top and height in a document. -/
def TallestAt (chart : Chart) (lines : List String) (top height : String) : Prop :=
  ∀ (place : Nat) (series : BarSeries) (group : Nat), chart.series[place]? = some series →
    group < series.drawn → series.values[group]? = some chart.maxValue →
      chart.BarAt lines place group top height

theorem barAt_svgLines {chart : Chart} {place : Nat} {series : BarSeries}
    (here : chart.series[place]? = some series) {group : Nat} (inside : group < series.drawn)
    {value : Double} (valueAt : series.values[group]? = some value) :
    chart.BarAt chart.svgLines place group (baseline - value * chart.scale).text
      (value * chart.scale).text := by
  have captioned : group < series.captions.length := inside.trans_le (Nat.min_le_right ..)
  have line := getElem?_svgLines_bar here valueAt (List.getElem?_eq_getElem captioned)
    (show 0 < 2 by decide)
  exact ⟨_, _, line⟩

theorem tallestAt_svgLines {chart : Chart} {height : Double}
    (tallest : chart.maxValue * chart.scale = height) {top size : String}
    (texts : (baseline - height).text = top ∧ height.text = size) :
    chart.TallestAt chart.svgLines top size := by
  intro place series group here inside valueAt
  rw [← texts.1, ← texts.2, ← tallest]
  exact barAt_svgLines here inside valueAt

theorem text_plotHeight : (baseline - plotHeight).text = "50" ∧ plotHeight.text = "320" := by
  rw [baseline_sub_plotHeight]
  exact ⟨Double.text_ofNat (by decide) (by decide), Double.text_ofNat (by decide) (by decide)⟩

theorem text_above_plot :
    (baseline - Double.ofIndex false (plotIndex + 1)).text = "49.99999999999994" ∧
      (Double.ofIndex false (plotIndex + 1)).text = "320.00000000000006" := by
  decide +kernel

theorem text_below_plot :
    (baseline - Double.ofIndex false (plotIndex - 1)).text = "50.00000000000006" ∧
      (Double.ofIndex false (plotIndex - 1)).text = "319.99999999999994" := by
  decide +kernel

theorem text_infinite :
    (baseline - Double.infinite false).text = "-inf" ∧ (Double.infinite false).text = "inf" := by
  decide +kernel

/-- How the bars of a chart, whose greatest value is `m`, stand in the plot. -/
structure Upright (chart : Chart) (m : ℚ) (lines : List String) : Prop where
  bar : ∀ (place : Nat) (series : BarSeries) (group : Nat) (value : Double),
    chart.series[place]? = some series → group < series.drawn →
      series.values[group]? = some value →
        chart.BarAt lines place group (baseline - value * chart.scale).text
          (value * chart.scale).text
  tallest : ∀ value ∈ chart.values,
    (chart.maxValue * chart.scale).lt (value * chart.scale) = false
  /-- The scale is the exact quotient after one rounding, infinite for the smallest values. -/
  scale : ∀ s, chart.scale.toRat? = some s → Double.IsNearest chart.scale s (320 / m)
  infinite : chart.scale.toRat? = none ↔ m * ((2 ^ 54 - 1) * 2 ^ 970) ≤ 320
  /-- The plot is filled exactly when the scale, taken `m` times, is no more than half a step
  away from its height. -/
  fills_iff : chart.FillsPlot ↔
    ∃ s, chart.scale.toRat? = some s ∧ |m * s - 320| ≤ 1 / 2 ^ 45
  full : chart.FillsPlot → chart.TallestAt lines "50" "320"
  above : ∀ s, chart.scale.toRat? = some s → 1 / 2 ^ 45 < m * s - 320 →
    chart.TallestAt lines "49.99999999999994" "320.00000000000006"
  below : ∀ s, chart.scale.toRat? = some s → 1 / 2 ^ 45 < 320 - m * s →
    chart.TallestAt lines "50.00000000000006" "319.99999999999994"
  endless : chart.scale.toRat? = none → chart.TallestAt lines "-inf" "inf"
  /-- It is filled by every value that is not between a power of two and a quarter more. -/
  apart : 320 < m * ((2 ^ 54 - 1) * 2 ^ 970) → (∀ k : ℤ, m ≤ 2 ^ k ∨ 5 / 4 * 2 ^ k ≤ m) →
    chart.FillsPlot

theorem upright_svgLines {chart : Chart} {index : Fin Double.infinityIndex}
    (greatest : chart.maxValue = .finite false index) (positive : 0 < index.val) :
    chart.Upright (Double.magnitude index) chart.svgLines where
  bar := fun _ _ _ _ here inside valueAt => barAt_svgLines here inside valueAt
  tallest := fun _ member => not_tallest_lt greatest positive member
  scale := by
    intro s found
    obtain ⟨inside, rfl⟩ := (toRat?_scale_eq_some_iff greatest positive).mp found
    have nearest := Double.isNearest_nearestIndex (Double.units_strictMono positive) inside
    rw [quotient_eq] at nearest
    rw [scale_of_finite greatest positive, Double.ofIndex, dif_pos inside]
    exact nearest
  infinite := by
    rw [toRat?_scale_eq_none_iff greatest positive, scaleIndex_lt_iff positive, not_lt]
  fills_iff := by
    constructor
    · intro fills
      by_cases inside : scaleIndex index < Double.infinityIndex
      · exact ⟨_, (toRat?_scale_eq_some_iff greatest positive).mpr ⟨inside, rfl⟩,
          (fillsPlot_iff_reach greatest positive inside).mp fills⟩
      · have height := fills.height
        rw [tallest_of_infinite greatest positive inside, plotHeight_eq] at height
        cases height
    · rintro ⟨s, found, half⟩
      obtain ⟨inside, rfl⟩ := (toRat?_scale_eq_some_iff greatest positive).mp found
      exact (fillsPlot_iff_reach greatest positive inside).mpr half
  full := fun fills => tallestAt_svgLines fills.height text_plotHeight
  above := by
    intro s found far
    obtain ⟨inside, rfl⟩ := (toRat?_scale_eq_some_iff greatest positive).mp found
    obtain ⟨-, above, -⟩ := tallest_of_reach greatest positive inside
    exact tallestAt_svgLines (above far) text_above_plot
  below := by
    intro s found far
    obtain ⟨inside, rfl⟩ := (toRat?_scale_eq_some_iff greatest positive).mp found
    obtain ⟨-, -, below⟩ := tallest_of_reach greatest positive inside
    exact tallestAt_svgLines (below far) text_below_plot
  endless := by
    intro none
    have beyond := (toRat?_scale_eq_none_iff greatest positive).mp none
    exact tallestAt_svgLines (tallest_of_infinite greatest positive beyond) text_infinite
  apart := by
    intro large apart
    rw [fillsPlot_iff_reach greatest positive ((scaleIndex_lt_iff positive).mpr large)]
    exact abs_reach_sub_le_half positive index.isLt apart

/-- In the document of a chart whose greatest value is finite and positive, the bar of this
value is as high as the plot, a step higher, a step lower, or has no height, and it is known
from the value which one it is. -/
theorem tallest_bar_in_plot {chart : Chart} {m : ℚ} (greatest : chart.maxValue.toRat? = some m)
    (positive : 0 < m) : ∃ lines, chart.svg = Text.unlines lines ∧ chart.Upright m lines := by
  obtain ⟨index, finite, nonzero, rfl⟩ := Double.exists_finite_of_toRat? greatest positive
  exact ⟨chart.svgLines, rfl, upright_svgLines finite nonzero⟩

/-- The chart of one file with one value. -/
def oneBar (value : Nat) : Chart :=
  ofInputs ⟨"A"⟩ [("a", ⟨some (Double.ofNat value), none, none⟩)]

theorem twenty_in_plot : (oneBar 20).maxValue.toRat? = some 20 ∧
    ∃ lines, (oneBar 20).svg = Text.unlines lines ∧ (oneBar 20).Upright 20 lines ∧
      (oneBar 20).FillsPlot ∧ (oneBar 20).TallestAt lines "50" "320" := by
  have value : (oneBar 20).maxValue.toRat? = some 20 := by
    have greatest : (oneBar 20).maxValue = Double.ofNat 20 := by decide +kernel
    rw [greatest]
    exact Double.toRat?_ofNat (by decide)
  obtain ⟨lines, document, upright⟩ := tallest_bar_in_plot value (by norm_num)
  have large : (320 : ℚ) < 20 * ((2 ^ 54 - 1) * 2 ^ 970) := by
    have power : (1 : ℚ) ≤ 2 ^ 970 := one_le_pow₀ one_le_two
    generalize (2 : ℚ) ^ 970 = power at *
    linarith
  have fills := upright.apart large fun k => by
    rcases lt_or_ge 4 k with high | low
    · have : (2 : ℚ) ^ (5 : ℤ) ≤ 2 ^ k := zpow_le_zpow_right₀ one_le_two high
      left
      linarith
    · have : (2 : ℚ) ^ k ≤ 2 ^ (4 : ℤ) := zpow_le_zpow_right₀ one_le_two low
      right
      linarith
  exact ⟨value, lines, document, upright, fills, upright.full fills⟩

/-- The bar of 147 is higher than the plot and begins above it. -/
theorem oneBar_exceeds_plot :
    (oneBar 147).maxValue = Double.ofNat 147 ∧ ¬ (oneBar 147).FillsPlot ∧
      plotHeight.lt ((oneBar 147).maxValue * (oneBar 147).scale) = true ∧
      (oneBar 147).svgLines[8]? = some ("<rect x=\"76\" y=\"49.99999999999994\" width=\"36\"" ++
        " height=\"320.00000000000006\" fill=\"#1f77b4\"/>") := by
  refine ⟨by decide +kernel, fun fills => ?_, by decide +kernel, by decide +kernel⟩
  have height : (oneBar 147).maxValue * (oneBar 147).scale ≠ plotHeight := by decide +kernel
  exact height fills.height

end Chart

end PhaseBench
