import PhaseBench.Proofs.Chart.Ragged
import PhaseBench.Proofs.Double.Numeral

/-!
# Bars side by side

The width of a bar is three tenths of the distance of two ticks, and three tenths are no
number of the format. Width and offsets in the document are nevertheless whole: the product
with the distance of the ticks is rounded to 36, or its opposite. Ticks lie half a distance
behind a whole one, and up to 2^45 groups all sums need no more than 53 bits, so every
horizontal coordinate is a whole number and is written as its numeral (`barLines_eq`).

`Chart.bars_side_by_side` states the coordinates of all bars of the chart of a summary, and
what follows for the intervals that they take on the axis.
-/

namespace PhaseBench.Chart

/-! ## Coordinates -/

/-- The left end of the bar of a phase in a group. -/
def barLeft (group : Nat) (metric : Metric) : Nat := 76 + 120 * group + 36 * metric.index

theorem barWidth_mul_tickSpacing : barWidth * tickSpacing = Double.ofNat 36 := by decide +kernel

theorem half_width : Double.ofNat 36 / Double.ofNat 2 = Double.ofNat 18 := by decide +kernel

/-- The bar of the first phase is moved to the left, that of the last one to the right. -/
theorem offset_mul_tickSpacing (metric : Metric) :
    offset metric * tickSpacing =
      match metric with
      | .generating => -Double.ofNat 36
      | .interpreting => Double.ofNat 0
      | .threaded => Double.ofNat 36 := by
  cases metric <;> decide +kernel

theorem tickX_eq {group : Nat} (few : group < 2 ^ 45) :
    tickX group = Double.ofNat (130 + 120 * group) := by
  have product := @Double.ofNat_mul_add_half 60 group (by omega) (by omega) (by omega)
  rw [tickX, tickSpacing, product, marginLeft, Double.ofNat_add_ofNat (by omega)]
  refine congrArg Double.ofNat ?_
  omega

theorem center_eq {group : Nat} (few : group < 2 ^ 45) (metric : Metric) :
    tickX group + offset metric * tickSpacing = Double.ofNat (barLeft group metric + 18) := by
  rw [tickX_eq few, offset_mul_tickSpacing]
  cases metric with
  | generating =>
      show Double.ofNat (130 + 120 * group) - Double.ofNat 36 = _
      rw [Double.ofNat_sub_ofNat (by omega) (by omega)]
      refine congrArg Double.ofNat ?_
      simp only [barLeft, Metric.index]
      omega
  | interpreting =>
      rw [Double.ofNat_add_ofNat (by omega)]
      refine congrArg Double.ofNat ?_
      simp only [barLeft, Metric.index]
      omega
  | threaded =>
      rw [Double.ofNat_add_ofNat (by omega)]
      refine congrArg Double.ofNat ?_
      simp only [barLeft, Metric.index]
      omega

theorem barLeft_lt {group : Nat} (few : group < 2 ^ 45) (metric : Metric) :
    barLeft group metric + 18 < 2 ^ 53 := by
  have last : metric.index ≤ 2 := by cases metric <;> decide
  unfold barLeft
  omega

/-- The lines of a bar have whole numbers as horizontal coordinates. -/
theorem barLines_eq {group : Nat} (few : group < 2 ^ 45) (inputs : Inputs Double)
    (metric : Metric) (scale value : Double) (color caption : String) :
    barLines scale (seriesOf inputs metric) color value caption group =
      [ emptyElement "rect" [("x", Text.decimal (barLeft group metric)),
          ("y", (baseline - value * scale).text), ("width", "36"),
          ("height", (value * scale).text), ("fill", color)],
        textElement [("x", Text.decimal (barLeft group metric + 18)),
          ("y", (baseline - value * scale - Double.ofNat 3).text), ("text-anchor", "middle"),
          ("font-size", "8")] caption ] := by
  have small := barLeft_lt few metric
  have positive : 0 < barLeft group metric := by
    unfold barLeft
    omega
  have left : Double.ofNat (barLeft group metric + 18) - Double.ofNat 18 =
      Double.ofNat (barLeft group metric) := by
    rw [Double.ofNat_sub_ofNat (by omega) small.le, Nat.add_sub_cancel]
  have width : (Double.ofNat 36).text = "36" := Double.text_ofNat (by decide) (by decide)
  simp only [barLines, seriesOf, barWidth_mul_tickSpacing, half_width, center_eq few, left, width,
    Double.text_ofNat positive (by omega), Double.text_ofNat (Nat.succ_pos _) small]

/-! ## Axes -/

theorem plotWidth_eq {chart : Chart} (some : 0 < chart.groups) (few : chart.groups < 2 ^ 45) :
    chart.plotWidth = Double.ofNat (120 * chart.groups) := by
  rw [plotWidth, tickSpacing, Nat.max_eq_left some,
    Double.ofNat_mul_ofNat (by decide) (by omega) (by omega)]

theorem baseline_eq : baseline = Double.ofNat 370 := Double.ofNat_add_ofNat (by decide)

/-- The vertical axis and the horizontal one, among the lines of the frame. -/
theorem frameLines_axes {chart : Chart} (some : 0 < chart.groups) (few : chart.groups < 2 ^ 45) :
    chart.frameLines[2]? = .some (emptyElement "line" [("x1", "70"), ("y1", "50"), ("x2", "70"),
      ("y2", "370"), ("stroke", "black")]) ∧
    chart.frameLines[3]? = .some (emptyElement "line" [("x1", "70"), ("y1", "370"),
      ("x2", Text.decimal (70 + 120 * chart.groups)), ("y2", "370"), ("stroke", "black")]) := by
  have left : marginLeft.text = "70" := Double.text_ofNat (by decide) (by decide)
  have top : marginTop.text = "50" := Double.text_ofNat (by decide) (by decide)
  have bottom : baseline.text = "370" := by
    rw [baseline_eq]
    exact Double.text_ofNat (by decide) (by decide)
  have right : (marginLeft + chart.plotWidth).text = Text.decimal (70 + 120 * chart.groups) := by
    rw [plotWidth_eq some few, marginLeft, Double.ofNat_add_ofNat (by omega),
      Double.text_ofNat (by omega) (by omega)]
  simp only [frameLines, left, top, bottom, right]
  exact ⟨rfl, rfl⟩

/-! ## The bars of a chart -/

section Inputs

variable (configuration : Configuration) (inputs : Inputs Double)

theorem series_ofInputs (metric : Metric) :
    (ofInputs configuration inputs).series[metric.index]? = some (seriesOf inputs metric) := by
  show (Metric.all.map (seriesOf inputs))[metric.index]? = _
  rw [List.getElem?_map, Metric.getElem?_all_index, Option.map_some]

theorem drawn_seriesOf (metric : Metric) : (seriesOf inputs metric).drawn = inputs.length := by
  simp [BarSeries.drawn, seriesOf]

/-- Every series takes as many lines as every other one. -/
theorem barsFrom_ofInputs (metric : Metric) :
    (ofInputs configuration inputs).barsFrom metric.index =
      7 + inputs.length + metric.index * (2 * inputs.length + 2) := by
  have widths : ((ofInputs configuration inputs).series.map fun series => 2 * series.drawn + 2) =
      List.replicate 3 (2 * inputs.length + 2) := by
    simp [ofInputs, Metric.all, drawn_seriesOf]
  have last : metric.index ≤ 3 := by cases metric <;> decide
  rw [barsFrom, List.map_take, widths, List.take_replicate, List.sum_replicate,
    Nat.min_eq_left last, groups_ofInputs, smul_eq_mul]

/-- The lines of the bar of a phase in a group. -/
theorem getElem?_svgLines_ofInputs (metric : Metric) {group : Nat}
    (inside : group < inputs.length) :
    ∃ value caption, ∀ t < 2,
      (ofInputs configuration inputs).svgLines[7 + inputs.length +
        metric.index * (2 * inputs.length + 2) + 2 * group + t]? =
      (barLines (ofInputs configuration inputs).scale (seriesOf inputs metric)
        (color metric.index) value caption group)[t]? := by
  have inValues : group < (seriesOf inputs metric).values.length := by simpa [seriesOf]
  have inCaptions : group < (seriesOf inputs metric).captions.length := by simpa [seriesOf]
  refine ⟨(seriesOf inputs metric).values[group], (seriesOf inputs metric).captions[group], ?_⟩
  intro t two
  rw [← barsFrom_ofInputs configuration]
  exact getElem?_svgLines_bar (series_ofInputs configuration inputs metric)
    (List.getElem?_eq_getElem inValues) (List.getElem?_eq_getElem inCaptions) two

end Inputs

/-- The bars of a chart with their coordinates on the horizontal axis: every one begins at a
whole number and is 36 wide, no two overlap, those of different groups are 12 apart or more,
and all lie between the ends of the axis. -/
structure SideBySide (chart : Chart) (lines : List String) : Prop where
  bar : ∀ (metric : Metric), ∀ group < chart.groups, ∃ y height,
    lines[7 + chart.groups + metric.index * (2 * chart.groups + 2) + 2 * group]? =
      some (emptyElement "rect" [("x", Text.decimal (barLeft group metric)), ("y", y),
        ("width", "36"), ("height", height), ("fill", color metric.index)])
  /-- The caption stands above the middle of the bar. -/
  caption : ∀ (metric : Metric), ∀ group < chart.groups, ∃ y caption,
    lines[7 + chart.groups + metric.index * (2 * chart.groups + 2) + 2 * group + 1]? =
      some (textElement [("x", Text.decimal (barLeft group metric + 18)), ("y", y),
        ("text-anchor", "middle"), ("font-size", "8")] caption)
  vertical : lines[3]? = some (emptyElement "line" [("x1", "70"), ("y1", "50"), ("x2", "70"),
    ("y2", "370"), ("stroke", "black")])
  horizontal : lines[4]? = some (emptyElement "line" [("x1", "70"), ("y1", "370"),
    ("x2", Text.decimal (70 + 120 * chart.groups)), ("y2", "370"), ("stroke", "black")])
  disjoint : ∀ (g h : Nat) (metric other : Metric), (g, metric) ≠ (h, other) →
    Disjoint (Set.Ioo (barLeft g metric : ℚ) (barLeft g metric + 36))
      (Set.Ioo (barLeft h other : ℚ) (barLeft h other + 36))
  apart : ∀ (g h : Nat) (metric other : Metric), g < h →
    barLeft g metric + 36 + 12 ≤ barLeft h other
  within : ∀ (metric : Metric), ∀ group < chart.groups,
    70 ≤ barLeft group metric ∧ barLeft group metric + 36 ≤ 70 + 120 * chart.groups

theorem barLeft_apart {g h : Nat} (before : g < h) (metric other : Metric) :
    barLeft g metric + 36 + 12 ≤ barLeft h other := by
  have last : metric.index ≤ 2 := by cases metric <;> decide
  unfold barLeft
  omega

/-- Of two bars one ends where the other begins, or before. -/
theorem barLeft_add_le {g h : Nat} {metric other : Metric} (different : (g, metric) ≠ (h, other)) :
    barLeft g metric + 36 ≤ barLeft h other ∨ barLeft h other + 36 ≤ barLeft g metric := by
  rcases Nat.lt_trichotomy g h with before | rfl | behind
  · have := barLeft_apart before metric other
    omega
  · have phases : metric.index ≠ other.index := by
      intro same
      cases metric <;> cases other <;> first | exact different rfl | cases same
    unfold barLeft
    omega
  · have := barLeft_apart behind other metric
    omega

theorem disjoint_bars {g h : Nat} {metric other : Metric} (different : (g, metric) ≠ (h, other)) :
    Disjoint (Set.Ioo (barLeft g metric : ℚ) (barLeft g metric + 36))
      (Set.Ioo (barLeft h other : ℚ) (barLeft h other + 36)) := by
  rw [Set.disjoint_left]
  rintro x ⟨left, right⟩ ⟨otherLeft, otherRight⟩
  rcases barLeft_add_le different with le | le
  · have : (barLeft g metric + 36 : ℚ) ≤ barLeft h other := by exact_mod_cast le
    linarith
  · have : (barLeft h other + 36 : ℚ) ≤ barLeft g metric := by exact_mod_cast le
    linarith

/-- In the chart of a summary the bars stand side by side at whole numbers. -/
theorem bars_side_by_side {summary : SummaryTable} {chart : Chart}
    (member : chart ∈ ofSummary summary) (some : 1 ≤ chart.groups)
    (few : chart.groups < 2 ^ 45) :
    ∃ lines, chart.svg = Text.unlines lines ∧ chart.SideBySide lines := by
  obtain ⟨⟨configuration, inputs⟩, -, rfl⟩ := List.mem_map.mp member
  have count := groups_ofInputs configuration inputs
  obtain ⟨vertical, horizontal⟩ := frameLines_axes some few
  have frame {k : Nat} (inside : k < 6) :=
    getElem?_svgLines_frame (ofInputs configuration inputs) inside
  refine ⟨(ofInputs configuration inputs).svgLines, rfl, ?_, ?_,
    (frame (show 2 < 6 by decide)).trans vertical, (frame (show 3 < 6 by decide)).trans horizontal,
    ?_, ?_, ?_⟩
  · intro metric group inside
    rw [count] at inside few ⊢
    obtain ⟨value, caption, lines⟩ := getElem?_svgLines_ofInputs configuration inputs metric inside
    have line := lines 0 (by decide)
    rw [barLines_eq (by omega)] at line
    exact ⟨_, _, line⟩
  · intro metric group inside
    rw [count] at inside few ⊢
    obtain ⟨value, caption, lines⟩ := getElem?_svgLines_ofInputs configuration inputs metric inside
    have line := lines 1 (by decide)
    rw [barLines_eq (by omega)] at line
    exact ⟨_, _, line⟩
  · intro g h metric other different
    exact disjoint_bars different
  · intro g h metric other before
    exact barLeft_apart before metric other
  · intro metric group inside
    have last : metric.index ≤ 2 := by cases metric <;> decide
    unfold barLeft
    omega

/-- A summary of one configuration with two files. -/
def twoFiles : SummaryTable :=
  ⟨[(⟨"PushAdd"⟩, [("a", ⟨some (Double.ofNat 147), none, some (Double.ofNat 77)⟩),
    ("b", ⟨none, some (Double.ofNat 5), none⟩)])]⟩

theorem bars_side_by_side_two_files : ∃ chart ∈ ofSummary twoFiles, chart.groups = 2 ∧
    ∃ lines, chart.svg = Text.unlines lines ∧ chart.SideBySide lines := by
  have groups : ∀ chart ∈ ofSummary twoFiles, chart.groups = 2 := by
    rintro chart member
    rw [List.mem_singleton.mp member]
    rfl
  refine ⟨_, List.mem_cons_self, groups _ List.mem_cons_self, ?_⟩
  apply @bars_side_by_side twoFiles _ List.mem_cons_self
  · rw [groups _ List.mem_cons_self]
    decide
  · rw [groups _ List.mem_cons_self]
    decide

end PhaseBench.Chart
