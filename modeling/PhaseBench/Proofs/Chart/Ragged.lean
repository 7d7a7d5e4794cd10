import PhaseBench.Proofs.Chart.Rows

/-!
# Charts with lists of different lengths

The two ways to show a chart take different ways through its lists. The text takes a value
and a caption from every series in every group, so one short series is enough to leave
nothing to show; what stands beyond the groups counts for the greatest value only
(`Chart.text?_congr`). The document pairs the values of a series with its captions, however
many groups there are. `Chart.Drawn` says which line of the document each bar, caption and
label has, and `Chart.ragged_shown` states both for every chart.
-/

namespace PhaseBench

universe u v

/-! ## Lines of loops -/

section Loops

variable {α : Type u} {β : Type v}

theorem mapM_congr {f g : α → Option β} {xs : List α} (same : ∀ x ∈ xs, f x = g x) :
    xs.mapM f = xs.mapM g := by
  induction xs with
  | nil => rfl
  | cons x xs ih =>
      obtain ⟨first, others⟩ := List.forall_mem_cons.mp same
      rw [List.mapM_cons, List.mapM_cons, first, ih others]

/-- A loop that counts its turns, over lists whose elements it does not tell apart. -/
theorem mapM_zipIdx_congr {f : α → Nat → Option β} {xs ys : List α}
    (alike : List.Forall₂ (fun x y => ∀ i, f x i = f y i) xs ys) (start : Nat) :
    ((xs.zipIdx start).mapM fun (x, i) => f x i) = (ys.zipIdx start).mapM fun (y, i) => f y i := by
  induction alike generalizing start with
  | nil => rfl
  | cons first _ ih =>
      rw [List.zipIdx_cons, List.zipIdx_cons, List.mapM_cons, List.mapM_cons, ih]
      simp only [first]

variable {f : α → Nat → List β} {width : α → Nat}

theorem length_flatMap_zipIdx (uniform : ∀ x i, (f x i).length = width x) (xs : List α)
    (start : Nat) :
    ((xs.zipIdx start).flatMap fun (x, i) => f x i).length = (xs.map width).sum := by
  induction xs generalizing start with
  | nil => rfl
  | cons x xs ih =>
      rw [List.zipIdx_cons, List.flatMap_cons, List.length_append, ih, uniform, List.map_cons,
        List.sum_cons]

/-- What a turn of a loop writes stands behind all that the turns before it write. -/
theorem getElem?_flatMap_zipIdx (uniform : ∀ x i, (f x i).length = width x) {xs : List α}
    (start : Nat) {j : Nat} {x : α} (here : xs[j]? = some x) {k : Nat} (inside : k < width x) :
    ((xs.zipIdx start).flatMap fun (x, i) => f x i)[((xs.take j).map width).sum + k]? =
      (f x (start + j))[k]? := by
  induction xs generalizing j start with
  | nil => cases here
  | cons first xs ih =>
      rw [List.zipIdx_cons, List.flatMap_cons]
      cases j with
      | zero =>
          obtain rfl : first = x := by simpa using here
          have short : k < (f first start).length := by rwa [uniform]
          rw [List.take_zero, List.map_nil, List.sum_nil, Nat.zero_add,
            List.getElem?_append_left short, Nat.add_zero]
      | succ j =>
          have later : xs[j]? = some x := by simpa using here
          rw [List.take_succ_cons, List.map_cons, List.sum_cons, Nat.add_assoc,
            ← uniform first start, List.getElem?_append_right (Nat.le_add_right ..),
            Nat.add_sub_cancel_left, ih (start + 1) later, Nat.add_assoc, Nat.add_comm 1 j]

end Loops

/-- Series of one phase with the same values and captions in the first groups. -/
structure BarSeries.AgreesUpTo (groups : Nat) (a b : BarSeries) : Prop where
  metric : a.metric = b.metric
  values : a.values.take groups = b.values.take groups
  captions : a.captions.take groups = b.captions.take groups

/-- The number of values that have a caption. -/
def BarSeries.drawn (series : BarSeries) : Nat := min series.values.length series.captions.length

namespace Chart

/-! ## Text -/

/-- Charts that differ only in what their series hold beyond the groups, or in where the bars
of a document are. -/
structure AgreesInGroups (chart other : Chart) : Prop where
  title : chart.title = other.title
  xLabel : chart.xLabel = other.xLabel
  yLabel : chart.yLabel = other.yLabel
  categories : chart.categories = other.categories
  series : List.Forall₂ (BarSeries.AgreesUpTo chart.groups) chart.series other.series

theorem text?_eq_none_iff (chart : Chart) :
    chart.text? = none ↔ chart.categories ≠ [] ∧ ∃ series ∈ chart.series,
      series.values.length < chart.groups ∨ series.captions.length < chart.groups := by
  rw [← Option.not_isSome_iff_eq_none, text?_isSome_iff]
  push Not
  constructor
  · rintro ⟨series, member, short⟩
    have missing : series.values.length < chart.groups ∨
        series.captions.length < chart.groups := by
      by_cases values : chart.groups ≤ series.values.length
      · exact .inr (short values)
      · exact .inl (Nat.lt_of_not_le values)
    refine ⟨?_, series, member, missing⟩
    intro empty
    rw [groups, empty] at missing
    simp at missing
  · rintro ⟨-, series, member, missing⟩
    exact ⟨series, member, by omega⟩

theorem rowOf?_congr {groups group : Nat} {a b : BarSeries} (alike : a.AgreesUpTo groups b)
    (inside : group < groups) (greatest : Double) (category : String) (place : Nat) :
    rowOf? greatest category group a place = rowOf? greatest category group b place := by
  have value : a.values[group]? = b.values[group]? := by
    rw [← List.getElem?_take_of_lt inside, alike.values, List.getElem?_take_of_lt inside]
  have caption : a.captions[group]? = b.captions[group]? := by
    rw [← List.getElem?_take_of_lt inside, alike.captions, List.getElem?_take_of_lt inside]
  simp only [rowOf?, value, caption, alike.metric]

/-- What stands beyond the groups has no part in the text but through the greatest value. -/
theorem text?_congr {chart other : Chart} (alike : chart.AgreesInGroups other)
    (greatest : chart.maxValue = other.maxValue) : chart.text? = other.text? := by
  have body : chart.bodyLines? = other.bodyLines? := by
    rw [bodyLines?, bodyLines?, greatest, ← alike.categories]
    congr 1
    apply mapM_congr
    rintro ⟨category, group⟩ member
    have inside : group < chart.groups :=
      (List.getElem?_eq_some_iff.mp (List.mem_zipIdx_iff_getElem?.mp member)).1
    have rows := mapM_zipIdx_congr (alike.series.imp fun _ _ agree place =>
      rowOf?_congr agree inside other.maxValue category place) 0
    simp only [groupLines?, rows]
  have head : chart.headLines = other.headLines := by
    simp only [headLines, header, alike.title, alike.xLabel, alike.yLabel]
  rw [text?, text?, lines?, lines?, body, head, alike.categories]

/-! ## Documents -/

/-- The line of a document at which the bars of a series begin: behind the frame, the labels of
the groups and the series before it. -/
def barsFrom (chart : Chart) (place : Nat) : Nat :=
  7 + chart.groups + ((chart.series.take place).map fun series => 2 * series.drawn + 2).sum

section Series

variable {chart : Chart} {scale : Double} {series : BarSeries} {place : Nat}

theorem length_bars (scale : Double) (series : BarSeries) (color : String) :
    ((series.values.zip series.captions).zipIdx.flatMap fun ((value, caption), group) =>
      barLines scale series color value caption group).length = 2 * series.drawn := by
  have two (entry : Double × String) (group : Nat) :
      (barLines scale series color entry.1 entry.2 group).length = 2 := rfl
  rw [length_flatMap_zipIdx two, List.map_const', List.sum_replicate, List.length_zip, smul_eq_mul,
    Nat.mul_comm, BarSeries.drawn]

theorem length_seriesLines (chart : Chart) (scale : Double) (series : BarSeries) (place : Nat) :
    (seriesLines chart scale series place).length = 2 * series.drawn + 2 := by
  rw [seriesLines, List.length_append, length_bars]
  rfl

/-- The two lines of a bar stand behind those of the bars before it. -/
theorem getElem?_seriesLines_bar {k : Nat} {value : Double} {caption : String}
    (valueAt : series.values[k]? = some value) (captionAt : series.captions[k]? = some caption)
    {t : Nat} (inside : t < 2) :
    (seriesLines chart scale series place)[2 * k + t]? =
      (barLines scale series (color place) value caption k)[t]? := by
  have two (entry : Double × String) (group : Nat) :
      (barLines scale series (color place) entry.1 entry.2 group).length = 2 := rfl
  have here : (series.values.zip series.captions)[k]? = some (value, caption) :=
    List.getElem?_zip_eq_some.mpr ⟨valueAt, captionAt⟩
  have among : k < series.drawn := by
    have := (List.getElem?_eq_some_iff.mp here).1
    rwa [List.length_zip] at this
  have before : (((series.values.zip series.captions).take k).map fun _ => 2).sum = 2 * k := by
    rw [List.map_const', List.sum_replicate, List.length_take, List.length_zip,
      ← BarSeries.drawn, Nat.min_eq_left among.le, smul_eq_mul, Nat.mul_comm]
  have found := getElem?_flatMap_zipIdx two 0 here inside
  rw [before, Nat.zero_add] at found
  rw [seriesLines, List.getElem?_append_left, found]
  rw [length_bars]
  omega

theorem getElem?_seriesLines_legend (t : Nat) :
    (seriesLines chart scale series place)[2 * series.drawn + t]? =
      (legendLines chart series place)[t]? := by
  rw [seriesLines, ← length_bars scale series (color place),
    List.getElem?_append_right (Nat.le_add_right ..), Nat.add_sub_cancel_left]

end Series

/-- The lines of a document in front of the series. -/
def frontLines (chart : Chart) : List String :=
  [chart.openingTag] ++ chart.frameLines ++
    chart.categories.zipIdx.map fun (category, group) => categoryLine category group

theorem svgLines_eq (chart : Chart) :
    chart.svgLines = chart.frontLines ++
      ((chart.series.zipIdx.flatMap fun (series, place) =>
        seriesLines chart chart.scale series place) ++ ["</svg>"]) := by
  rw [svgLines, frontLines, List.append_assoc]

theorem length_frontLines (chart : Chart) : chart.frontLines.length = 7 + chart.groups := by
  rw [frontLines, List.length_append, List.length_map, List.length_zipIdx]
  rfl

theorem length_svgLines (chart : Chart) :
    chart.svgLines.length =
      8 + chart.groups + (chart.series.map fun series => 2 * series.drawn + 2).sum := by
  rw [svgLines_eq, List.length_append, List.length_append, length_frontLines,
    length_flatMap_zipIdx (length_seriesLines chart chart.scale), List.length_singleton]
  omega

theorem getElem?_svgLines_frame (chart : Chart) {k : Nat} (inside : k < 6) :
    chart.svgLines[1 + k]? = chart.frameLines[k]? := by
  have six : chart.frameLines.length = 6 := rfl
  rw [svgLines_eq, List.getElem?_append_left (by rw [length_frontLines]; omega), frontLines,
    List.append_assoc, List.singleton_append, Nat.add_comm, List.getElem?_cons_succ,
    List.getElem?_append_left (by omega)]

theorem getElem?_svgLines_label {chart : Chart} {g : Nat} {category : String}
    (here : chart.categories[g]? = some category) :
    chart.svgLines[7 + g]? = some (categoryLine category g) := by
  have inside : g < chart.groups := (List.getElem?_eq_some_iff.mp here).1
  have seven : ([chart.openingTag] ++ chart.frameLines).length = 7 := rfl
  rw [svgLines_eq, List.getElem?_append_left (by rw [length_frontLines]; omega), frontLines,
    ← seven, List.getElem?_append_right (Nat.le_add_right ..), Nat.add_sub_cancel_left,
    List.getElem?_map, List.getElem?_zipIdx, here]
  simp

theorem getElem?_svgLines_series {chart : Chart} {j : Nat} {series : BarSeries}
    (here : chart.series[j]? = some series) {k : Nat} (inside : k < 2 * series.drawn + 2) :
    chart.svgLines[chart.barsFrom j + k]? = (seriesLines chart chart.scale series j)[k]? := by
  have uniform := length_seriesLines chart chart.scale
  have found := getElem?_flatMap_zipIdx uniform 0 here inside
  have among : ((chart.series.take j).map fun series => 2 * series.drawn + 2).sum + k <
      (chart.series.zipIdx.flatMap fun (series, place) =>
        seriesLines chart chart.scale series place).length := by
    by_contra beyond
    rw [List.getElem?_eq_none (Nat.le_of_not_lt beyond), eq_comm, List.getElem?_eq_none_iff,
      uniform] at found
    omega
  rw [svgLines_eq, barsFrom, ← length_frontLines, Nat.add_assoc,
    List.getElem?_append_right (Nat.le_add_right ..), Nat.add_sub_cancel_left,
    List.getElem?_append_left among, found, Nat.zero_add]

/-- The two lines of a bar in the document. -/
theorem getElem?_svgLines_bar {chart : Chart} {j : Nat} {series : BarSeries}
    (here : chart.series[j]? = some series) {k : Nat} {value : Double} {caption : String}
    (valueAt : series.values[k]? = some value) (captionAt : series.captions[k]? = some caption)
    {t : Nat} (inside : t < 2) :
    chart.svgLines[chart.barsFrom j + 2 * k + t]? =
      (barLines chart.scale series (color j) value caption k)[t]? := by
  have inValues := (List.getElem?_eq_some_iff.mp valueAt).1
  have inCaptions := (List.getElem?_eq_some_iff.mp captionAt).1
  have room : 2 * k + t < 2 * series.drawn + 2 := by
    rw [BarSeries.drawn]
    omega
  rw [Nat.add_assoc, getElem?_svgLines_series here room,
    getElem?_seriesLines_bar valueAt captionAt inside]

/-- The lines of the document of a chart: seven lines of the frame, a label for every group, and
for every series two lines for each value with a caption and two for the legend, whatever the
number of groups is. -/
structure Drawn (chart : Chart) (lines : List String) : Prop where
  length : lines.length =
    8 + chart.groups + (chart.series.map fun series => 2 * series.drawn + 2).sum
  frame : lines.take 7 = chart.openingTag :: chart.frameLines
  label : ∀ (g : Nat) (category : String), chart.categories[g]? = some category →
    ∃ attributes, lines[7 + g]? = some (textElement attributes (Text.escapeEntities category))
  /-- The bars of a series are as many as it has values with captions. -/
  bar : ∀ (j : Nat) (series : BarSeries), chart.series[j]? = some series →
    ∀ k < series.drawn, ∃ value caption shape attributes,
      series.values[k]? = some value ∧ series.captions[k]? = some caption ∧
      ("height", (value * chart.scale).text) ∈ shape ∧
      lines[chart.barsFrom j + 2 * k]? = some (emptyElement "rect" shape) ∧
      lines[chart.barsFrom j + 2 * k + 1]? = some (textElement attributes caption)
  legend : ∀ (j : Nat) (series : BarSeries), chart.series[j]? = some series →
    lines[chart.barsFrom j + 2 * series.drawn]? = (legendLines chart series j)[0]? ∧
    lines[chart.barsFrom j + 2 * series.drawn + 1]? = (legendLines chart series j)[1]?
  closing : lines.getLast? = some "</svg>"
  /-- Beside the bars there are the background and the marks of the series in the legend. -/
  rectangles : lines.countP isRectangle =
    1 + (chart.series.map fun series => series.drawn + 1).sum

theorem drawn_svgLines (chart : Chart) : chart.Drawn chart.svgLines where
  length := chart.length_svgLines
  frame := rfl
  label := by
    intro g category here
    exact ⟨_, getElem?_svgLines_label here⟩
  bar := by
    intro j series here k among
    have inValues : k < series.values.length := among.trans_le (Nat.min_le_left ..)
    have inCaptions : k < series.captions.length := among.trans_le (Nat.min_le_right ..)
    have line {t : Nat} (inside : t < 2) := getElem?_svgLines_bar here
      (List.getElem?_eq_getElem inValues) (List.getElem?_eq_getElem inCaptions) inside
    refine ⟨_, _, _, _, List.getElem?_eq_getElem inValues, List.getElem?_eq_getElem inCaptions,
      ?_, line (show 0 < 2 by decide), line (show 1 < 2 by decide)⟩
    simp
  legend := by
    intro j series here
    have line {t : Nat} (inside : t < 2) :=
      (getElem?_svgLines_series here
        (show 2 * series.drawn + t < 2 * series.drawn + 2 by omega)).trans
        (getElem?_seriesLines_legend t)
    exact ⟨line (show 0 < 2 by decide), line (show 1 < 2 by decide)⟩
  closing := by
    rw [svgLines_eq, ← List.append_assoc, List.getLast?_concat]
  rectangles := chart.countP_svgLines

/-- A chart has no text exactly when there is a group and a series is short of it, and its text
depends on what stands beyond the groups through the greatest value only. Its document has a
label for every group and a bar for every value with a caption. -/
theorem ragged_shown (chart : Chart) :
    (chart.text? = none ↔ chart.categories ≠ [] ∧ ∃ series ∈ chart.series,
      series.values.length < chart.groups ∨ series.captions.length < chart.groups) ∧
    (∀ other : Chart, chart.AgreesInGroups other → chart.maxValue = other.maxValue →
      chart.text? = other.text?) ∧
    ∃ lines, chart.svg = Text.unlines lines ∧ chart.Drawn lines :=
  ⟨chart.text?_eq_none_iff, fun _ alike greatest => text?_congr alike greatest,
    chart.svgLines, rfl, chart.drawn_svgLines⟩

end Chart

end PhaseBench
