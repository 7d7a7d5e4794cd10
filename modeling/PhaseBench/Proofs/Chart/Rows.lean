import PhaseBench.Proofs.Chart.Bars
import PhaseBench.Proofs.Chart.Rendering

/-!
# Rows of a chart

The text of a chart read back line by line. `Chart.LaidOut` says which line a series has in
a group and what stands there, with every column, width and position as a number;
`Chart.text_laidOut` says that the text of every chart without line breaks of its own is
laid out in this way.

A row is as wide as the line that closes its group unless its category or its caption is
too long for its column: the bar never is (`Chart.barLength_le`).
-/

namespace PhaseBench

universe u v

/-! ## Places in lists -/

section Places

variable {α : Type u} {β : Type v} {f : α → Nat → Option β} {xs : List α} {ys : List β}

theorem exists_of_mapM_cons {f : α → Option β} {x : α} (found : (x :: xs).mapM f = some ys) :
    ∃ y rest, f x = some y ∧ xs.mapM f = some rest ∧ ys = y :: rest := by
  rw [List.mapM_cons] at found
  obtain ⟨y, first, found⟩ := Option.bind_eq_some_iff.mp found
  obtain ⟨rest, later, found⟩ := Option.bind_eq_some_iff.mp found
  exact ⟨y, rest, first, later, (Option.some.inj found).symm⟩

theorem length_of_mapM {f : α → Option β} (found : xs.mapM f = some ys) :
    ys.length = xs.length := by
  induction xs generalizing ys with
  | nil =>
      obtain rfl : [] = ys := by simpa using found
      rfl
  | cons x xs ih =>
      obtain ⟨y, rest, -, later, rfl⟩ := exists_of_mapM_cons found
      rw [List.length_cons, List.length_cons, ih later]

/-- The value found for an element stands at the place of the element. -/
theorem getElem?_of_mapM {f : α → Option β} (found : xs.mapM f = some ys) (i : Nat) :
    ys[i]? = xs[i]?.bind f := by
  induction xs generalizing ys i with
  | nil =>
      obtain rfl : [] = ys := by simpa using found
      rfl
  | cons x xs ih =>
      obtain ⟨y, rest, first, later, rfl⟩ := exists_of_mapM_cons found
      cases i with
      | zero => simp [first]
      | succ i => simpa using ih later i

theorem getElem?_of_mapM_zipIdx (found : (xs.zipIdx.mapM fun (x, i) => f x i) = some ys)
    (i : Nat) : ys[i]? = xs[i]?.bind (f · i) := by
  rw [getElem?_of_mapM found, List.getElem?_zipIdx]
  cases xs[i]? <;> simp

/-- Every value that was found was found for some element. -/
theorem exists_of_mem_mapM_zipIdx (found : (xs.zipIdx.mapM fun (x, i) => f x i) = some ys)
    {y : β} (member : y ∈ ys) : ∃ i x, xs[i]? = some x ∧ f x i = some y := by
  obtain ⟨i, place⟩ := List.mem_iff_getElem?.mp member
  rw [getElem?_of_mapM_zipIdx found] at place
  obtain ⟨x, element, value⟩ := Option.bind_eq_some_iff.mp place
  exact ⟨i, x, element, value⟩

/-- Every element has its value. -/
theorem exists_value_of_mapM_zipIdx (found : (xs.zipIdx.mapM fun (x, i) => f x i) = some ys)
    {i : Nat} {x : α} (place : xs[i]? = some x) : ∃ y, ys[i]? = some y ∧ f x i = some y := by
  have inside := (List.getElem?_eq_some_iff.mp place).1
  have count : ys.length = xs.length := by simpa using length_of_mapM found
  have same := getElem?_of_mapM_zipIdx found i
  rw [place, Option.bind_some] at same
  rw [← same]
  exact ⟨ys[i], List.getElem?_eq_getElem _, List.getElem?_eq_getElem _⟩

end Places

/-- The elements of blocks of one width, by block and place in the block. -/
theorem getElem?_flatten_of_length {α : Type u} {blocks : List (List α)} {width : Nat}
    (uniform : ∀ block ∈ blocks, block.length = width) (g : Nat) {j : Nat} (inside : j < width) :
    blocks.flatten[g * width + j]? = blocks[g]?.bind (·[j]?) := by
  induction blocks generalizing g with
  | nil => simp
  | cons block blocks ih =>
      obtain ⟨first, others⟩ := List.forall_mem_cons.mp uniform
      rw [List.flatten_cons]
      cases g with
      | zero => rw [Nat.zero_mul, Nat.zero_add, List.getElem?_append_left (by omega)]; rfl
      | succ g =>
          have past : (g + 1) * width + j = block.length + (g * width + j) := by
            rw [Nat.succ_mul, first]
            omega
          rw [past, List.getElem?_append_right (Nat.le_add_right ..), Nat.add_sub_cancel_left,
            ih others g]
          rfl

theorem length_flatten_of_length {α : Type u} {blocks : List (List α)} {width : Nat}
    (uniform : ∀ block ∈ blocks, block.length = width) :
    blocks.flatten.length = blocks.length * width := by
  rw [List.length_flatten, List.map_congr_left uniform, List.map_const', List.sum_replicate,
    smul_eq_mul]

namespace Text

/-! ## Lines of a text -/

/-- A text that is a single line. -/
def Unbroken (text : String) : Prop := '\n' ∉ text.toList

/-- The lines of a text: what stands before, between and after its line breaks. -/
def linesOf (text : String) : List String := (text.toList.splitOn '\n').map String.ofList

@[simp]
theorem unbroken_append {a b : String} : Unbroken (a ++ b) ↔ Unbroken a ∧ Unbroken b := by
  simp [Unbroken]

@[simp]
theorem unbroken_rule {c : Char} {n : Nat} (visible : '\n' ≠ c) : Unbroken (rule c n) := by
  simp [Unbroken, rule, visible]

@[simp]
theorem unbroken_padEnd {width : Nat} {text : String} :
    Unbroken (padEnd width text) ↔ Unbroken text := by
  simp [padEnd]

@[simp]
theorem unbroken_padStart {width : Nat} {text : String} :
    Unbroken (padStart width text) ↔ Unbroken text := by
  simp [padStart]

/-- Lines that are written first are the first lines of the text. -/
theorem linesOf_unlines_append {lines : List String} (unbroken : ∀ line ∈ lines, Unbroken line)
    (others : List String) :
    linesOf (unlines (lines ++ others)) = lines ++ linesOf (unlines others) := by
  induction lines with
  | nil => rfl
  | cons line lines ih =>
      obtain ⟨first, rest⟩ := List.forall_mem_cons.mp unbroken
      have spelled : (unlines (line :: lines ++ others)).toList =
          line.toList ++ '\n' :: (unlines (lines ++ others)).toList := by
        simp [unlines, String.toList_join]
      rw [linesOf, spelled, List.splitOn_append_cons_self_of_not_mem first, List.map_cons,
        String.ofList_toList]
      exact congrArg (line :: ·) (ih rest)

/-- Lines written one after the other are the lines of the text; nothing follows the last
line break. -/
theorem linesOf_unlines {lines : List String} (unbroken : ∀ line ∈ lines, Unbroken line) :
    linesOf (unlines lines) = lines ++ [""] := by
  have whole := linesOf_unlines_append unbroken []
  rw [List.append_nil] at whole
  exact whole

end Text

namespace Chart

/-! ## The layout -/

/-- A chart all of whose texts are single lines. -/
structure Unbroken (chart : Chart) : Prop where
  title : Text.Unbroken chart.title
  xLabel : Text.Unbroken chart.xLabel
  yLabel : Text.Unbroken chart.yLabel
  categories : ∀ category ∈ chart.categories, Text.Unbroken category
  captions : ∀ series ∈ chart.series, ∀ caption ∈ series.captions, Text.Unbroken caption

/-- A row: category, phase, a bar of some marks and the caption, each in its column. Its width
is 103 and what the category and the caption have beyond their columns. -/
structure IsRow (line category : String) (metric : Metric) (marks : Nat) (caption : String) :
    Prop where
  marks_le : marks ≤ 40
  spelled : line = Text.padEnd 24 category ++ "  " ++ Text.padEnd 24 metric.name ++ "  " ++
    Text.padEnd 40 (Text.rule '#' marks) ++ " " ++ Text.padStart 10 caption
  width : line.length = 103 + (category.length - 24) + (caption.length - 10)

/-- The lines of a chart: five lines above the groups, and for every group one row per series
and a closing line. -/
structure LaidOut (chart : Chart) (lines : List String) : Prop where
  length : lines.length =
    if chart.groups = 0 then 5 + 1 else 5 + chart.groups * (chart.series.length + 1)
  row : ∀ (g j : Nat) (category : String) (series : BarSeries),
    chart.categories[g]? = some category → chart.series[j]? = some series →
      ∃ line value caption, lines[5 + g * (chart.series.length + 1) + j]? = some line ∧
        series.values[g]? = some value ∧ series.captions[g]? = some caption ∧
        IsRow line (if j = 0 then category else "") series.metric
          (barLength value chart.maxValue) caption
  closing : ∀ g < chart.groups,
    lines[5 + g * (chart.series.length + 1) + chart.series.length]? = some (Text.rule '-' 103)
  remark : chart.groups = 0 → lines[5]? = some "(no input files)"

/-! ## Rows -/

theorem length_name_le (metric : Metric) : metric.name.length ≤ 24 := by
  cases metric <;> decide

theorem unbroken_name (metric : Metric) : Text.Unbroken metric.name := by
  cases metric <;> simp [Metric.name, Text.Unbroken]

theorem isRow_row {marks : Nat} (few : marks ≤ 40) (category : String) (metric : Metric)
    (caption : String) :
    IsRow (row category metric (Text.rule '#' marks) caption) category metric marks caption := by
  refine ⟨few, rfl, ?_⟩
  have name := length_name_le metric
  have bar : (Text.rule '#' marks).length = marks := by simp [Text.rule]
  have gap : columnGap.length = 2 := rfl
  have blank : " ".length = 1 := rfl
  simp only [row, String.length_append, Text.length_padEnd, Text.length_padStart, bar, gap, blank,
    columnWidth, barColumns, captionWidth]
  omega

/-- What a row of a chart shows. -/
theorem isRow_of_rowOf? {chart : Chart} {series : BarSeries} {category line : String}
    {group place : Nat} (member : series ∈ chart.series)
    (shown : rowOf? chart.maxValue category group series place = some line) :
    ∃ value caption, series.values[group]? = some value ∧ series.captions[group]? = some caption ∧
      IsRow line (if place = 0 then category else "") series.metric
        (barLength value chart.maxValue) caption := by
  unfold rowOf? at shown
  split at shown
  · next value caption valueAt captionAt =>
      obtain rfl := Option.some.inj shown
      have few := barLength_le member (List.mem_of_getElem? valueAt)
      exact ⟨value, caption, valueAt, captionAt, isRow_row few ..⟩
  · cases shown

theorem IsRow.unbroken {line category caption : String} {metric : Metric} {marks : Nat}
    (isRow : IsRow line category metric marks caption) (name : Text.Unbroken category)
    (text : Text.Unbroken caption) : Text.Unbroken line := by
  have gap : Text.Unbroken "  " := by simp [Text.Unbroken]
  have blank : Text.Unbroken " " := by simp [Text.Unbroken]
  simp [isRow.spelled, name, text, gap, blank, unbroken_name]

/-! ## Groups -/

section Group

variable {greatest : Double} {series : List BarSeries} {category : String} {group : Nat}
  {lines : List String}

theorem length_of_groupLines? (shown : groupLines? greatest series category group = some lines) :
    lines.length = series.length + 1 := by
  obtain ⟨rows, found, rfl⟩ := Option.map_eq_some_iff.mp shown
  simp [length_of_mapM found]

theorem row_of_groupLines? (shown : groupLines? greatest series category group = some lines)
    {j : Nat} {one : BarSeries} (place : series[j]? = some one) :
    ∃ line, lines[j]? = some line ∧ rowOf? greatest category group one j = some line := by
  obtain ⟨rows, found, rfl⟩ := Option.map_eq_some_iff.mp shown
  obtain ⟨line, here, row⟩ := exists_value_of_mapM_zipIdx found place
  have inside := (List.getElem?_eq_some_iff.mp here).1
  exact ⟨line, by rw [List.getElem?_append_left inside, here], row⟩

theorem closing_of_groupLines?
    (shown : groupLines? greatest series category group = some lines) :
    lines[series.length]? = some (Text.rule '-' 103) := by
  obtain ⟨rows, found, rfl⟩ := Option.map_eq_some_iff.mp shown
  have count : rows.length = series.length := by simpa using length_of_mapM found
  rw [← count, List.getElem?_concat_length]
  rfl

/-- Every line of a group is the row of one of its series or the closing line. -/
theorem cases_of_groupLines? (shown : groupLines? greatest series category group = some lines)
    {line : String} (member : line ∈ lines) :
    (∃ j one, series[j]? = some one ∧ rowOf? greatest category group one j = some line) ∨
      line = closingLine := by
  obtain ⟨rows, found, rfl⟩ := Option.map_eq_some_iff.mp shown
  rcases List.mem_append.mp member with among | last
  · exact .inl (exists_of_mem_mapM_zipIdx found among)
  · exact .inr (List.mem_singleton.mp last)

end Group

/-! ## The whole text -/

/-- The lines above the groups, with the remark that there are none. -/
def preface (chart : Chart) : List String :=
  chart.headLines ++ if chart.categories.isEmpty then ["(no input files)"] else []

theorem length_preface (chart : Chart) :
    chart.preface.length = if chart.groups = 0 then 5 + 1 else 5 := by
  cases empty : chart.categories <;> simp [preface, headLines, groups, empty]

section Lines

variable {chart : Chart} {lines : List String}

/-- The lines of a chart are those above the groups and those of the groups, which have one
length. -/
theorem exists_groups_of_lines? (shown : chart.lines? = some lines) :
    ∃ groups, (chart.categories.zipIdx.mapM fun (category, group) =>
        groupLines? chart.maxValue chart.series category group) = some groups ∧
      (∀ rows ∈ groups, rows.length = chart.series.length + 1) ∧
      lines = chart.preface ++ groups.flatten := by
  obtain ⟨body, foundBody, rfl⟩ := Option.map_eq_some_iff.mp shown
  obtain ⟨groups, found, rfl⟩ := Option.map_eq_some_iff.mp foundBody
  refine ⟨groups, found, ?_, rfl⟩
  intro rows member
  obtain ⟨g, category, -, group⟩ := exists_of_mem_mapM_zipIdx found member
  exact length_of_groupLines? group

theorem length_of_lines? (shown : chart.lines? = some lines) :
    lines.length =
      if chart.groups = 0 then 5 + 1 else 5 + chart.groups * (chart.series.length + 1) := by
  obtain ⟨groups, found, uniform, rfl⟩ := exists_groups_of_lines? shown
  have count : groups.length = chart.groups := by
    rw [length_of_mapM found, List.length_zipIdx]
    rfl
  rw [List.length_append, length_preface, length_flatten_of_length uniform, count]
  split <;> simp [*]

/-- The lines of a group stand behind those of the groups before it. -/
theorem exists_rows_of_lines? (shown : chart.lines? = some lines) {g : Nat} {category : String}
    (here : chart.categories[g]? = some category) :
    ∃ rows, groupLines? chart.maxValue chart.series category g = some rows ∧
      ∀ j < chart.series.length + 1,
        lines[5 + g * (chart.series.length + 1) + j]? = rows[j]? := by
  obtain ⟨groups, found, uniform, rfl⟩ := exists_groups_of_lines? shown
  obtain ⟨rows, group, rowsOf⟩ := exists_value_of_mapM_zipIdx found here
  refine ⟨rows, rowsOf, ?_⟩
  intro j inside
  have inGroups : g < chart.groups := (List.getElem?_eq_some_iff.mp here).1
  have five : chart.preface.length = 5 := by rw [length_preface, if_neg (by omega)]
  rw [Nat.add_assoc, ← five, List.getElem?_append_right (Nat.le_add_right ..),
    Nat.add_sub_cancel_left, getElem?_flatten_of_length uniform g inside, group, Option.bind_some]

theorem laidOut_of_lines? (shown : chart.lines? = some lines) : chart.LaidOut lines where
  length := length_of_lines? shown
  row := by
    intro g j category series here among
    obtain ⟨rows, group, rowAt⟩ := exists_rows_of_lines? shown here
    obtain ⟨line, lineAt, row⟩ := row_of_groupLines? group among
    obtain ⟨value, caption, valueAt, captionAt, isRow⟩ :=
      isRow_of_rowOf? (List.mem_of_getElem? among) row
    have inside := (List.getElem?_eq_some_iff.mp among).1
    exact ⟨line, value, caption, (rowAt j (by omega)).trans lineAt, valueAt, captionAt, isRow⟩
  closing := by
    intro g inside
    obtain ⟨rows, group, rowAt⟩ := exists_rows_of_lines? shown (List.getElem?_eq_getElem inside)
    exact (rowAt _ (Nat.lt_succ_self _)).trans (closing_of_groupLines? group)
  remark := by
    intro empty
    obtain ⟨groups, -, -, rfl⟩ := exists_groups_of_lines? shown
    have noCategories : chart.categories = [] := List.length_eq_zero_iff.mp empty
    simp [preface, headLines, noCategories]

theorem unbroken_header (xLabel : Text.Unbroken chart.xLabel)
    (yLabel : Text.Unbroken chart.yLabel) : Text.Unbroken chart.header := by
  have gap : Text.Unbroken columnGap := by simp [Text.Unbroken, columnGap]
  have middle : Text.Unbroken "metric" := by simp [Text.Unbroken]
  simp [header, String.intercalate_cons_cons, xLabel, yLabel, gap, middle]

theorem unbroken_headLines (title : Text.Unbroken chart.title)
    (xLabel : Text.Unbroken chart.xLabel) (yLabel : Text.Unbroken chart.yLabel) :
    ∀ line ∈ chart.headLines, Text.Unbroken line := by
  have empty : Text.Unbroken "" := by simp [Text.Unbroken]
  intro line member
  simp only [headLines, List.mem_cons, List.not_mem_nil, or_false] at member
  rcases member with rfl | rfl | rfl | rfl | rfl
  · exact title
  · exact Text.unbroken_rule (by decide)
  · exact empty
  · exact unbroken_header xLabel yLabel
  · exact Text.unbroken_rule (by decide)

theorem unbroken_preface (unbroken : chart.Unbroken) :
    ∀ line ∈ chart.preface, Text.Unbroken line := by
  have remark : Text.Unbroken "(no input files)" := by simp [Text.Unbroken]
  intro line member
  rcases List.mem_append.mp member with head | last
  · exact unbroken_headLines unbroken.title unbroken.xLabel unbroken.yLabel line head
  · split at last
    · rwa [List.mem_singleton.mp last]
    · cases last

/-- No line of a chart without line breaks has one. -/
theorem unbroken_of_lines? (unbroken : chart.Unbroken) (shown : chart.lines? = some lines) :
    ∀ line ∈ lines, Text.Unbroken line := by
  obtain ⟨groups, found, -, rfl⟩ := exists_groups_of_lines? shown
  intro line member
  rcases List.mem_append.mp member with above | inGroups
  · exact unbroken_preface unbroken line above
  · obtain ⟨rows, among, here⟩ := List.mem_flatten.mp inGroups
    obtain ⟨g, category, categoryAt, group⟩ := exists_of_mem_mapM_zipIdx found among
    rcases cases_of_groupLines? group here with ⟨j, series, seriesAt, row⟩ | rfl
    · have seriesMem := List.mem_of_getElem? seriesAt
      obtain ⟨value, caption, -, captionAt, isRow⟩ := isRow_of_rowOf? seriesMem row
      apply isRow.unbroken
      · split
        · exact unbroken.categories category (List.mem_of_getElem? categoryAt)
        · simp [Text.Unbroken]
      · exact unbroken.captions series seriesMem caption (List.mem_of_getElem? captionAt)
    · exact Text.unbroken_rule (by decide)

end Lines

/-- The text of a chart without line breaks of its own is laid out in lines, each of them ended
by a line break. -/
theorem text_laidOut {chart : Chart} {text : String} (shown : chart.text? = some text)
    (unbroken : chart.Unbroken) :
    ∃ lines, Text.linesOf text = lines ++ [""] ∧ chart.LaidOut lines := by
  obtain ⟨lines, found, rfl⟩ := Option.map_eq_some_iff.mp shown
  exact ⟨lines, Text.linesOf_unlines (unbroken_of_lines? unbroken found), laidOut_of_lines? found⟩

/-- A chart of two groups, one with a long name, whose values are infinite, negative and not a
number, and whose captions are wider than their column. -/
def irregular : Chart where
  title := "Größe & <Zeit>"
  xLabel := "Files"
  yLabel := ""
  categories := ["a longer name than its column — ü", ""]
  series :=
    [⟨.threaded, Double.zero, Double.nan, [Double.infinite false, Double.nan], ["inf", "NaN"]⟩,
      ⟨.generating, Double.zero, Double.zero, [Double.infinite true, -Double.ofNat 1, Double.zero],
        ["-1234567890.00", "-1.00", "0.00"]⟩]

theorem text_laidOut_irregular : ∃ text lines, irregular.text? = some text ∧ irregular.Unbroken ∧
    Text.linesOf text = lines ++ [""] ∧ irregular.LaidOut lines := by
  have filled : irregular.text?.isSome := by
    rw [text?_isSome_iff]
    decide
  obtain ⟨text, shown⟩ := Option.isSome_iff_exists.mp filled
  have unbroken : irregular.Unbroken := by
    refine ⟨?_, ?_, ?_, ?_, ?_⟩ <;> simp [irregular, Text.Unbroken]
  obtain ⟨lines, same, laidOut⟩ := text_laidOut shown unbroken
  exact ⟨text, lines, shown, unbroken, same, laidOut⟩

end Chart

end PhaseBench
