import Mathlib
import PhaseBench.Chart.Svg
import PhaseBench.Chart.Terminal

/-!
# What can be shown and drawn

The lists of a chart may differ in length. The text of a chart takes a value and a
caption from every series in every group, so a chart can be shown exactly when no
series is short (`text?_isSome_iff`). The document of a chart takes the values that
have captions, however many groups there are: `countP_svgLines` counts its bars.
-/

namespace PhaseBench

universe u v

/-- A list of values is found exactly when each of them is. -/
theorem isSome_mapM_iff {α : Type u} {β : Type v} {f : α → Option β} {xs : List α} :
    (xs.mapM f).isSome ↔ ∀ x ∈ xs, (f x).isSome := by
  induction xs with
  | nil => simp
  | cons x xs ih =>
      rw [List.mapM_cons, List.forall_mem_cons, ← ih]
      cases f x <;> cases xs.mapM f <;> simp

namespace Chart

/-! ## Text -/

theorem rowOf?_isSome_iff {greatest : Double} {category : String} {group place : Nat}
    {series : BarSeries} :
    (rowOf? greatest category group series place).isSome ↔
      group < series.values.length ∧ group < series.captions.length := by
  unfold rowOf?
  split
  · next value caption found foundCaption =>
      have inValues := (List.getElem?_eq_some_iff.mp found).1
      have inCaptions := (List.getElem?_eq_some_iff.mp foundCaption).1
      simp [inValues, inCaptions]
  · next absent =>
      simp only [Option.isSome_none, Bool.false_eq_true, false_iff, not_and]
      intro inValues inCaptions
      exact absent _ _ (List.getElem?_eq_getElem inValues) (List.getElem?_eq_getElem inCaptions)

theorem groupLines?_isSome_iff {greatest : Double} {series : List BarSeries} {category : String}
    {group : Nat} :
    (groupLines? greatest series category group).isSome ↔
      ∀ one ∈ series, group < one.values.length ∧ group < one.captions.length := by
  rw [groupLines?, Option.isSome_map, isSome_mapM_iff]
  simp only [rowOf?_isSome_iff]
  constructor
  · intro all one member
    obtain ⟨place, found⟩ := List.mem_iff_getElem?.mp member
    exact all (one, place) (List.mem_zipIdx_iff_getElem?.mpr found)
  · intro all entry member
    exact all entry.1 (List.mem_of_getElem? (List.mem_zipIdx_iff_getElem?.mp member))

/-- A chart can be shown exactly when no series is shorter than the list of groups. -/
theorem text?_isSome_iff (chart : Chart) :
    chart.text?.isSome ↔ ∀ series ∈ chart.series,
      chart.groups ≤ series.values.length ∧ chart.groups ≤ series.captions.length := by
  rw [text?, Option.isSome_map, lines?, Option.isSome_map, bodyLines?, Option.isSome_map,
    isSome_mapM_iff]
  simp only [groupLines?_isSome_iff]
  constructor
  · intro all series member
    by_contra short
    -- The group after the last value, or the last caption, is the one that cannot be shown.
    obtain ⟨group, inside, missing⟩ : ∃ group, group < chart.groups ∧
        ¬ (group < series.values.length ∧ group < series.captions.length) := by
      refine ⟨min series.values.length series.captions.length, ?_, ?_⟩ <;> omega
    have found : chart.categories[group]? = some chart.categories[group] :=
      List.getElem?_eq_getElem inside
    exact missing (all (_, group) (List.mem_zipIdx_iff_getElem?.mpr found) series member)
  · intro filled entry member series among
    obtain ⟨inside, -⟩ := List.getElem?_eq_some_iff.mp (List.mem_zipIdx_iff_getElem?.mp member)
    obtain ⟨values, captions⟩ := filled series among
    exact ⟨Nat.lt_of_lt_of_le inside values, Nat.lt_of_lt_of_le inside captions⟩

/-! ## Documents -/

/-- Holds for the element of a rectangle: the background, a bar, or the mark of a series in
the legend. -/
def isRectangle (line : String) : Bool := "<rect".toList.isPrefixOf line.toList

@[simp]
theorem isRectangle_rect (attributes : List (String × String)) :
    isRectangle (emptyElement "rect" attributes) = true := by
  simp [isRectangle, emptyElement, List.isPrefixOf]

@[simp]
theorem isRectangle_line (attributes : List (String × String)) :
    isRectangle (emptyElement "line" attributes) = false := by
  simp [isRectangle, emptyElement, List.isPrefixOf]

@[simp]
theorem isRectangle_text (attributes : List (String × String)) (content : String) :
    isRectangle (textElement attributes content) = false := by
  simp [isRectangle, textElement, List.isPrefixOf]

theorem isRectangle_openingTag (chart : Chart) : isRectangle chart.openingTag = false := by
  simp [isRectangle, openingTag, List.isPrefixOf]

theorem countP_frameLines (chart : Chart) : chart.frameLines.countP isRectangle = 1 := by
  simp only [frameLines, List.countP_cons, List.countP_nil, isRectangle_rect, isRectangle_line,
    isRectangle_text, Bool.false_eq_true, if_true, if_false]

theorem countP_barLines (scale : Double) (series : BarSeries) (color : String) (value : Double)
    (caption : String) (group : Nat) :
    (barLines scale series color value caption group).countP isRectangle = 1 := by
  simp only [barLines, List.countP_cons, List.countP_nil, isRectangle_rect, isRectangle_text,
    Bool.false_eq_true, if_true, if_false]

theorem countP_legendLines (chart : Chart) (series : BarSeries) (place : Nat) :
    (legendLines chart series place).countP isRectangle = 1 := by
  simp only [legendLines, List.countP_cons, List.countP_nil, isRectangle_rect, isRectangle_text,
    Bool.false_eq_true, if_true, if_false]

/-- A series has a bar for every value with a caption, and its mark in the legend. -/
theorem countP_seriesLines (chart : Chart) (scale : Double) (series : BarSeries) (place : Nat) :
    (seriesLines chart scale series place).countP isRectangle =
      min series.values.length series.captions.length + 1 := by
  have one (entry : (Double × String) × Nat) :
      (barLines scale series (color place) entry.1.1 entry.1.2 entry.2).countP isRectangle = 1 :=
    countP_barLines ..
  rw [seriesLines, List.countP_append, countP_legendLines, List.countP_flatMap]
  simp [Function.comp_def, one]

theorem isRectangle_categoryLine (category : String) (group : Nat) :
    isRectangle (categoryLine category group) = false := by
  rw [categoryLine, isRectangle_text]

theorem countP_categoryLines (categories : List (String × Nat)) :
    (categories.map fun (category, group) =>
      categoryLine category group).countP isRectangle = 0 := by
  rw [List.countP_eq_zero]
  intro line member
  obtain ⟨⟨category, group⟩, -, rfl⟩ := List.mem_map.mp member
  rw [isRectangle_categoryLine]
  exact Bool.false_ne_true

theorem countP_zipIdx_seriesLines (chart : Chart) (scale : Double) (series : List BarSeries)
    (place : Nat) :
    ((series.zipIdx place).flatMap fun (series, place) =>
        seriesLines chart scale series place).countP isRectangle =
      (series.map fun series => min series.values.length series.captions.length + 1).sum := by
  induction series generalizing place with
  | nil => rfl
  | cons first series ih =>
      rw [List.zipIdx_cons, List.flatMap_cons, List.countP_append, ih, countP_seriesLines,
        List.map_cons, List.sum_cons]

/-- The rectangles of a document: the background, and those of the series. -/
theorem countP_svgLines (chart : Chart) :
    chart.svgLines.countP isRectangle =
      1 + (chart.series.map fun series =>
        min series.values.length series.captions.length + 1).sum := by
  have closing : isRectangle "</svg>" = false := by decide
  simp only [svgLines, List.countP_append, List.countP_cons, List.countP_nil, closing,
    isRectangle_openingTag, countP_frameLines, countP_categoryLines, countP_zipIdx_seriesLines,
    Bool.false_eq_true, if_false, Nat.zero_add, Nat.add_zero]

/-! ## Charts of summaries -/

theorem groups_ofInputs (configuration : Configuration) (inputs : Inputs Double) :
    (ofInputs configuration inputs).groups = inputs.length := by
  simp [groups, ofInputs]

theorem filled_ofInputs {configuration : Configuration} {inputs : Inputs Double} :
    ∀ series ∈ (ofInputs configuration inputs).series,
      series.values.length = inputs.length ∧ series.captions.length = inputs.length := by
  intro series member
  obtain ⟨metric, -, rfl⟩ := List.mem_map.mp member
  simp [seriesOf]

theorem text?_ofInputs (configuration : Configuration) (inputs : Inputs Double) :
    ∃ text, (ofInputs configuration inputs).text? = some text := by
  rw [← Option.isSome_iff_exists, text?_isSome_iff, groups_ofInputs]
  intro series member
  obtain ⟨values, captions⟩ := filled_ofInputs series member
  exact ⟨values.ge, captions.ge⟩

/-- Beside the bars there are the background and a mark in the legend for each phase. -/
theorem countP_svgLines_ofInputs (configuration : Configuration) (inputs : Inputs Double) :
    (ofInputs configuration inputs).svgLines.countP isRectangle = 3 * inputs.length + 4 := by
  have each : ((ofInputs configuration inputs).series.map fun series =>
      min series.values.length series.captions.length + 1) =
      List.replicate 3 (inputs.length + 1) := by
    rw [List.eq_replicate_iff]
    refine ⟨rfl, ?_⟩
    intro count member
    obtain ⟨series, among, rfl⟩ := List.mem_map.mp member
    obtain ⟨values, captions⟩ := filled_ofInputs series among
    rw [values, captions, Nat.min_self]
  rw [countP_svgLines, each, List.sum_replicate, smul_eq_mul]
  ring

end Chart

end PhaseBench
