import PhaseBench.Chart.Basic
import PhaseBench.Text.Blank

/-!
# Charts as text

A chart is shown as horizontal bars: a title, a header, and for every group one
row per series closed by a line. A chart can be shown when every series has a
value and a caption for every group.
-/

namespace PhaseBench.Chart

/-- The width of the columns for groups and phases. -/
def columnWidth : Nat := 24

/-- What separates two columns. -/
def columnGap : String := "  "

/-- The length of the longest bar. -/
def barColumns : Nat := 40

/-- The width of the column for captions. -/
def captionWidth : Nat := 10

/-- The header of a chart. -/
def header (chart : Chart) : String :=
  columnGap.intercalate ([chart.xLabel, "metric", chart.yLabel].map (Text.padEnd columnWidth))

/-- The length in bytes of a text without the blanks at its end. -/
def underlineLength (text : String) : Nat := (Text.trimEnd text).utf8ByteSize

/-- The length of the bar of a value: its share of the greatest value, rounded with a
half going up. -/
def barLength (value greatest : Double) : Nat :=
  if greatest.le Double.zero then 0
  else ((value / greatest * Double.ofNat barColumns).roundToNat?).getD barColumns

/-- The bar of a value. -/
def bar (value greatest : Double) : String := Text.rule '#' (barLength value greatest)

/-- One row of a chart. -/
def row (category : String) (metric : Metric) (bar caption : String) : String :=
  Text.padEnd columnWidth category ++ columnGap ++ Text.padEnd columnWidth metric.name ++
    columnGap ++ Text.padEnd barColumns bar ++ " " ++ Text.padStart captionWidth caption

/-- The line that closes a group. -/
def closingLine : String :=
  Text.rule '-' (2 * columnWidth + 2 * columnGap.length + barColumns + 1 + captionWidth)

/-- The row of a series in a group, nothing when the series lacks a value or a caption.
Only the first series of a group shows the name of the group. -/
def rowOf? (greatest : Double) (category : String) (group : Nat) (series : BarSeries)
    (place : Nat) : Option String :=
  match series.values[group]?, series.captions[group]? with
  | some value, some caption =>
    some (row (if place = 0 then category else "") series.metric (bar value greatest) caption)
  | _, _ => none

/-- The lines of a group. -/
def groupLines? (greatest : Double) (series : List BarSeries) (category : String) (group : Nat) :
    Option (List String) :=
  (series.zipIdx.mapM fun (series, place) =>
    rowOf? greatest category group series place).map (· ++ [closingLine])

/-- The lines of all groups. -/
def bodyLines? (chart : Chart) : Option (List String) :=
  let greatest := chart.maxValue
  (chart.categories.zipIdx.mapM fun (category, group) =>
    groupLines? greatest chart.series category group).map List.flatten

/-- The lines above the groups. -/
def headLines (chart : Chart) : List String :=
  [chart.title, Text.rule '=' chart.title.length, "",
    chart.header, Text.rule '=' (underlineLength chart.header)]

/-- The lines of a chart, nothing when it cannot be shown. -/
def lines? (chart : Chart) : Option (List String) :=
  chart.bodyLines?.map fun body =>
    chart.headLines ++ (if chart.categories.isEmpty then ["(no input files)"] else []) ++ body

/-- A chart as text, nothing when it cannot be shown. -/
def text? (chart : Chart) : Option String := chart.lines?.map Text.unlines

end PhaseBench.Chart
