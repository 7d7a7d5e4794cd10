import PhaseBench.Double.Fixed
import PhaseBench.Table.Summary

/-!
# Charts

A `Chart` is a grouped bar chart: one group per input, one bar per phase. A
summary gives one chart per configuration, with the bars of a group side by side
and centred on the tick of the group.
-/

namespace PhaseBench

/-- The bars of one phase across all groups. -/
structure BarSeries where
  metric : Metric
  /-- The distance from the tick of a group to the middle of the bar, in tick distances. -/
  offset : Double
  /-- The width of a bar, in tick distances. -/
  width : Double
  values : List Double
  /-- The text above each bar. -/
  captions : List String
deriving DecidableEq

/-- A grouped bar chart. The lists of a chart may differ in length. -/
structure Chart where
  title : String
  xLabel : String
  yLabel : String
  /-- The names of the groups. -/
  categories : List String
  series : List BarSeries
deriving DecidableEq

namespace Chart

/-- The title of the chart of a configuration without features. -/
def plainTitle : String := "No optimizations"

/-- The width of a bar in charts of a summary. -/
def barWidth : Double := Double.ofRatio 3 10

/-- The offset that puts the bars of all phases side by side around the tick. -/
def offset (metric : Metric) : Double :=
  (Double.ofNat metric.index - Double.ofNat (Metric.all.length - 1) / Double.ofNat 2) * barWidth

/-- The title of the chart of a configuration. -/
def titleOf (configuration : Configuration) : String :=
  if configuration.label = "" then plainTitle else configuration.label

/-- The text above a bar. -/
def caption (value : Double) : String := value.fixedText

/-- The series of a phase; an input without a value has a bar of height zero. -/
def seriesOf (inputs : Inputs Double) (metric : Metric) : BarSeries :=
  let values := inputs.map fun input => (input.2.get metric).getD Double.zero
  { metric, offset := offset metric, width := barWidth, values
    captions := values.map caption }

/-- The chart of one configuration. -/
def ofInputs (configuration : Configuration) (inputs : Inputs Double) : Chart :=
  { title := titleOf configuration
    xLabel := "Files"
    yLabel := "Time (ms)"
    categories := inputs.map (·.1)
    series := Metric.all.map (seriesOf inputs) }

/-- The charts of a summary, one per configuration in table order. -/
def ofSummary (summary : SummaryTable) : List Chart :=
  summary.entries.map fun (configuration, inputs) => ofInputs configuration inputs

/-- The number of groups. -/
def groups (chart : Chart) : Nat := chart.categories.length

/-- The greatest value of a chart, zero when no value is above it. -/
def maxValue (chart : Chart) : Double :=
  (chart.series.flatMap (·.values)).foldl Double.max Double.zero

end Chart

end PhaseBench
