import PhaseBench.Chart.Basic
import PhaseBench.Double.Shortest
import PhaseBench.Text.Entity

/-!
# Charts as SVG documents

A chart is drawn as a standalone document: a background, title and axes, one
label per group, then for every series its bars with their captions and its
entry in the legend. Coordinates are computed in binary64 arithmetic and written
by their shortest text. All text but the captions is escaped.
-/

namespace PhaseBench.Chart

/-- The distance between two ticks. -/
def tickSpacing : Double := Double.ofNat 120

/-- The height of the plot, which the greatest value fills. -/
def plotHeight : Double := Double.ofNat 320

/-- The margin on the left of the plot. -/
def marginLeft : Double := Double.ofNat 70

/-- The margin on the right of the plot. -/
def marginRight : Double := Double.ofNat 200

/-- The margin above the plot. -/
def marginTop : Double := Double.ofNat 50

/-- The margin below the plot. -/
def marginBottom : Double := Double.ofNat 110

/-- The vertical position of the horizontal axis. -/
def baseline : Double := marginTop + plotHeight

/-- The height of the document. -/
def documentHeight : Double := marginTop + plotHeight + marginBottom

/-- The colour of a series, by its place among the series. -/
def color (place : Nat) : String :=
  match place % 3 with
  | 0 => "#1f77b4"
  | 1 => "#ff7f0e"
  | _ => "#2ca02c"

/-- The width of the plot; a chart without groups is as wide as one with one. -/
def plotWidth (chart : Chart) : Double :=
  tickSpacing * Double.ofNat (max chart.groups 1)

/-- The horizontal position of the tick of a group. -/
def tickX (group : Nat) : Double :=
  marginLeft + tickSpacing * (Double.ofNat group + Double.ofRatio 1 2)

/-- The height of one unit of value, zero when no value is positive. -/
def scale (chart : Chart) : Double :=
  if Double.zero.lt chart.maxValue then plotHeight / chart.maxValue else Double.zero

/-- An attribute of an element, with a blank before it. -/
def attr (name value : String) : String := " " ++ name ++ "=\"" ++ value ++ "\""

/-- An element without content. -/
def emptyElement (name : String) (attributes : List (String × String)) : String :=
  "<" ++ name ++ String.join (attributes.map fun (key, value) => attr key value) ++ "/>"

/-- A text element with its content, which is written as it is given. -/
def textElement (attributes : List (String × String)) (content : String) : String :=
  "<text" ++ String.join (attributes.map fun (key, value) => attr key value) ++ ">" ++
    content ++ "</text>"

/-- A rotation around a point. -/
def rotation (degrees x y : String) : String := "rotate(" ++ degrees ++ " " ++ x ++ " " ++ y ++ ")"

/-- The tag that opens the document. -/
def openingTag (chart : Chart) : String :=
  "<svg" ++ attr "xmlns" "http://www.w3.org/2000/svg" ++
    attr "width" (marginLeft + chart.plotWidth + marginRight).text ++
    attr "height" documentHeight.text ++ attr "font-family" "sans-serif" ++ ">"

/-- Background, title, axes and axis labels. -/
def frameLines (chart : Chart) : List String :=
  let middle := (marginLeft + chart.plotWidth / Double.ofNat 2).text
  let left := marginLeft.text
  let bottom := baseline.text
  let labelY := (marginTop + plotHeight / Double.ofNat 2).text
  [ emptyElement "rect" [("width", "100%"), ("height", "100%"), ("fill", "white")],
    textElement [("x", middle), ("y", "30"), ("text-anchor", "middle"), ("font-size", "16")]
      (Text.escapeEntities chart.title),
    emptyElement "line" [("x1", left), ("y1", marginTop.text), ("x2", left), ("y2", bottom),
      ("stroke", "black")],
    emptyElement "line" [("x1", left), ("y1", bottom),
      ("x2", (marginLeft + chart.plotWidth).text), ("y2", bottom), ("stroke", "black")],
    textElement [("x", "20"), ("y", labelY), ("text-anchor", "middle"), ("font-size", "12"),
      ("transform", rotation "-90" "20" labelY)] (Text.escapeEntities chart.yLabel),
    textElement [("x", middle), ("y", (documentHeight - Double.ofNat 10).text),
      ("text-anchor", "middle"), ("font-size", "12")] (Text.escapeEntities chart.xLabel) ]

/-- The label of a group below its tick. -/
def categoryLine (category : String) (group : Nat) : String :=
  let x := (tickX group).text
  let y := (baseline + Double.ofNat 15).text
  textElement [("x", x), ("y", y), ("text-anchor", "end"), ("font-size", "11"),
    ("transform", rotation "-45" x y)] (Text.escapeEntities category)

/-- A bar of a series and its caption, which is not escaped. -/
def barLines (scale : Double) (series : BarSeries) (color : String) (value : Double)
    (caption : String) (group : Nat) : List String :=
  let width := series.width * tickSpacing
  let center := tickX group + series.offset * tickSpacing
  let height := value * scale
  let top := baseline - height
  [ emptyElement "rect" [("x", (center - width / Double.ofNat 2).text), ("y", top.text),
      ("width", width.text), ("height", height.text), ("fill", color)],
    textElement [("x", center.text), ("y", (top - Double.ofNat 3).text),
      ("text-anchor", "middle"), ("font-size", "8")] caption ]

/-- The entry of a series in the legend. -/
def legendLines (chart : Chart) (series : BarSeries) (place : Nat) : List String :=
  let x := marginLeft + chart.plotWidth + Double.ofNat 20
  let y := marginTop + Double.ofNat 20 * Double.ofNat place
  [ emptyElement "rect" [("x", x.text), ("y", y.text), ("width", "12"), ("height", "12"),
      ("fill", color place)],
    textElement [("x", (x + Double.ofNat 18).text), ("y", (y + Double.ofNat 10).text),
      ("font-size", "12")] (Text.escapeEntities series.metric.name) ]

/-- The bars of a series, as many as it has values with captions, and its legend. -/
def seriesLines (chart : Chart) (scale : Double) (series : BarSeries) (place : Nat) :
    List String :=
  (series.values.zip series.captions).zipIdx.flatMap (fun ((value, caption), group) =>
    barLines scale series (color place) value caption group) ++
      legendLines chart series place

/-- The lines of the document of a chart. -/
def svgLines (chart : Chart) : List String :=
  let scale := chart.scale
  [chart.openingTag] ++ chart.frameLines ++
    (chart.categories.zipIdx.map fun (category, group) => categoryLine category group) ++
    (chart.series.zipIdx.flatMap fun (series, place) => seriesLines chart scale series place) ++
    ["</svg>"]

/-- The document of a chart. -/
def svg (chart : Chart) : String := Text.unlines chart.svgLines

end PhaseBench.Chart
