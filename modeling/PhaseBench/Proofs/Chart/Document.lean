import PhaseBench.Proofs.Chart.Rendering
import PhaseBench.Proofs.Text.Entities
import PhaseBench.Proofs.Text.Markup

/-!
# Documents read back

The document of a chart is taken apart as a reader of markup does it. The four characters
that belong to the markup are written as entities in every text but the captions; captions
and coordinates are numbers, and no number has such a character in its text
(`Double.plain_text`, `Double.plain_fixedText`). So each line of the document is known
segment by segment (`Written`), and the document with them (`written_svgLines`), also where
its lines come from a loop (`Written.loop`).

`Chart.svg_intact` says what follows: no text of a summary can break the document of a chart,
and title, names of the groups and captions can be recovered from it.
-/

namespace PhaseBench

/-! ## Numbers -/

namespace Text

theorem isMarkup_of_isDigit {c : Char} (digit : c.isDigit = true) : isMarkup c = false := by
  by_contra markup
  rcases isMarkup_iff.mp (Bool.not_eq_false _ ▸ markup) with rfl | rfl | rfl | rfl <;> cases digit

theorem isMarkup_of_mem_toDigits {c : Char} {n : Nat} (member : c ∈ Nat.toDigits 10 n) :
    isMarkup c = false :=
  isMarkup_of_isDigit (Nat.isDigit_of_mem_toDigits (by decide) (by decide) member)

@[simp]
theorem plain_decimal (n : Nat) : Plain (decimal n) := by
  intro c member
  rw [decimal, String.toList_ofList] at member
  exact isMarkup_of_mem_toDigits member

end Text

namespace Double

open Text (Plain)

theorem mem_of_mem_trimZeros {digits : List Char} {c : Char} (member : c ∈ trimZeros digits) :
    c ∈ digits := by
  rw [trimZeros, List.mem_reverse] at member
  exact List.mem_reverse.mp ((List.dropWhile_sublist _).subset member)

theorem Decimal.plain_text (decimal : Decimal) : Plain decimal.text := by
  have point : Plain "." := by simp
  simp only [Decimal.text]
  split
  · exact Text.plain_decimal _
  · refine Text.plain_append.mpr ⟨Text.plain_append.mpr ⟨Text.plain_decimal _, point⟩, ?_⟩
    intro c member
    rw [String.toList_ofList] at member
    rcases List.mem_append.mp (mem_of_mem_trimZeros member) with zero | digit
    · rw [List.eq_of_mem_replicate zero]
      rfl
    · exact Text.isMarkup_of_mem_toDigits digit

theorem plain_sign (negative : Bool) : Plain (if negative then "-" else "") := by
  cases negative <;> simp

@[simp]
theorem plain_text (x : Double) : Plain x.text := by
  cases x with
  | finite negative index => exact Text.plain_append.mpr ⟨plain_sign _, Decimal.plain_text _⟩
  | infinite negative => cases negative <;> simp [text]
  | nan => simp [text]

@[simp]
theorem plain_fixedText (x : Double) : Plain x.fixedText := by
  cases x with
  | finite negative index =>
      have point : Plain "." := by simp
      exact Text.plain_append.mpr ⟨plain_sign _, by simp [hundredthsText, point]⟩
  | infinite negative => cases negative <;> simp [fixedText]
  | nan => simp [fixedText]

end Double

namespace Chart

open Markup

open Text (Plain)

/-! ## Elements -/

/-- Attributes as they stand in a tag. -/
def attributeText (attributes : List (String × String)) : String :=
  String.join (attributes.map fun (key, value) => attr key value)

theorem toList_attributeText_cons (key value : String) (attributes : List (String × String)) :
    (attributeText ((key, value) :: attributes)).toList =
      (' ' :: (key.toList ++ '=' :: '"' :: value.toList) ++ ['"']) ++
        (attributeText attributes).toList := by
  simp [attributeText, attr, String.toList_join]

/-- A blank separates the attributes from the name of the element. -/
theorem isNameChar_head_attributeText (attributes : List (String × String)) :
    ∀ c, (attributeText attributes).toList.head? = some c → isNameChar c = false := by
  intro c first
  cases attributes with
  | nil => cases first
  | cons entry attributes =>
      rw [toList_attributeText_cons] at first
      rw [← Option.some.inj first]
      rfl

/-- Attributes end with a quote. -/
theorem getLast?_attributeText (attributes : List (String × String)) :
    (attributeText attributes).toList.getLast? ≠ some '/' := by
  induction attributes with
  | nil => exact nofun
  | cons entry attributes ih =>
      rw [toList_attributeText_cons, List.getLast?_append, ne_eq, Option.or_eq_some_iff]
      rintro (later | ⟨-, quote⟩)
      · exact ih later
      · rw [List.getLast?_concat] at quote
        cases quote

/-- Attributes whose keys and values are plain text. -/
def PlainAttributes (attributes : List (String × String)) : Prop :=
  ∀ entry ∈ attributes, Plain entry.1 ∧ Plain entry.2

@[simp]
theorem plainAttributes_nil : PlainAttributes [] := List.forall_mem_nil _

@[simp]
theorem plainAttributes_cons {key value : String} {attributes : List (String × String)} :
    PlainAttributes ((key, value) :: attributes) ↔
      (Plain key ∧ Plain value) ∧ PlainAttributes attributes := List.forall_mem_cons

theorem unbracketed_attributeText {attributes : List (String × String)}
    (plain : PlainAttributes attributes) : Unbracketed (attributeText attributes).toList := by
  induction attributes with
  | nil => exact ⟨List.not_mem_nil, List.not_mem_nil⟩
  | cons entry attributes ih =>
      obtain ⟨⟨key, value⟩, others⟩ := List.forall_mem_cons.mp plain
      obtain ⟨left, right⟩ := ih others
      rw [Text.plain_iff] at key value
      rw [toList_attributeText_cons]
      constructor <;> simp [*]

/-- Lines that are made up of the given segments. -/
def Written (lines : List String) (segments : List Segment) : Prop :=
  Spelled (Text.unlines lines).toList segments

/-- The segment of an element without content. -/
def shape (name : String) : List Segment := [⟨.single name, "\n"⟩]

/-- The segments of a text element. -/
def label (content : String) : List Segment :=
  [⟨.opening "text", content⟩, ⟨.closing "text", "\n"⟩]

theorem unbracketed_break : Unbracketed "\n".toList := by simp [Unbracketed]

theorem isName_text : IsName "text" := ⟨by decide, by simp [isNameChar]⟩

theorem isName_rect : IsName "rect" := ⟨by decide, by simp [isNameChar]⟩

theorem isName_line : IsName "line" := ⟨by decide, by simp [isNameChar]⟩

theorem isName_svg : IsName "svg" := ⟨by decide, by simp [isNameChar]⟩

theorem spelled_opening {name : String} (isName : IsName name) {attributes : List (String × String)}
    (plain : PlainAttributes attributes) {content : String}
    (inside : Unbracketed content.toList) :
    Spelled ("<" ++ name ++ attributeText attributes ++ ">" ++ content).toList
      [⟨.opening name, content⟩] := by
  apply Spelled.segment _ (ofBody_opening isName (isNameChar_head_attributeText attributes)
    (getLast?_attributeText attributes)) _ inside
  · simp
  · exact unbracketed_append.mpr ⟨isName.unbracketed, unbracketed_attributeText plain⟩

theorem spelled_closing {name : String} (isName : IsName name) :
    Spelled ("</" ++ name ++ ">\n").toList [⟨.closing name, "\n"⟩] := by
  have read : Tag.ofBody ('/' :: name.toList) = .closing name := by
    rw [Tag.ofBody, String.ofList_toList]
  apply Spelled.segment _ read _ unbracketed_break
  · simp
  · have slash : Unbracketed ['/'] := by simp [Unbracketed]
    exact unbracketed_append.mpr ⟨slash, isName.unbracketed⟩

theorem written_emptyElement {name : String} (isName : IsName name)
    {attributes : List (String × String)} (plain : PlainAttributes attributes) :
    Written [emptyElement name attributes] (shape name) := by
  apply Spelled.segment _ (ofBody_single isName (isNameChar_head_attributeText attributes)) _
    unbracketed_break
  · simp [Text.unlines, emptyElement, attributeText]
  · have slash : Unbracketed ['/'] := by simp [Unbracketed]
    rw [unbracketed_append, unbracketed_append]
    exact ⟨isName.unbracketed, unbracketed_attributeText plain, slash⟩

theorem written_textElement {attributes : List (String × String)}
    (plain : PlainAttributes attributes) {content : String}
    (inside : Unbracketed content.toList) :
    Written [textElement attributes content] (label content) := by
  have spelled := (spelled_opening isName_text plain inside).append (spelled_closing isName_text)
  have same : Text.unlines [textElement attributes content] =
      "<" ++ "text" ++ attributeText attributes ++ ">" ++ content ++ ("</" ++ "text" ++ ">\n") := by
    apply String.toList_injective
    simp [Text.unlines, textElement, attributeText]
  rw [Written, same, String.toList_append]
  exact spelled

/-! ## Lines -/

theorem Written.append {front back : List String} {s t : List Segment} (first : Written front s)
    (second : Written back t) : Written (front ++ back) (s ++ t) := by
  have same : Text.unlines (front ++ back) = Text.unlines front ++ Text.unlines back := by
    apply String.toList_injective
    simp [Text.unlines]
  rw [Written, same, String.toList_append]
  exact Spelled.append first second

theorem Written.cons {line : String} {lines : List String} {s t : List Segment}
    (first : Written [line] s) (others : Written lines t) : Written (line :: lines) (s ++ t) :=
  first.append others

/-- The lines of a loop that counts its turns, when the segments do not depend on the count. -/
theorem Written.loop {α : Type} {f : α × Nat → List String} {g : α → List Segment} {xs : List α}
    (each : ∀ x ∈ xs, ∀ i, Written (f (x, i)) (g x)) (start : Nat) :
    Written ((xs.zipIdx start).flatMap f) (xs.flatMap g) := by
  induction xs generalizing start with
  | nil => exact .nil
  | cons x xs ih =>
      obtain ⟨first, others⟩ := List.forall_mem_cons.mp each
      rw [List.zipIdx_cons, List.flatMap_cons, List.flatMap_cons]
      exact (first start).append (ih others (start + 1))

theorem unbracketed_escapeEntities (text : String) :
    Unbracketed (Text.escapeEntities text).toList := by
  constructor
  · intro less
    cases Text.eq_ampersand_of_mem_escapeEntities less rfl
  · intro greater
    cases Text.eq_ampersand_of_mem_escapeEntities greater rfl

theorem written_categoryLine (category : String) (group : Nat) :
    Written [categoryLine category group] (label (Text.escapeEntities category)) := by
  rw [categoryLine]
  apply written_textElement _ (unbracketed_escapeEntities category)
  simp [rotation]

/-! ## The document -/

/-- The segments of background, title, axes and axis labels. -/
def frameSegments (chart : Chart) : List Segment :=
  shape "rect" ++ (label (Text.escapeEntities chart.title) ++ (shape "line" ++ (shape "line" ++
    (label (Text.escapeEntities chart.yLabel) ++ label (Text.escapeEntities chart.xLabel)))))

theorem written_frameLines (chart : Chart) : Written chart.frameLines chart.frameSegments := by
  rw [frameLines, frameSegments]
  apply Written.cons (written_emptyElement isName_rect (by simp))
  apply Written.cons (written_textElement (by simp) (unbracketed_escapeEntities _))
  apply Written.cons (written_emptyElement isName_line (by simp))
  apply Written.cons (written_emptyElement isName_line (by simp))
  apply Written.cons (written_textElement (by simp [rotation]) (unbracketed_escapeEntities _))
  exact written_textElement (by simp) (unbracketed_escapeEntities _)

theorem plain_color (place : Nat) : Plain (color place) := by
  unfold color
  split <;> simp

/-- The segments of a bar. -/
def barSegments (caption : String) : List Segment := shape "rect" ++ label caption

theorem written_barLines (scale : Double) (series : BarSeries) (place : Nat) (value : Double)
    {caption : String} (plain : Plain caption) (group : Nat) :
    Written (barLines scale series (color place) value caption group) (barSegments caption) := by
  obtain ⟨-, less, greater, -⟩ := Text.plain_iff.mp plain
  rw [barLines, barSegments]
  apply Written.cons (written_emptyElement isName_rect (by simp [plain_color]))
  exact written_textElement (by simp) ⟨less, greater⟩

theorem written_legendLines (chart : Chart) (series : BarSeries) (place : Nat) :
    Written (legendLines chart series place)
      (barSegments (Text.escapeEntities series.metric.name)) := by
  rw [legendLines, barSegments]
  apply Written.cons (written_emptyElement isName_rect (by simp [plain_color]))
  exact written_textElement (by simp) (unbracketed_escapeEntities _)

/-- The segments of a series with a value for every caption. -/
def seriesSegments (series : BarSeries) : List Segment :=
  series.captions.flatMap barSegments ++ barSegments (Text.escapeEntities series.metric.name)

theorem written_bars (scale : Double) {series : BarSeries}
    (plain : ∀ caption ∈ series.captions, Plain caption) (place : Nat) :
    Written
      ((series.values.zip series.captions).zipIdx.flatMap fun ((value, caption), group) =>
        barLines scale series (color place) value caption group)
      ((series.values.zip series.captions).flatMap fun entry => barSegments entry.2) := by
  apply Written.loop
  rintro ⟨value, caption⟩ member group
  exact written_barLines scale series place value (plain caption (List.of_mem_zip member).2) group

theorem written_seriesLines (chart : Chart) (scale : Double) {series : BarSeries}
    (plain : ∀ caption ∈ series.captions, Plain caption)
    (filled : series.captions.length ≤ series.values.length) (place : Nat) :
    Written (seriesLines chart scale series place) (seriesSegments series) := by
  have bars := written_bars scale plain place
  have captions : ((series.values.zip series.captions).flatMap fun entry => barSegments entry.2) =
      series.captions.flatMap barSegments := by
    rw [← List.flatMap_map, List.map_snd_zip filled]
  rw [captions] at bars
  exact bars.append (written_legendLines chart series place)

/-- The segments of a document. -/
def segments (chart : Chart) : List Segment :=
  [⟨.opening "svg", "\n"⟩] ++ (chart.frameSegments ++
    (chart.categories.flatMap (fun category => label (Text.escapeEntities category)) ++
      (chart.series.flatMap seriesSegments ++ [⟨.closing "svg", "\n"⟩])))

/-- The attributes of the tag that opens the document. -/
def openingAttributes (chart : Chart) : List (String × String) :=
  [("xmlns", "http://www.w3.org/2000/svg"),
    ("width", (marginLeft + chart.plotWidth + marginRight).text),
    ("height", documentHeight.text), ("font-family", "sans-serif")]

theorem written_openingTag (chart : Chart) :
    Written [chart.openingTag] [⟨.opening "svg", "\n"⟩] := by
  have same : Text.unlines [chart.openingTag] =
      "<" ++ "svg" ++ attributeText chart.openingAttributes ++ ">" ++ "\n" := by
    apply String.toList_injective
    simp [openingAttributes, Text.unlines, openingTag, attributeText]
  have plain : PlainAttributes chart.openingAttributes := by simp [openingAttributes]
  rw [Written, same]
  exact spelled_opening isName_svg plain unbracketed_break

theorem written_categoryLines (chart : Chart) :
    Written (chart.categories.zipIdx.map fun (category, group) => categoryLine category group)
      (chart.categories.flatMap fun category => label (Text.escapeEntities category)) := by
  rw [List.map_eq_flatMap]
  apply Written.loop
  intro category _ group
  exact written_categoryLine category group

theorem written_allSeries {chart : Chart}
    (plain : ∀ series ∈ chart.series, ∀ caption ∈ series.captions, Plain caption)
    (filled : ∀ series ∈ chart.series, series.captions.length ≤ series.values.length) :
    Written (chart.series.zipIdx.flatMap fun (series, place) =>
      seriesLines chart chart.scale series place) (chart.series.flatMap seriesSegments) := by
  apply Written.loop
  intro series member place
  exact written_seriesLines chart chart.scale (plain series member) (filled series member) place

/-- The document of a chart whose captions are plain and have values is made up of its
segments. -/
theorem written_svgLines {chart : Chart}
    (plain : ∀ series ∈ chart.series, ∀ caption ∈ series.captions, Plain caption)
    (filled : ∀ series ∈ chart.series, series.captions.length ≤ series.values.length) :
    Written chart.svgLines chart.segments := by
  have closing : Written ["</svg>"] [⟨.closing "svg", "\n"⟩] := spelled_closing isName_svg
  simp only [svgLines, segments, List.append_assoc]
  exact (written_openingTag chart).append ((written_frameLines chart).append
    ((written_categoryLines chart).append ((written_allSeries plain filled).append closing)))

/-! ## Tags -/

/-- The tags of a text element. -/
def labelTags : List Tag := [.opening "text", .closing "text"]

/-- The tags of a bar with its caption, or of the mark of a series with its name. -/
def barTags : List Tag := .single "rect" :: labelTags

/-- The tags between those of the document, for three series that fill their groups. -/
def innerTags (groups : Nat) : List Tag :=
  .single "rect" :: (labelTags ++ .single "line" :: .single "line" :: (labelTags ++ (labelTags ++
    ((List.replicate groups labelTags).flatten ++
      (List.replicate 3 ((List.replicate groups barTags).flatten ++ barTags)).flatten))))

theorem nested_labelTags : Nested labelTags := .element .nil .nil

theorem nested_barTags : Nested barTags := .single nested_labelTags

theorem nested_innerTags (groups : Nat) : Nested (innerTags groups) := by
  have bars := (nested_barTags.flatten_replicate groups).append nested_barTags
  have labels := (nested_labelTags.flatten_replicate groups).append (bars.flatten_replicate 3)
  exact .single (nested_labelTags.append (.single (.single
    (nested_labelTags.append (nested_labelTags.append labels)))))

theorem length_innerTags (groups : Nat) : (innerTags groups).length = 18 + 11 * groups := by
  simp [innerTags, labelTags, barTags]
  ring

/-- A loop that writes the same in every turn. -/
theorem flatMap_eq_flatten_replicate {α β : Type} {xs : List α} {f : α → List β} {ys : List β}
    (each : ∀ x ∈ xs, f x = ys) : xs.flatMap f = (List.replicate xs.length ys).flatten := by
  rw [List.flatMap_def, List.map_congr_left each, List.map_const']

/-- The tags of a document depend on the number of groups only. -/
theorem tags_segments {chart : Chart} (three : chart.series.length = 3)
    (filled : ∀ series ∈ chart.series, series.captions.length = chart.groups) :
    chart.segments.map (·.tag) =
      .opening "svg" :: (innerTags chart.groups ++ [.closing "svg"]) := by
  have labels : (chart.categories.flatMap fun category =>
      (label (Text.escapeEntities category)).map (·.tag)) =
      (List.replicate chart.groups labelTags).flatten :=
    flatMap_eq_flatten_replicate fun _ _ => rfl
  have series : (chart.series.flatMap fun series => (seriesSegments series).map (·.tag)) =
      (List.replicate 3 ((List.replicate chart.groups barTags).flatten ++ barTags)).flatten := by
    rw [← three]
    apply flatMap_eq_flatten_replicate
    intro series member
    rw [← filled series member, seriesSegments, List.map_append, List.map_flatMap]
    congr 1
    exact flatMap_eq_flatten_replicate fun _ _ => rfl
  simp only [segments, List.map_append, List.map_flatMap, labels, series]
  simp [innerTags, frameSegments, label, shape, labelTags]

/-! ## Contents -/

@[simp]
theorem contents_label (content : String) : contents "text" (label content) = [content] := by
  simp [contents, label]

@[simp]
theorem contents_shape (name : String) : contents "text" (shape name) = [] := by
  simp [contents, shape]

theorem contents_segments (chart : Chart) :
    contents "text" chart.segments =
      ([chart.title, chart.yLabel, chart.xLabel] ++ chart.categories).map Text.escapeEntities ++
        chart.series.flatMap fun series =>
          series.captions ++ [Text.escapeEntities series.metric.name] := by
  have opening : contents "text" [⟨.opening "svg", "\n"⟩] = [] := by simp [contents]
  have closing : contents "text" [⟨.closing "svg", "\n"⟩] = [] := by simp [contents]
  simp only [segments, frameSegments, seriesSegments, barSegments, contents_append,
    contents_flatMap, contents_label, contents_shape, opening, closing]
  simp [List.map_eq_flatMap]

theorem unescapeEntities_of_plain {text : String} (plain : Plain text) :
    Text.unescapeEntities text = text := by
  conv_lhs => rw [← plain.escapeEntities]
  exact Text.unescapeEntities_escapeEntities text

/-- The contents of the text elements, read without their entities. -/
theorem map_unescapeEntities_contents {chart : Chart}
    (plain : ∀ series ∈ chart.series, ∀ caption ∈ series.captions, Plain caption) :
    (contents "text" chart.segments).map Text.unescapeEntities =
      chart.title :: chart.yLabel :: chart.xLabel :: (chart.categories ++
        chart.series.flatMap fun series => series.captions ++ [series.metric.name]) := by
  have captions : ∀ series ∈ chart.series,
      (series.captions ++ [Text.escapeEntities series.metric.name]).map Text.unescapeEntities =
        series.captions ++ [series.metric.name] := by
    intro series member
    have unchanged : series.captions.map Text.unescapeEntities = series.captions := by
      rw [List.map_congr_left fun caption among =>
        unescapeEntities_of_plain (plain series member caption among), List.map_id']
    simp [unchanged]
  rw [contents_segments, List.map_append, List.map_flatMap, List.flatMap_congr captions]
  simp [Function.comp_def]

/-- Segments with nothing but line breaks outside their text elements. -/
def Enclosed (segments : List Segment) : Prop :=
  ∀ segment ∈ segments, segment.tag ≠ .opening "text" → segment.text = "\n"

theorem enclosed_append {front back : List Segment} :
    Enclosed (front ++ back) ↔ Enclosed front ∧ Enclosed back := List.forall_mem_append

theorem enclosed_flatMap {α : Type} {xs : List α} {f : α → List Segment}
    (each : ∀ x, Enclosed (f x)) : Enclosed (xs.flatMap f) := by
  intro segment member
  obtain ⟨x, -, among⟩ := List.mem_flatMap.mp member
  exact each x segment among

theorem enclosed_label (content : String) : Enclosed (label content) := by simp [Enclosed, label]

theorem enclosed_shape (name : String) : Enclosed (shape name) := by simp [Enclosed, shape]

theorem enclosed_bar (caption : String) : Enclosed (barSegments caption) :=
  enclosed_append.mpr ⟨enclosed_shape "rect", enclosed_label caption⟩

theorem enclosed_segments (chart : Chart) : Enclosed chart.segments := by
  have opening : Enclosed [⟨.opening "svg", "\n"⟩] := by simp [Enclosed]
  have closing : Enclosed [⟨.closing "svg", "\n"⟩] := by simp [Enclosed]
  have labels := @enclosed_flatMap _ chart.categories _ fun category =>
    enclosed_label (Text.escapeEntities category)
  have series := @enclosed_flatMap _ chart.series _ fun series =>
    enclosed_append.mpr ⟨@enclosed_flatMap _ series.captions _ enclosed_bar,
      enclosed_bar (Text.escapeEntities series.metric.name)⟩
  simp only [segments, frameSegments, enclosed_append, enclosed_label, enclosed_shape, true_and]
  exact ⟨opening, labels, series, closing⟩

/-! ## Recovery -/

/-- Title, names of the groups and captions phase by phase, as they are read from a document.
The number of groups follows from the number of texts. -/
def recover? (document : String) : Option (String × List String × List (List String)) :=
  (read? document).bind fun segments =>
    match (contents "text" segments).map Text.unescapeEntities with
    | title :: _ :: _ :: texts =>
      let groups := (texts.length - 3) / 4
      some (title, texts.take groups, Metric.all.map fun metric =>
        (texts.drop (groups + metric.index * (groups + 1))).take groups)
    | _ => none

/-- Dropping some turns of a loop that writes as much in every turn. -/
theorem drop_flatMap_of_length {α β : Type} {xs : List α} {f : α → List β} {width : Nat}
    (uniform : ∀ x ∈ xs, (f x).length = width) (i : Nat) :
    (xs.flatMap f).drop (i * width) = (xs.drop i).flatMap f := by
  induction xs generalizing i with
  | nil => simp
  | cons x xs ih =>
      obtain ⟨first, others⟩ := List.forall_mem_cons.mp uniform
      cases i with
      | zero => rw [Nat.zero_mul, List.drop_zero, List.drop_zero]
      | succ i =>
          rw [Nat.succ_mul, Nat.add_comm, ← first, List.flatMap_cons,
            List.drop_length_add_append, first, ih others, List.drop_succ_cons]

/-- The texts are told apart by their number alone. -/
theorem recover?_of_contents {document title yLabel xLabel : String} {segments : List Segment}
    {categories : List String} {captions : Metric → List String}
    (read : read? document = some segments)
    (texts : (contents "text" segments).map Text.unescapeEntities =
      title :: yLabel :: xLabel :: (categories ++
        Metric.all.flatMap fun metric => captions metric ++ [metric.name]))
    (filled : ∀ metric, (captions metric).length = categories.length) :
    recover? document = some (title, categories, Metric.all.map captions) := by
  -- Behind the names of the groups each phase has one text more than there are groups.
  have count : ((categories ++ Metric.all.flatMap fun metric =>
      captions metric ++ [metric.name]).length - 3) / 4 = categories.length := by
    simp [Metric.all, filled]
    omega
  have place : ∀ metric, ((categories ++ Metric.all.flatMap fun metric =>
      captions metric ++ [metric.name]).drop
        (categories.length + metric.index * (categories.length + 1))).take categories.length =
          captions metric := by
    intro metric
    have here : Metric.all.drop metric.index = metric :: Metric.all.drop (metric.index + 1) := by
      cases metric <;> rfl
    rw [List.drop_length_add_append, drop_flatMap_of_length (by simp [filled]), here,
      List.flatMap_cons, List.append_assoc, ← filled metric, List.take_left]
  simp only [recover?, read, Option.bind_some, texts, count, place, List.take_left]

/-- What the document of a chart keeps of it, whatever text the chart holds: every bracket of
the document belongs to one of its own tags, these are nested in one element and depend on
the number of groups only, and the contents of the text elements are the texts of the
chart. -/
structure Intact (chart : Chart) (segments : List Segment) : Prop where
  read : read? chart.svg = some segments
  left : chart.svg.toList.count '<' = 20 + 11 * chart.groups
  right : chart.svg.toList.count '>' = 20 + 11 * chart.groups
  tags : segments.map (·.tag) = .opening "svg" :: (innerTags chart.groups ++ [.closing "svg"])
  nested : Nested (innerTags chart.groups)
  enclosed : Enclosed segments
  phases : chart.series.map (·.metric) = Metric.all
  contents : (Markup.contents "text" segments).map Text.unescapeEntities =
    chart.title :: chart.yLabel :: chart.xLabel :: (chart.categories ++
      chart.series.flatMap fun series => series.captions ++ [series.metric.name])
  recovered : recover? chart.svg =
    some (chart.title, chart.categories, chart.series.map (·.captions))

section Inputs

variable {configuration : Configuration} {inputs : Inputs Double}

theorem plain_captions_ofInputs : ∀ series ∈ (ofInputs configuration inputs).series,
    ∀ caption ∈ series.captions, Plain caption := by
  intro series member caption among
  obtain ⟨metric, -, rfl⟩ := List.mem_map.mp member
  obtain ⟨value, -, rfl⟩ := List.mem_map.mp among
  exact Double.plain_fixedText value

theorem spelled_svg_ofInputs : Spelled (ofInputs configuration inputs).svg.toList
    (ofInputs configuration inputs).segments := by
  apply written_svgLines plain_captions_ofInputs
  intro series member
  obtain ⟨values, captions⟩ := filled_ofInputs series member
  omega

theorem tags_ofInputs : (ofInputs configuration inputs).segments.map (·.tag) =
    .opening "svg" ::
      (innerTags (ofInputs configuration inputs).groups ++ [.closing "svg"]) := by
  apply tags_segments rfl
  intro series member
  rw [groups_ofInputs]
  exact (filled_ofInputs series member).2

theorem length_segments_ofInputs : (ofInputs configuration inputs).segments.length =
    20 + 11 * (ofInputs configuration inputs).groups := by
  have count := congrArg List.length (@tags_ofInputs configuration inputs)
  rw [List.length_map, List.length_cons, List.length_append, length_innerTags,
    List.length_singleton] at count
  omega

theorem recover?_svg_ofInputs : recover? (ofInputs configuration inputs).svg =
    some ((ofInputs configuration inputs).title, (ofInputs configuration inputs).categories,
      (ofInputs configuration inputs).series.map (·.captions)) := by
  have texts := map_unescapeEntities_contents (@plain_captions_ofInputs configuration inputs)
  -- The series of the chart are those of the phases, so the two lists of texts are the same.
  exact @recover?_of_contents _ _ _ _ _ _ (fun metric => (seriesOf inputs metric).captions)
    spelled_svg_ofInputs.read?_eq texts (by simp [seriesOf, ofInputs])

end Inputs

/-- No text of a summary can break the document of a chart, and title, names of the groups and
captions can be recovered from it. -/
theorem svg_intact {summary : SummaryTable} {chart : Chart} (member : chart ∈ ofSummary summary) :
    ∃ segments, chart.Intact segments := by
  obtain ⟨⟨configuration, inputs⟩, -, rfl⟩ := List.mem_map.mp member
  obtain ⟨left, right⟩ := (@spelled_svg_ofInputs configuration inputs).count_eq
  exact ⟨(ofInputs configuration inputs).segments, {
    read := spelled_svg_ofInputs.read?_eq
    left := left.trans length_segments_ofInputs
    right := right.trans length_segments_ofInputs
    tags := tags_ofInputs
    nested := nested_innerTags _
    enclosed := enclosed_segments _
    phases := rfl
    contents := map_unescapeEntities_contents plain_captions_ofInputs
    recovered := recover?_svg_ofInputs }⟩

/-- A summary whose texts look like markup and entities, with values that are not finite. -/
def hostile : SummaryTable :=
  ⟨[(⟨"</text></svg>&lt;&amp;\""⟩,
    [("<rect/>&gt", ⟨some Double.nan, none, some (Double.infinite true)⟩),
      ("a > b & \"c\"\n", ⟨some (Double.ofNat 3), some (-Double.ofNat 1), none⟩)])]⟩

theorem svg_intact_hostile : ∃ chart ∈ ofSummary hostile,
    chart.title = "</text></svg>&lt;&amp;\"" ∧ ∃ segments, chart.Intact segments := by
  refine ⟨_, List.mem_cons_self, ?_, @svg_intact hostile _ List.mem_cons_self⟩
  rfl

end Chart

end PhaseBench
