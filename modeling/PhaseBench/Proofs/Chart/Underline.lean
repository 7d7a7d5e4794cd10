import PhaseBench.Proofs.Chart.Rows

/-!
# Underlines

Two lines of a chart are underlined. The line below the title has as many marks as the title
has characters. The line below the header has as many marks as the header has bytes without
the blanks at its end, so it is too long by the bytes that the two labels have beyond one for
each character (`Chart.surplus_trimEnd_header`). It fits exactly when the label of the groups,
and that of the values without the blanks at its end, are ASCII (`Chart.underlines_fit_iff`).
-/

namespace PhaseBench

namespace Text

/-! ## Bytes and characters -/

/-- A text of ASCII characters. -/
def Ascii (text : String) : Prop := ∀ c ∈ text.toList, c.toNat < 128

/-- The bytes of a text beyond one for each character. -/
def surplus (text : String) : Nat := (text.toList.map fun c => c.utf8Size - 1).sum

@[simp]
theorem surplus_append (a b : String) : surplus (a ++ b) = surplus a + surplus b := by
  simp [surplus]

theorem utf8ByteSize_eq (text : String) : text.utf8ByteSize = text.length + surplus text := by
  rw [← String.ofList_toList (s := text)]
  induction text.toList with
  | nil => rfl
  | cons c cs ih =>
      have pos := c.utf8Size_pos
      rw [← List.singleton_append, String.ofList_append, String.utf8ByteSize_append, ih,
        surplus_append]
      have single : (String.ofList [c]).utf8ByteSize = c.utf8Size := by simp
      have extra : surplus (String.ofList [c]) = c.utf8Size - 1 := by simp [surplus]
      rw [single, extra]
      simp
      omega

theorem surplus_eq_zero_iff {text : String} : surplus text = 0 ↔ Ascii text := by
  have single (c : Char) : c.utf8Size - 1 = 0 ↔ c.toNat < 128 := by
    have pos := c.utf8Size_pos
    have one : c.utf8Size - 1 = 0 ↔ c.utf8Size = 1 := by omega
    rw [one, Char.utf8Size_eq_one_iff, UInt32.le_iff_toNat_le]
    exact Nat.lt_succ_iff.symm
  simp only [surplus, Ascii, List.sum_eq_zero_iff, List.forall_mem_map, single]

theorem surplus_of_ascii {text : String} (ascii : Ascii text) : surplus text = 0 :=
  surplus_eq_zero_iff.mpr ascii

theorem eq_of_mem_rule {c d : Char} {n : Nat} (member : d ∈ (rule c n).toList) : d = c := by
  rw [rule, String.toList_ofList] at member
  exact List.eq_of_mem_replicate member

@[simp]
theorem surplus_padEnd (width : Nat) (text : String) :
    surplus (padEnd width text) = surplus text := by
  have blanks : surplus (rule ' ' (width - text.length)) = 0 := by
    apply surplus_of_ascii
    intro c member
    rw [eq_of_mem_rule member]
    decide
  rw [padEnd, surplus_append, blanks, Nat.add_zero]

theorem rule_inj {c : Char} {m n : Nat} : rule c m = rule c n ↔ m = n := by
  simp [rule, String.ofList_inj, List.replicate_inj]

/-! ## Blanks at the end -/

theorem toList_trimEnd (text : String) :
    (trimEnd text).toList = text.toList.rdropWhile isBlank :=
  String.toList_ofList

theorem trimEnd_eq_empty_iff {text : String} :
    trimEnd text = "" ↔ ∀ c ∈ text.toList, isBlank c = true := by
  rw [← String.toList_inj, toList_trimEnd]
  exact List.rdropWhile_eq_nil_iff

/-- Behind a text, one that is blank is trimmed with it, and of any other only its own blanks
are. -/
theorem trimEnd_append (a b : String) :
    trimEnd (a ++ b) = if trimEnd b = "" then trimEnd a else a ++ trimEnd b := by
  rw [← String.toList_inj, toList_trimEnd, List.rdropWhile, String.toList_append,
    List.reverse_append, List.dropWhile_append]
  by_cases blank : trimEnd b = ""
  · have nothing : b.toList.reverse.dropWhile isBlank = [] := by
      rw [← String.toList_inj, toList_trimEnd] at blank
      exact List.reverse_eq_nil_iff.mp blank
    rw [if_pos blank, nothing, if_pos List.isEmpty_nil, toList_trimEnd, List.rdropWhile]
  · have something : b.toList.reverse.dropWhile isBlank ≠ [] := by
      rw [← String.toList_inj, toList_trimEnd] at blank
      exact mt List.reverse_eq_nil_iff.mpr blank
    rw [if_neg blank, if_neg (by simpa using something), String.toList_append, toList_trimEnd,
      List.rdropWhile, List.reverse_append, List.reverse_reverse]

theorem trimEnd_padEnd (width : Nat) (text : String) :
    trimEnd (padEnd width text) = trimEnd text := by
  have blank : trimEnd (rule ' ' (width - text.length)) = "" := by
    rw [trimEnd_eq_empty_iff]
    intro c member
    rw [eq_of_mem_rule member]
    decide
  rw [padEnd, trimEnd_append, if_pos blank]

end Text

namespace Chart

/-! ## The header -/

/-- The header, cut where a label that is blank would leave nothing behind the second column. -/
theorem header_eq (chart : Chart) :
    chart.header = Text.padEnd 24 chart.xLabel ++ "  " ++ (Text.padEnd 24 "metric" ++ "  ") ++
      Text.padEnd 24 chart.yLabel := by
  simp [header, columnGap, columnWidth, String.intercalate_cons_cons, String.append_assoc]

/-- Of the header only the two labels can have more bytes than characters. -/
theorem surplus_trimEnd_header (chart : Chart) :
    Text.surplus (Text.trimEnd chart.header) =
      Text.surplus chart.xLabel + Text.surplus (Text.trimEnd chart.yLabel) := by
  have gap : Text.surplus "  " = 0 := by decide
  have word : Text.surplus "metric" = 0 := by decide
  have middle : Text.trimEnd (Text.padEnd 24 "metric" ++ "  ") = "metric" := by decide
  rw [header_eq, Text.trimEnd_append, Text.trimEnd_padEnd]
  split
  · next blank =>
      have empty : Text.surplus "" = 0 := by decide
      rw [Text.trimEnd_append, middle, if_neg (by decide), blank]
      simp [gap, word, empty]
  · simp [gap, word]

/-! ## The lines that are underlined -/

/-- The title and the header of a chart among its lines, with their underlines. -/
structure Underlined (chart : Chart) (lines : List String) : Prop where
  title : lines[0]? = some chart.title
  titleRule : lines[1]? = some (Text.rule '=' chart.title.length)
  header : lines[3]? = some chart.header
  /-- The marks below the header are more than the characters above them by the bytes that the
  labels have beyond one for each character. -/
  headerRule : lines[4]? = some (Text.rule '=' ((Text.trimEnd chart.header).length +
    (Text.surplus chart.xLabel + Text.surplus (Text.trimEnd chart.yLabel))))

theorem underlined_headLines (chart : Chart) (others : List String) :
    chart.Underlined (chart.headLines ++ others) where
  title := rfl
  titleRule := rfl
  header := rfl
  headerRule := by
    rw [← surplus_trimEnd_header, ← Text.utf8ByteSize_eq]
    rfl

theorem underlined_of_text? {chart : Chart} {text : String} (shown : chart.text? = some text)
    (title : Text.Unbroken chart.title) (xLabel : Text.Unbroken chart.xLabel)
    (yLabel : Text.Unbroken chart.yLabel) : chart.Underlined (Text.linesOf text) := by
  obtain ⟨lines, found, rfl⟩ := Option.map_eq_some_iff.mp shown
  obtain ⟨body, -, rfl⟩ := Option.map_eq_some_iff.mp found
  -- The names of groups and the captions may have line breaks: they come later.
  rw [List.append_assoc,
    Text.linesOf_unlines_append (unbroken_headLines title xLabel yLabel)]
  exact chart.underlined_headLines _

/-- Below the title of a chart stand as many marks as it has characters. Those below the header
are never too few, and as many as it has characters without the blanks at its end exactly when
the labels are ASCII. -/
theorem underlines_fit_iff {chart : Chart} {text : String} (shown : chart.text? = some text)
    (title : Text.Unbroken chart.title) (xLabel : Text.Unbroken chart.xLabel)
    (yLabel : Text.Unbroken chart.yLabel) :
    chart.Underlined (Text.linesOf text) ∧
      ((Text.linesOf text)[4]? = some (Text.rule '=' (Text.trimEnd chart.header).length) ↔
        Text.Ascii chart.xLabel ∧ Text.Ascii (Text.trimEnd chart.yLabel)) := by
  have underlined := underlined_of_text? shown title xLabel yLabel
  refine ⟨underlined, ?_⟩
  rw [underlined.headerRule, Option.some_inj, Text.rule_inj, Nat.add_eq_left, Nat.add_eq_zero_iff,
    Text.surplus_eq_zero_iff, Text.surplus_eq_zero_iff]

/-- The chart of a title and two labels that shows nothing else. -/
def bare (title xLabel yLabel : String) : Chart := ⟨title, xLabel, yLabel, [], []⟩

/-- Accents in the title and a wide blank behind the label of the values do no harm. -/
theorem underlines_fit_iff_accented_title :
    ∃ text, (bare "Größe" "Files" "ms\u2003").text? = some text ∧
      (Text.Unbroken "Größe" ∧ Text.Unbroken "Files" ∧ Text.Unbroken "ms\u2003") ∧
      (Text.linesOf text)[1]? = some (Text.rule '=' 5) ∧
      (Text.linesOf text)[4]? = some (Text.rule '=' 54) := by
  obtain ⟨text, shown⟩ : ∃ text, (bare "Größe" "Files" "ms\u2003").text? = some text := ⟨_, rfl⟩
  have title : Text.Unbroken "Größe" := by simp [Text.Unbroken]
  have xLabel : Text.Unbroken "Files" := by simp [Text.Unbroken]
  have yLabel : Text.Unbroken "ms\u2003" := by simp [Text.Unbroken]
  obtain ⟨underlined, fits⟩ := underlines_fit_iff shown title xLabel yLabel
  have trimmed : Text.trimEnd "ms\u2003" = "ms" := by decide +kernel
  have ascii : Text.Ascii "Files" ∧ Text.Ascii (Text.trimEnd "ms\u2003") := by
    rw [trimmed]
    simp [Text.Ascii]
  have count : (Text.trimEnd (bare "Größe" "Files" "ms\u2003").header).length = 54 := by
    decide +kernel
  exact ⟨text, shown, ⟨title, xLabel, yLabel⟩, underlined.titleRule, count ▸ fits.mpr ascii⟩

/-- Two letters of the label of the groups have two bytes each, and the line below the header is
two marks too long. -/
theorem accented_label_outruns :
    ∃ text header, (bare "A" "Größe" "ms").text? = some text ∧
      (Text.linesOf text)[3]? = some header ∧ (Text.trimEnd header).length = 54 ∧
      (Text.linesOf text)[4]? = some (Text.rule '=' 56) := by
  obtain ⟨text, shown⟩ : ∃ text, (bare "A" "Größe" "ms").text? = some text := ⟨_, rfl⟩
  have underlined : (bare "A" "Größe" "ms").Underlined (Text.linesOf text) := by
    apply underlined_of_text? shown <;> simp [bare, Text.Unbroken]
  exact ⟨text, _, shown, underlined.header, by decide +kernel, underlined.headerRule⟩

end Chart

end PhaseBench
