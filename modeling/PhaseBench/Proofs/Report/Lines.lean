import PhaseBench.Proofs.Report.Leftmost
import PhaseBench.Proofs.Text.Numeral
import PhaseBench.Text.Column

/-!
# Reports line by line

A report holds no line break, so no match straddles two lines: the reading of a phase
comes from the first line that reports it (`digits?_joined`). A report line is a match
of its own phase at its beginning and holds no match of another one. One label is the
beginning of another, but every label starts with a capital letter, which a report line
has only once, and the words behind the two labels differ.

`extract_joined` puts this together: report lines can be written in any order, left out
and mixed with other lines, and each phase is read as if it were alone.
-/

namespace PhaseBench.Report

variable {metric other : Metric} {text digits : List Char}

/-- The text of the given lines, with a line break between each two. -/
def joined (lines : List String) : String := "\n".intercalate lines

/-- The line that reports a value of a phase. -/
def reportLine (metric : Metric) (value : Nat) : String :=
  metric.label ++ " took " ++ Text.decimal value ++ "ms"

/-- The lines that report the values of some phases. -/
def reportLines (values : PerMetric Nat) (phases : List Metric) : List String :=
  phases.map fun metric => reportLine metric (values.get metric)

/-- No label of a phase occurs in a line. -/
def Unlabelled (line : String) : Prop :=
  ∀ metric : Metric, ¬ metric.label.toList <:+: line.toList

/-- The pattern of a phase matches somewhere in a line. -/
def Reported (metric : Metric) (line : String) : Prop :=
  ∃ place digits, MatchAt metric line.toList place digits

theorem reported_iff {line : String} :
    Reported metric line ↔ digits? metric line.toList ≠ none := by
  rw [Ne, digits?_eq_none_iff]
  simp [Reported]

/-! ## Line breaks -/

theorem newline_notMem_reportOf (decimal : ∀ c ∈ digits, Text.isDecimalDigit c) :
    '\n' ∉ reportOf metric digits := by
  intro member
  rw [reportOf, List.append_assoc, List.mem_append, List.mem_append] at member
  rcases member with words | digit | unit
  · cases metric <;> exact absurd words (by decide)
  · exact absurd (decimal '\n' digit) (by decide)
  · exact absurd unit (by decide)

/-- What stands at the beginning of a text and does not hold a character stands before the
first such character. -/
theorem prefix_of_prefix_append_cons {start rest : List Char} {c : Char} (absent : c ∉ start)
    (begins : start <+: text ++ c :: rest) : start <+: text := by
  rcases List.prefix_or_prefix_of_prefix begins (List.prefix_append text (c :: rest)) with
    inside | ⟨excess, rfl⟩
  · exact inside
  · rw [List.prefix_append_right_inj] at begins
    cases excess with
    | nil => simp
    | cons d excess =>
        obtain ⟨rfl, -⟩ := List.cons_prefix_cons.mp begins
        exact absurd (by simp) absent

theorem digitsHere?_append_newline (metric : Metric) (text rest : List Char) :
    digitsHere? metric (text ++ '\n' :: rest) = digitsHere? metric text := by
  apply Option.ext
  intro digits
  rw [digitsHere?_eq_some_iff, digitsHere?_eq_some_iff]
  constructor
  · rintro ⟨nonempty, decimal, report⟩
    exact ⟨nonempty, decimal,
      prefix_of_prefix_append_cons (newline_notMem_reportOf decimal) report⟩
  · rintro ⟨nonempty, decimal, report⟩
    exact ⟨nonempty, decimal, report.trans (List.prefix_append text _)⟩

/-- The search goes through a line before it looks at what follows the line break. -/
theorem digits?_append_newline (text rest : List Char) :
    digits? metric (text ++ '\n' :: rest) = (digits? metric text).or (digits? metric rest) := by
  induction text with
  | nil =>
      have here : digitsHere? metric ('\n' :: rest) = none := by
        rw [← List.nil_append ('\n' :: rest), digitsHere?_append_newline]
        cases metric <;> rfl
      rw [List.nil_append, digits?_cons_of_none here]
      rfl
  | cons c text ih =>
      have here := digitsHere?_append_newline metric (c :: text) rest
      rw [List.cons_append] at here ⊢
      cases found : digitsHere? metric (c :: text) with
      | some digits =>
          rw [digits?_cons_of_some found, digits?_cons_of_some (here.trans found)]
          rfl
      | none =>
          rw [digits?_cons_of_none found, digits?_cons_of_none (here.trans found), ih]

theorem toList_joined_cons_cons (line next : String) (lines : List String) :
    (joined (line :: next :: lines)).toList =
      line.toList ++ '\n' :: (joined (next :: lines)).toList := by
  simp [joined]

/-- The digits of the first line that reports the phase are those of the whole text. -/
theorem digits?_joined (lines : List String) :
    digits? metric (joined lines).toList =
      lines.findSome? fun line => digits? metric line.toList := by
  induction lines with
  | nil => rfl
  | cons line lines ih =>
      cases lines with
      | nil => simp [joined]
      | cons next lines =>
          rw [toList_joined_cons_cons, digits?_append_newline, ih]
          conv_rhs => rw [List.findSome?_cons]
          cases digits? metric line.toList <;> rfl

/-! ## Report lines -/

theorem toList_reportLine (metric : Metric) (value : Nat) :
    (reportLine metric value).toList = reportOf metric (Nat.toDigits 10 value) := by
  simp [reportLine, reportOf, opening, Text.decimal]

theorem isDecimalDigit_of_isDigit {c : Char} (digit : c.isDigit) : Text.isDecimalDigit c := by
  have bounds := toNat_of_isDigit digit
  have ascii : (0x30 ≤ c.toNat && c.toNat < 0x30 + 10) = true := by simp; omega
  rw [Text.isDecimalDigit, Text.digitZeros, List.any_cons, ascii, Bool.true_or]

/-- A report line reports its own value. -/
theorem digits?_reportLine (metric : Metric) (value : Nat) :
    digits? metric (reportLine metric value).toList = some (Nat.toDigits 10 value) := by
  have here : digitsHere? metric (reportLine metric value).toList =
      some (Nat.toDigits 10 value) := by
    rw [digitsHere?_eq_some_iff, toList_reportLine]
    exact ⟨Nat.toDigits_ne_nil, fun c member =>
      isDecimalDigit_of_isDigit (isDigit_of_mem_toDigits member), List.prefix_refl _⟩
  rw [digits?_eq_some_iff]
  exact ⟨0, matchAt_zero_iff.mpr here, fun earlier before => absurd before (Nat.not_lt_zero _)⟩

theorem valueOf_toDigits {value : Nat} (word : value < 2 ^ 64) :
    valueOf (Nat.toDigits 10 value) = value := by
  have back : numeral (Nat.toDigits 10 value) = value := by
    rw [← foldl_digits_eq_numeral]
    exact Nat.ofDigitChars_ten_toDigits
  have legible : Legible (Nat.toDigits 10 value) :=
    ⟨fun c member => isDigit_of_mem_toDigits member, by rw [back]; exact word⟩
  rw [valueOf_of_legible legible, back]

/-! ## Lines without a report -/

theorem MatchAt.opening_infix {place : Nat} (found : MatchAt metric text place digits) :
    opening metric <:+: text := by
  obtain ⟨-, -, report⟩ := exists_begins_iff.mp found
  have start : opening metric <+: text.drop place := by
    rw [reportOf, List.append_assoc] at report
    exact (List.prefix_append _ _).trans report
  exact start.isInfix.trans (List.drop_suffix place text).isInfix

/-- A phase whose label does not occur is not reported. -/
theorem digits?_eq_none_of_no_label (absent : ¬ metric.label.toList <:+: text) :
    digits? metric text = none := by
  rw [digits?_eq_none_iff]
  intro place digits found
  have label : metric.label.toList <+: opening metric := by
    rw [opening, String.toList_append]
    exact List.prefix_append _ _
  exact absent (label.isInfix.trans found.opening_infix)

/-- A report has one capital letter before its digits, the first character. -/
theorem exists_opening_eq (metric : Metric) :
    ∃ c words, opening metric = c :: words ∧ c.isUpper ∧ ∀ d ∈ words, d.isUpper = false := by
  cases metric with
  | generating => exact ⟨'G', "enerating bytecode took ".toList, rfl, rfl, by simp⟩
  | interpreting => exact ⟨'I', "nterpreting took ".toList, rfl, rfl, by simp⟩
  | threaded => exact ⟨'I', "nterpreting (threaded) took ".toList, rfl, rfl, by simp⟩

/-- A text without capital letters reports nothing. -/
theorem digits?_eq_none_of_no_upper (lower : ∀ c ∈ text, c.isUpper = false) :
    digits? metric text = none := by
  rw [digits?_eq_none_iff]
  intro place digits found
  obtain ⟨c, words, opened, upper, -⟩ := exists_opening_eq metric
  have member : c ∈ text := found.opening_infix.subset (by rw [opened]; exact List.mem_cons_self)
  rw [lower c member] at upper
  cases upper

theorem isUpper_of_isDigit {c : Char} (digit : c.isDigit) : c.isUpper = false := by
  cases upper : c.isUpper with
  | false => rfl
  | true =>
      have letter : 'A'.val ≤ c.val ∧ c.val ≤ 'Z'.val := by simpa [Char.isUpper] using upper
      have low : 65 ≤ c.toNat := letter.1
      have high := (toNat_of_isDigit digit).2
      omega

/-- The words before the digits of two phases differ before either ends. -/
theorem after?_opening_of_ne (ne : other ≠ metric) (rest : List Char) :
    after? (opening other) (opening metric ++ rest) = none := by
  cases other <;> cases metric
  case generating.generating => exact absurd rfl ne
  case interpreting.interpreting => exact absurd rfl ne
  case threaded.threaded => exact absurd rfl ne
  all_goals rfl

/-- A report line reports no other phase. -/
theorem digits?_reportLine_of_ne (ne : other ≠ metric) (value : Nat) :
    digits? other (reportLine metric value).toList = none := by
  obtain ⟨c, words, opened, -, lower⟩ := exists_opening_eq metric
  rw [toList_reportLine, reportOf, List.append_assoc]
  have here : digitsHere? other (opening metric ++ (Nat.toDigits 10 value ++ ['m', 's'])) =
      none := by
    rw [digitsHere?, after?_opening_of_ne ne]
  rw [opened, List.cons_append] at here ⊢
  rw [digits?_cons_of_none here]
  -- Only the first character is a capital letter, and every label has one.
  apply digits?_eq_none_of_no_upper
  intro d member
  rw [List.mem_append, List.mem_append] at member
  rcases member with word | digit | unit
  · exact lower d word
  · exact isUpper_of_isDigit (isDigit_of_mem_toDigits digit)
  · have either : d = 'm' ∨ d = 's' := by simpa using unit
    rcases either with rfl | rfl <;> rfl

/-! ## Texts of lines -/

theorem get_extract (output : String) (metric : Metric) :
    (extract output).get metric = reading output.toList metric := PerMetric.get_ofFn _ metric

theorem reading_eq_zero {text : List Char} (absent : digits? metric text = none) :
    reading text metric = 0 := by
  rw [reading, absent]
  rfl

/-- Among report lines and lines without a label, a line is the report line of a phase or does
not report it. -/
theorem eq_reportLine_or_silent {values : PerMetric Nat} {kept : List Metric}
    {others : List String} {line : String} (unlabelled : ∀ line ∈ others, Unlabelled line)
    (member : line ∈ reportLines values kept ++ others) (metric : Metric) :
    line = reportLine metric (values.get metric) ∧ metric ∈ kept ∨
      digits? metric line.toList = none := by
  rw [List.mem_append, reportLines, List.mem_map] at member
  rcases member with ⟨phase, among, rfl⟩ | further
  · by_cases same : metric = phase
    · subst same
      exact .inl ⟨rfl, among⟩
    · exact .inr (digits?_reportLine_of_ne same _)
  · exact .inr (digits?_eq_none_of_no_label (unlabelled line further metric))

/-- The readings of report lines of some phases, in any order and among lines without a label. -/
theorem extract_of_perm {values : PerMetric Nat} {kept : List Metric} {others lines : List String}
    (words : ∀ metric, values.get metric < 2 ^ 64) (unlabelled : ∀ line ∈ others, Unlabelled line)
    (mixed : lines.Perm (reportLines values kept ++ others)) :
    extract (joined lines) =
      PerMetric.ofFn fun metric => if metric ∈ kept then values.get metric else 0 := by
  apply PerMetric.eq_of_get
  intro metric
  rw [get_extract, PerMetric.get_ofFn]
  have silent (line : String) (member : line ∈ lines) :=
    eq_reportLine_or_silent unlabelled (mixed.mem_iff.mp member) metric
  split
  · next among =>
      have member : reportLine metric (values.get metric) ∈ lines := by
        rw [mixed.mem_iff, List.mem_append, reportLines, List.mem_map]
        exact .inl ⟨metric, among, rfl⟩
      cases found : lines.findSome? fun line => digits? metric line.toList with
      | none =>
          have absent := List.findSome?_eq_none_iff.mp found _ member
          rw [digits?_reportLine] at absent
          cases absent
      | some digits =>
          obtain ⟨line, inside, reported⟩ := List.exists_of_findSome?_eq_some found
          rcases silent line inside with ⟨rfl, -⟩ | absent
          · rw [digits?_reportLine] at reported
            rw [reading, digits?_joined, found, ← Option.some.inj reported]
            exact valueOf_toDigits (words metric)
          · rw [absent] at reported
            cases reported
  · next missing =>
      apply reading_eq_zero
      rw [digits?_joined, List.findSome?_eq_none_iff]
      intro line member
      exact (silent line member).resolve_left fun report => missing report.2

/-- How the readings of a text come from its lines. The lines may be any texts: a line break
inside one of them divides it once more and changes nothing. -/
structure LineByLine (lines : List String) : Prop where
  /-- A phase has the reading of the first line that reports it. -/
  first_line : ∀ metric before line after, lines = before ++ line :: after →
    (∀ earlier ∈ before, ¬ Reported metric earlier) → Reported metric line →
    (extract (joined lines)).get metric = (extract line).get metric
  /-- A phase that no line reports has the reading zero. -/
  no_line : ∀ metric, (∀ line ∈ lines, ¬ Reported metric line) →
    (extract (joined lines)).get metric = 0
  /-- Values are read back from their report lines, whatever the order of these and whatever
  lines without a label stand between them. -/
  read_back : ∀ (values : PerMetric Nat) (others : List String),
    (∀ metric, values.get metric < 2 ^ 64) → (∀ line ∈ others, Unlabelled line) →
    lines.Perm (reportLines values Metric.all ++ others) →
    extract (joined lines) = values
  /-- When some report lines are left out, their phases have the reading zero and the others
  keep theirs. -/
  left_out : ∀ (values : PerMetric Nat) (omitted : List Metric) (others : List String),
    (∀ metric, values.get metric < 2 ^ 64) → (∀ line ∈ others, Unlabelled line) →
    lines.Perm (reportLines values (Metric.all.filter (· ∉ omitted)) ++ others) →
    extract (joined lines) =
      PerMetric.ofFn fun metric => if metric ∈ omitted then 0 else values.get metric
  /-- A report line that is put between the lines changes no other phase. -/
  inserted : ∀ before after metric value other, lines = before ++ after → other ≠ metric →
    (extract (joined (before ++ reportLine metric value :: after))).get other =
      (extract (joined lines)).get other

/-- Reading is local to lines, and report lines do not interfere. -/
theorem extract_joined (lines : List String) : LineByLine lines where
  first_line := by
    rintro metric before line after rfl earlier reported
    have passed : before.findSome? (fun line => digits? metric line.toList) = none := by
      rw [List.findSome?_eq_none_iff]
      intro line member
      simpa [reported_iff] using earlier line member
    obtain ⟨digits, found⟩ := Option.ne_none_iff_exists'.mp (reported_iff.mp reported)
    rw [get_extract, get_extract, reading, reading, digits?_joined, List.findSome?_append, passed,
      List.findSome?_cons, found]
    rfl
  no_line := by
    intro metric silent
    rw [get_extract]
    apply reading_eq_zero
    rw [digits?_joined, List.findSome?_eq_none_iff]
    intro line member
    simpa [reported_iff] using silent line member
  read_back := by
    intro values others words unlabelled mixed
    rw [extract_of_perm words unlabelled mixed]
    apply PerMetric.eq_of_get
    intro metric
    rw [PerMetric.get_ofFn, if_pos (Metric.mem_all metric)]
  left_out := by
    intro values omitted others words unlabelled mixed
    rw [extract_of_perm words unlabelled mixed]
    apply PerMetric.eq_of_get
    intro metric
    by_cases gone : metric ∈ omitted <;> simp [gone, Metric.mem_all]
  inserted := by
    rintro before after metric value other rfl ne
    rw [get_extract, get_extract, reading, reading, digits?_joined, digits?_joined,
      List.findSome?_append, List.findSome?_append, List.findSome?_cons,
      digits?_reportLine_of_ne ne]

/-- Neither of two phases is taken for the other although their labels begin alike. -/
example : extract (joined ["Interpreting (threaded) took 33ms", "a := 15",
    "Interpreting took 40ms"]) = ⟨0, 40, 33⟩ := by
  decide +kernel

end PhaseBench.Report
