import Mathlib
import PhaseBench.Report

/-!
# The leftmost match decides

The pattern of a phase is its label, ` took `, a run of decimal digits and `ms`. This
module says without a search what a text reports: `MatchAt` is a match of the pattern
at a place, `Leftmost` the match that no other one precedes, and `Reads` the reading
that follows, from the digits of the leftmost match or from there being none.

`extract_eq_iff_reads` says that `extract` gives exactly these readings, one for each
phase. Labels that do not go on to a full match are passed over whatever follows them,
and nothing behind the leftmost match has an influence.
-/

namespace PhaseBench.Report

variable {metric : Metric} {text digits : List Char}

/-! ## Matches -/

/-- A text begins with a report of the phase: the label, ` took `, some decimal digits, all
that stand there, and a rest that begins with `ms`. -/
structure Begins (metric : Metric) (text digits rest : List Char) : Prop where
  text_eq : text = metric.label.toList ++ " took ".toList ++ digits ++ rest
  nonempty : digits ≠ []
  decimal : ∀ c ∈ digits, Text.isDecimalDigit c
  maximal : ∀ c ∈ rest.head?, Text.isDecimalDigit c = false
  unit : "ms".toList <+: rest

/-- The pattern of a phase matches at a place of a text, with the given digits. -/
def MatchAt (metric : Metric) (text : List Char) (place : Nat) (digits : List Char) : Prop :=
  ∃ rest, Begins metric (text.drop place) digits rest

/-- The pattern of a phase matches at this place and at none before it. -/
structure Leftmost (metric : Metric) (text : List Char) (place : Nat) (digits : List Char) :
    Prop where
  here : MatchAt metric text place digits
  first : ∀ earlier < place, ∀ others, ¬ MatchAt metric text earlier others

/-- The words of a report with the given digits. -/
def reportOf (metric : Metric) (digits : List Char) : List Char :=
  opening metric ++ digits ++ ['m', 's']

theorem after?_eq_some_iff {start rest : List Char} :
    after? start text = some rest ↔ text = start ++ rest := by
  fun_induction after? start text with
  | case1 text => simp [eq_comm]
  | case2 => simp
  | case3 start b text ih => simpa using ih
  | case4 a start b text other =>
      constructor
      · intro found
        cases found
      · intro same
        exact absurd (List.cons.inj same).1.symm other

@[simp]
theorem after?_append (start rest : List Char) : after? start (start ++ rest) = some rest :=
  after?_eq_some_iff.mpr rfl

theorem takeWhile_digits {rest : List Char} (decimal : ∀ c ∈ digits, Text.isDecimalDigit c) :
    (digits ++ 'm' :: rest).takeWhile Text.isDecimalDigit = digits := by
  rw [List.takeWhile_append_of_pos decimal, List.takeWhile_cons_of_neg (by decide),
    List.append_nil]

theorem dropWhile_digits {rest : List Char} (decimal : ∀ c ∈ digits, Text.isDecimalDigit c) :
    (digits ++ 'm' :: rest).dropWhile Text.isDecimalDigit = 'm' :: rest := by
  rw [List.dropWhile_append_of_pos decimal, List.dropWhile_cons_of_neg (by decide)]

/-- The search at one place finds the report that the text begins with. -/
theorem digitsHere?_eq_some_iff : digitsHere? metric text = some digits ↔
    digits ≠ [] ∧ (∀ c ∈ digits, Text.isDecimalDigit c) ∧ reportOf metric digits <+: text := by
  constructor
  · intro found
    unfold digitsHere? at found
    split at found
    · cases found
    · next rest opened =>
        simp only at found
        split at found
        · cases found
        · next tail closed =>
            split at found
            · cases found
            · next nonempty =>
                obtain rfl := Option.some.inj found
                rw [after?_eq_some_iff] at opened closed
                refine ⟨by simpa using nonempty, fun c => List.mem_takeWhile_imp, tail, ?_⟩
                rw [opened, reportOf, List.append_assoc, List.append_assoc, ← closed,
                  List.takeWhile_append_dropWhile]
  · rintro ⟨nonempty, decimal, tail, rfl⟩
    have opened : after? (opening metric) (reportOf metric digits ++ tail) =
        some (digits ++ 'm' :: 's' :: tail) := by
      rw [after?_eq_some_iff, reportOf]
      simp
    have closed : after? ['m', 's'] ('m' :: 's' :: tail) = some tail := by
      rw [after?_eq_some_iff]
      rfl
    have some : digits.isEmpty = false := by simpa using nonempty
    simp [digitsHere?, opened, takeWhile_digits decimal, dropWhile_digits decimal, closed, some]

/-- The run of digits in a report is maximal whatever follows, because `ms` is no digit. -/
theorem exists_begins_iff : (∃ rest, Begins metric text digits rest) ↔
    digits ≠ [] ∧ (∀ c ∈ digits, Text.isDecimalDigit c) ∧ reportOf metric digits <+: text := by
  have words : opening metric = metric.label.toList ++ " took ".toList := String.toList_append
  constructor
  · rintro ⟨rest, begins⟩
    obtain ⟨tail, rfl⟩ := begins.unit
    refine ⟨begins.nonempty, begins.decimal, tail, ?_⟩
    rw [begins.text_eq, reportOf, words, List.append_assoc _ _ tail]
    rfl
  · rintro ⟨nonempty, decimal, tail, rfl⟩
    refine ⟨'m' :: 's' :: tail, ?_, nonempty, decimal, ?_, tail, rfl⟩
    · rw [reportOf, words, List.append_assoc _ _ tail]
      rfl
    · intro c first
      obtain rfl : 'm' = c := by simpa using first
      decide

/-! ## The search -/

theorem matchAt_zero_iff : MatchAt metric text 0 digits ↔ digitsHere? metric text = some digits :=
  exists_begins_iff.trans digitsHere?_eq_some_iff.symm

theorem not_matchAt_nil (place : Nat) : ¬ MatchAt metric [] place digits := by
  intro found
  have whole : ([] : List Char).drop place = [] := List.drop_nil
  rw [MatchAt, whole, exists_begins_iff] at found
  obtain ⟨nonempty, -, report⟩ := found
  have empty := List.prefix_nil.mp report
  simp [reportOf] at empty

theorem digits?_cons_of_some {c : Char} (here : digitsHere? metric (c :: text) = some digits) :
    digits? metric (c :: text) = some digits := by
  rw [digits?, here]

theorem digits?_cons_of_none {c : Char} (here : digitsHere? metric (c :: text) = none) :
    digits? metric (c :: text) = digits? metric text := by
  rw [digits?, here]

/-- The search finds nothing exactly when the pattern matches nowhere. -/
theorem digits?_eq_none_iff :
    digits? metric text = none ↔ ∀ place digits, ¬ MatchAt metric text place digits := by
  induction text with
  | nil => simp [digits?, not_matchAt_nil]
  | cons c text ih =>
      cases here : digitsHere? metric (c :: text) with
      | some found =>
          rw [digits?_cons_of_some here]
          constructor
          · intro absent
            cases absent
          · intro absent
            exact absurd (matchAt_zero_iff.mpr here) (absent 0 found)
      | none =>
          rw [digits?_cons_of_none here, ih]
          constructor
          · intro absent place digits
            cases place with
            | zero =>
                rw [matchAt_zero_iff, here]
                simp
            | succ place => exact absent place digits
          · intro absent place digits
            exact absent (place + 1) digits

/-- The search finds the digits of the leftmost match. -/
theorem digits?_eq_some_iff :
    digits? metric text = some digits ↔ ∃ place, Leftmost metric text place digits := by
  induction text with
  | nil =>
      constructor
      · intro found
        cases found
      · rintro ⟨place, leftmost⟩
        exact absurd leftmost.here (not_matchAt_nil place)
  | cons c text ih =>
      cases here : digitsHere? metric (c :: text) with
      | some found =>
          have start : MatchAt metric (c :: text) 0 found := matchAt_zero_iff.mpr here
          rw [digits?_cons_of_some here]
          constructor
          · intro same
            obtain rfl := Option.some.inj same
            exact ⟨0, start, fun earlier before => absurd before (Nat.not_lt_zero earlier)⟩
          · rintro ⟨place, leftmost⟩
            cases place with
            | zero => rw [← here, ← matchAt_zero_iff]; exact leftmost.here
            | succ place => exact absurd start (leftmost.first 0 (Nat.succ_pos place) found)
      | none =>
          have skipped (others : List Char) : ¬ MatchAt metric (c :: text) 0 others := by
            rw [matchAt_zero_iff, here]
            simp
          rw [digits?_cons_of_none here, ih]
          constructor
          · rintro ⟨place, leftmost⟩
            refine ⟨place + 1, leftmost.here, fun earlier before others => ?_⟩
            cases earlier with
            | zero => exact skipped others
            | succ earlier =>
                exact leftmost.first earlier (Nat.lt_of_succ_lt_succ before) others
          · rintro ⟨place, leftmost⟩
            cases place with
            | zero => exact absurd leftmost.here (skipped digits)
            | succ place =>
                exact ⟨place, leftmost.here, fun earlier before others =>
                  leftmost.first (earlier + 1) (Nat.succ_lt_succ before) others⟩

/-! ## The value -/

/-- The number that ASCII digits denote, the last digit being that of the units. -/
def numeral (digits : List Char) : Nat :=
  Nat.ofDigits 10 (digits.reverse.map fun c => c.toNat - '0'.toNat)

/-- Digits that give a reading: ASCII digits of a number of 64 bits. -/
def Legible (digits : List Char) : Prop :=
  (∀ c ∈ digits, c.isDigit) ∧ numeral digits < 2 ^ 64

theorem numeral_concat (digits : List Char) (c : Char) :
    numeral (digits ++ [c]) = 10 * numeral digits + (c.toNat - '0'.toNat) := by
  rw [numeral, List.reverse_append, List.reverse_singleton, List.singleton_append, List.map_cons,
    Nat.ofDigits_cons, Nat.add_comm]
  rfl

theorem foldl_digits_eq_numeral (digits : List Char) :
    digits.foldl (fun n c => 10 * n + (c.toNat - 48)) 0 = numeral digits := by
  induction digits using List.reverseRecOn with
  | nil => rfl
  | append_singleton digits c ih =>
      rw [List.foldl_append, ih, numeral_concat]
      rfl

theorem valueOf_of_legible (legible : Legible digits) : valueOf digits = numeral digits := by
  have ascii : digits.all Char.isDigit = true := List.all_eq_true.mpr legible.1
  have small : numeral digits < limit := legible.2
  simp [valueOf, Text.decimalValue?, ascii, foldl_digits_eq_numeral, small]

theorem valueOf_of_not_legible (illegible : ¬ Legible digits) : valueOf digits = 0 := by
  by_cases ascii : digits.all Char.isDigit = true
  · have large : ¬ numeral digits < limit := fun small =>
      illegible ⟨List.all_eq_true.mp ascii, small⟩
    simp only [valueOf, Text.decimalValue?, if_pos ascii, foldl_digits_eq_numeral, if_neg large]
    rfl
  · simp only [valueOf, Text.decimalValue?, if_neg ascii]
    rfl

/-! ## Readings -/

/-- What a text says about a phase: nothing when the pattern matches nowhere, and otherwise
what the digits of the leftmost match say, which is nothing again when they are not legible. -/
inductive Reads (metric : Metric) (text : List Char) : Nat → Prop
  | unreported (nowhere : ∀ place digits, ¬ MatchAt metric text place digits) :
      Reads metric text 0
  | legible {place : Nat} {digits : List Char} (leftmost : Leftmost metric text place digits)
      (legible : Legible digits) : Reads metric text (numeral digits)
  | illegible {place : Nat} {digits : List Char} (leftmost : Leftmost metric text place digits)
      (illegible : ¬ Legible digits) : Reads metric text 0

theorem reading_of_leftmost {place : Nat} (leftmost : Leftmost metric text place digits) :
    reading text metric = valueOf digits := by
  rw [reading, digits?_eq_some_iff.mpr ⟨place, leftmost⟩]

theorem reading_eq_iff_reads {value : Nat} :
    reading text metric = value ↔ Reads metric text value := by
  constructor
  · rintro rfl
    cases found : digits? metric text with
    | none =>
        rw [reading, found]
        exact .unreported (digits?_eq_none_iff.mp found)
    | some digits =>
        obtain ⟨place, leftmost⟩ := digits?_eq_some_iff.mp found
        rw [reading_of_leftmost leftmost]
        by_cases legible : Legible digits
        · rw [valueOf_of_legible legible]
          exact .legible leftmost legible
        · rw [valueOf_of_not_legible legible]
          exact .illegible leftmost legible
  · intro reads
    cases reads with
    | unreported nowhere => rw [reading, digits?_eq_none_iff.mpr nowhere]; rfl
    | legible leftmost legible => rw [reading_of_leftmost leftmost, valueOf_of_legible legible]
    | illegible leftmost illegible =>
        rw [reading_of_leftmost leftmost, valueOf_of_not_legible illegible]

/-- The readings of an output are those that its leftmost matches give: every phase has one,
and no other one. -/
theorem extract_eq_iff_reads (output : String) (readings : PerMetric Nat) :
    extract output = readings ↔
      ∀ metric, Reads metric output.toList (readings.get metric) := by
  constructor
  · rintro rfl metric
    rw [extract, PerMetric.get_ofFn]
    exact reading_eq_iff_reads.mp rfl
  · intro reads
    apply PerMetric.eq_of_get
    intro metric
    rw [extract, PerMetric.get_ofFn]
    exact reading_eq_iff_reads.mpr (reads metric)

/-- A label that breaks off, digits without a unit and a number that is too long stand before
a match, and an illegible match stands before a legible one. -/
example : extract ("Interpreting took Interpreting took 5s Interpreting took 007ms " ++
      "Generating bytecode took 18446744073709551616ms Generating bytecode took 1ms") =
    ⟨0, 7, 0⟩ := by
  decide +kernel

end PhaseBench.Report
