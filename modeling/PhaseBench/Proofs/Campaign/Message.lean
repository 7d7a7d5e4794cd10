import PhaseBench.Proofs.Campaign.Failure
import PhaseBench.Proofs.Report.Leftmost
import PhaseBench.Proofs.Text.Numeral
import PhaseBench.Proofs.Text.Quotation

/-!
# The message of a failed call

A campaign that stops at a call names it in one line: the label of the configuration and the
path of the file, both quoted, the number of the run, and what the invoker said. A quoted text
ends where it seems to end and a number ends before a colon, so the four parts are read back
from the line (`FailedCall.read?_line`) whatever the label, the path and the inner message are.
`failures_told_apart` says this of campaigns: two of them give the same line only when they
stopped at the same run of the same cell with the same inner message.
-/

namespace PhaseBench

universe u v

/-! ## The parts of a message -/

/-- What the message of a failed call names. -/
structure FailedCall where
  label : String
  path : String
  /-- The number of the run in its cell. -/
  index : Nat
  /-- What the invoker said. -/
  inner : String

namespace FailedCall

/-- The message before the part that comes from the invoker. -/
def heading (failed : FailedCall) : String :=
  "bench " ++ Text.quote failed.label ++ " on " ++ Text.quote failed.path ++ ": run " ++
    Text.decimal failed.index ++ ": "

/-- Reads a message from left to right. -/
def read? (line : String) : Option FailedCall := do
  let rest ← Report.after? "bench ".toList line.toList
  let (label, rest) ← Text.readQuoted? rest
  let rest ← Report.after? " on ".toList rest
  let (path, rest) ← Text.readQuoted? rest
  let rest ← Report.after? ": run ".toList rest
  let index ← Text.decimalValue? (rest.takeWhile Char.isDigit)
  let inner ← Report.after? ": ".toList (rest.dropWhile Char.isDigit)
  return ⟨label, path, index, String.ofList inner⟩

theorem toList_heading_append (failed : FailedCall) (inner : String) :
    (failed.heading ++ inner).toList =
      "bench ".toList ++ ((Text.quote failed.label).toList ++ (" on ".toList ++
        ((Text.quote failed.path).toList ++ (": run ".toList ++
          (Nat.toDigits 10 failed.index ++ (": ".toList ++ inner.toList)))))) := by
  simp only [heading, Text.decimal, String.toList_append, String.toList_ofList,
    List.append_assoc]

/-- The number of the run is read up to the colon behind it. -/
theorem takeWhile_isDigit_toDigits (n : Nat) (rest : List Char) :
    (Nat.toDigits 10 n ++ (": ".toList ++ rest)).takeWhile Char.isDigit = Nat.toDigits 10 n ∧
      (Nat.toDigits 10 n ++ (": ".toList ++ rest)).dropWhile Char.isDigit = ": ".toList ++ rest := by
  have digits : ∀ c ∈ Nat.toDigits 10 n, c.isDigit := fun c member =>
    isDigit_of_mem_toDigits member
  have colon : ": ".toList ++ rest = ':' :: ' ' :: rest := rfl
  constructor
  · rw [List.takeWhile_append_of_pos digits, colon, List.takeWhile_cons_of_neg (by decide),
      List.append_nil]
  · rw [List.dropWhile_append_of_pos digits, colon, List.dropWhile_cons_of_neg (by decide)]

theorem read?_heading_append (failed : FailedCall) :
    read? (failed.heading ++ failed.inner) = some failed := by
  obtain ⟨numeral, behind⟩ := takeWhile_isDigit_toDigits failed.index failed.inner.toList
  simp only [read?, toList_heading_append, Report.after?_append, Text.readQuoted?_quote,
    Option.bind_eq_bind, Option.bind_some, numeral, behind, decimalValue?_toDigits,
    String.ofList_toList]
  rfl

/-- The message of a failed call, with the steps that a campaign adds to what the invoker said. -/
theorem line_eq (configuration : Configuration) (path : String) (index : Nat) (trace : Trace) :
    ((trace.within (.run index)).within (.cell configuration path)).line =
      (⟨configuration.label, path, index, trace.line⟩ : FailedCall).heading ++ trace.line := by
  rw [Trace.line_cell, heading]

theorem read?_line (configuration : Configuration) (path : String) (index : Nat) (trace : Trace) :
    read? ((trace.within (.run index)).within (.cell configuration path)).line =
      some ⟨configuration.label, path, index, trace.line⟩ := by
  rw [line_eq]
  exact read?_heading_append ⟨configuration.label, path, index, trace.line⟩

theorem isPrintable_of_mem_heading {failed : FailedCall} {c : Char}
    (member : c ∈ failed.heading.toList) : Text.isPrintable c = true := by
  simp only [heading, String.toList_append, List.mem_append] at member
  rcases member with (((((bench | label) | on) | path) | run) | index) | colon
  · exact List.all_eq_true.mp (by decide) c bench
  · exact Text.isPrintable_of_mem_quote label
  · exact List.all_eq_true.mp (by decide) c on
  · exact Text.isPrintable_of_mem_quote path
  · exact List.all_eq_true.mp (by decide) c run
  · rw [Text.decimal, String.toList_ofList] at index
    exact Text.isPrintable_of_mem_toDigits (by decide) (by decide) index
  · exact List.all_eq_true.mp (by decide) c colon

end FailedCall

/-! ## Campaigns that stop at a call -/

namespace Bench

variable {σ : Type u} {bench : Bench σ} {plan : Plan} {state : σ}

/-- The campaign stopped at the first call that failed: which one that was, by its cell, the
number of earlier calls of the cell and what the invoker said, and the line that the campaign
gives for it. -/
inductive StopsNaming (bench : Bench σ) (plan : Plan) (state : σ) : FailedCall → String → Prop
  | intro {outcome : Outcome σ SampleTable} {k : Nat} {call : Call} {trace failure : Trace} :
      plan.policy = .abort →
      bench.run? plan state = some outcome →
      FirstFailure (bench.replay outcome.calls state) k call trace →
      outcome.result = .error failure →
      StopsNaming bench plan state
        ⟨call.configuration.label, call.path, (outcome.calls.take k).count call, trace.line⟩
        failure.line

/-- The failure of a campaign whose log has one. -/
theorem exists_failure_of_firstFailure (stopping : plan.policy = .abort) {k : Nat} {call : Call}
    {trace : Trace}
    (own : FirstFailure (bench.replay (bench.run plan state).calls state) k call trace) :
    ∃ failure, (bench.run plan state).result = .error failure ∧
      failure.line = (⟨call.configuration.label, call.path,
        ((bench.run plan state).calls.take k).count call, trace.line⟩ : FailedCall).heading ++
          trace.line := by
  obtain ⟨visits, final, walk, isPrefix, made⟩ := bench.exists_walk_calls_prefix plan state
  have longer : bench.replay _ state <+: bench.replay _ state := replay_prefix made
  obtain ⟨callsEq, -, failure, result, line⟩ := run_of_firstFailure stopping walk isPrefix
    (own.of_prefix longer)
  refine ⟨failure, result, ?_⟩
  rw [line, callsEq, List.take_take, Nat.min_eq_left (Nat.le_succ k), FailedCall.heading]

theorem StopsNaming.line_eq {failed : FailedCall} {line : String}
    (stops : bench.StopsNaming plan state failed line) : line = failed.heading ++ failed.inner := by
  obtain ⟨stopping, returned, first, result⟩ := stops
  obtain rfl := eq_run_of_run? returned
  obtain ⟨failure, same, spelled⟩ := exists_failure_of_firstFailure stopping first
  rw [result] at same
  rw [Except.error.inj same, spelled]

theorem StopsNaming.read?_eq {failed : FailedCall} {line : String}
    (stops : bench.StopsNaming plan state failed line) : FailedCall.read? line = some failed := by
  rw [stops.line_eq]
  exact failed.read?_heading_append

end Bench

/-- The line of a failed call tells which call it was: its parts are read back from it, and
before the part of the invoker it has no line break and no other control. -/
theorem failures_told_apart :
    -- Whatever the label, the path and the inner message are, they are read back.
    (∀ (configuration : Configuration) (path : String) (index : Nat) (trace : Trace),
      FailedCall.read? ((trace.within (.run index)).within (.cell configuration path)).line =
        some ⟨configuration.label, path, index, trace.line⟩ ∧
      ((trace.within (.run index)).within (.cell configuration path)).line =
        (⟨configuration.label, path, index, trace.line⟩ : FailedCall).heading ++ trace.line) ∧
    (∀ failed : FailedCall, ∀ c ∈ failed.heading.toList,
      Text.isControl c = false ∧ c ≠ '\u2028' ∧ c ≠ '\u2029') ∧
    Function.Injective Configuration.display ∧
    -- A campaign that meets a failing call gives such a line.
    (∀ (σ : Type u) (bench : Bench σ) (plan : Plan) (state : σ) (outcome : Outcome σ SampleTable)
      (k : Nat) (call : Call) (trace : Trace), plan.policy = .abort →
      bench.run? plan state = some outcome →
      FirstFailure (bench.replay outcome.calls state) k call trace →
      ∃ line, bench.StopsNaming plan state
        ⟨call.configuration.label, call.path, (outcome.calls.take k).count call, trace.line⟩
        line) ∧
    (∀ (σ : Type u) (bench : Bench σ) (plan : Plan) (state : σ) (failed : FailedCall)
      (line : String), bench.StopsNaming plan state failed line →
      FailedCall.read? line = some failed ∧ line = failed.heading ++ failed.inner) ∧
    -- Two campaigns give one line only for one call.
    (∀ (σ : Type u) (τ : Type v) (bench : Bench σ) (other : Bench τ) (plan plan' : Plan)
      (state : σ) (state' : τ) (failed failed' : FailedCall) (line line' : String),
      bench.StopsNaming plan state failed line → other.StopsNaming plan' state' failed' line' →
      (line = line' ↔ failed = failed')) := by
  refine ⟨?_, ?_, ?_, ?_, ?_, ?_⟩
  · intro configuration path index trace
    exact ⟨FailedCall.read?_line .., FailedCall.line_eq ..⟩
  · intro failed c member
    have printable := FailedCall.isPrintable_of_mem_heading member
    exact ⟨Text.isControl_eq_false_of_isPrintable printable,
      Text.ne_separator_of_isPrintable printable⟩
  · rintro ⟨a⟩ ⟨b⟩ same
    exact congrArg Configuration.mk (Text.quote_injective same)
  · intro σ bench plan state outcome k call trace stopping returned first
    obtain rfl := Bench.eq_run_of_run? returned
    obtain ⟨failure, result, -⟩ := Bench.exists_failure_of_firstFailure stopping first
    exact ⟨failure.line, .intro stopping returned first result⟩
  · intro σ bench plan state failed line stops
    exact ⟨stops.read?_eq, stops.line_eq⟩
  · intro σ τ bench other plan plan' state state' failed failed' line line' stops stops'
    constructor
    · intro same
      have read := stops.read?_eq
      rw [same, stops'.read?_eq] at read
      exact (Option.some_inj.mp read).symm
    · rintro rfl
      rw [stops.line_eq, stops'.line_eq]

namespace Sample

/-- One run of one configuration. -/
def once (label : String) : Plan where
  configurations := [⟨label⟩]
  dir := "d"
  runs := 1
  policy := .abort
  distinct := by simp
  runs_pos := by decide

theorem calls_once (label : String) :
    (failing.run (once label) tree).calls = [⟨⟨label⟩, "d/a"⟩] := by
  have walk : failing.Walk (once label) tree
      [⟨⟨label⟩, [⟨"a", "d/a"⟩, ⟨"b", "d/b"⟩]⟩] tree := .visit inputFiles_tree .done
  have first : FirstFailure (failing.replay (visitCalls 1
      [⟨⟨label⟩, [⟨"a", "d/a"⟩, ⟨"b", "d/b"⟩]⟩]) tree) 0 ⟨⟨label⟩, "d/a"⟩
      (.ofCause (.reported "boom")) := ⟨rfl, by simp⟩
  rw [(Bench.run_of_firstFailure rfl walk List.prefix_rfl first).1]
  rfl

theorem firstFailure_once (label : String) :
    FirstFailure (failing.replay (failing.run (once label) tree).calls tree) 0
      ⟨⟨label⟩, "d/a"⟩ (.ofCause (.reported "boom")) := by
  rw [calls_once]
  exact ⟨rfl, by simp⟩

end Sample

/-- A label that looks like the rest of the message names another call all the same. -/
theorem failures_told_apart_hostile :
    ∃ line line',
      Sample.failing.StopsNaming (Sample.once "A") Sample.tree ⟨"A", "d/a", 0, "boom"⟩ line ∧
      Sample.failing.StopsNaming (Sample.once "A\" on \"d/a\": run 0: ") Sample.tree
        ⟨"A\" on \"d/a\": run 0: ", "d/a", 0, "boom"⟩ line' ∧
      FailedCall.read? line = some ⟨"A", "d/a", 0, "boom"⟩ ∧ line ≠ line' := by
  obtain ⟨-, -, -, gives, reads, apart⟩ := failures_told_apart.{0, 0}
  have stops (label : String) : ∃ line, Sample.failing.StopsNaming (Sample.once label) Sample.tree
      ⟨label, "d/a", 0, "boom"⟩ line :=
    gives _ _ _ _ _ _ _ _ rfl (Bench.run?_of_fits (show 1 < 2 ^ 60 by decide))
      (Sample.firstFailure_once label)
  obtain ⟨line, plain⟩ := stops "A"
  obtain ⟨line', hostile⟩ := stops "A\" on \"d/a\": run 0: "
  refine ⟨line, line', plain, hostile, (reads _ _ _ _ _ _ plain).1, ?_⟩
  rw [ne_eq, apart _ _ _ _ _ _ _ _ _ _ _ _ plain hostile]
  simp

end PhaseBench
