import PhaseBench.Report
import PhaseBench.Table.Summary
import PhaseBench.Tree.InputFiles

/-!
# Campaigns

A campaign walks all configurations and, for each, all input files, and runs the
benchmarked program the same number of times on every pair. The invoker is a
parameter: it answers with the output of the program or with a failure, and it
may change the state that the input files are listed from.

Every function gives, beside its result, the calls that were made and the state
they left.
-/

namespace PhaseBench

universe u

/-- What to do when a run fails. -/
inductive FailurePolicy
  /-- Stop the campaign. -/
  | abort
  /-- Record zeros and go on. -/
  | zero
deriving DecidableEq

/-! ## Plans -/

/-- The first configuration that occurs among those before it. -/
def firstRepeated? : (seen rest : List Configuration) → Option Configuration
  | _, [] => none
  | seen, configuration :: rest =>
    if configuration ∈ seen then some configuration
    else firstRepeated? (seen ++ [configuration]) rest

theorem nodup_of_firstRepeated?_eq_none {seen rest : List Configuration} (distinct : seen.Nodup)
    (h : firstRepeated? seen rest = none) : (seen ++ rest).Nodup := by
  induction rest generalizing seen with
  | nil => simpa using distinct
  | cons configuration rest ih =>
    unfold firstRepeated? at h
    split at h
    · cases h
    · next fresh =>
      have longer : (seen ++ [configuration]).Nodup := by
        rw [List.nodup_append]
        refine ⟨distinct, by simp, ?_⟩
        intro a ha b hb hab
        simp only [List.mem_singleton] at hb
        exact fresh (hb ▸ hab ▸ ha)
      simpa using ih longer h

/-- The memory in which samples are kept. -/
structure Memory where
  /-- The greatest number of samples that a series has room for. -/
  room : Nat
  /-- A sample takes eight bytes, and a series takes less than 2^63 of them. -/
  bounded : room < Nat.pow 2 60

/-- The memory in which every series has room that can be asked for at all. -/
def Memory.largest : Memory := ⟨Nat.pow 2 60 - 1, by decide⟩

/-- A campaign that can be run: every configuration occurs once and there is at least one
run. -/
structure Plan where
  configurations : List Configuration
  dir : String
  runs : Nat
  policy : FailurePolicy
  distinct : configurations.Nodup
  runs_pos : 0 < runs

namespace Plan

/-- The plan of the given settings. The number of runs is checked first. -/
def make (configurations : List Configuration) (dir : String) (runs : Nat)
    (policy : FailurePolicy) : Except Cause Plan :=
  if runs_eq : runs = 0 then .error .noRuns
  else
    match repeated : firstRepeated? [] configurations with
    | some configuration => .error (.repeated configuration)
    | none => .ok {
        configurations, dir, runs, policy
        distinct := by simpa using nodup_of_firstRepeated?_eq_none List.nodup_nil repeated
        runs_pos := Nat.pos_of_ne_zero runs_eq }

/-- Holds when the samples of a cell can be kept. -/
def fits (plan : Plan) (memory : Memory) : Bool := plan.runs ≤ memory.room

/-- The feature sets that are benchmarked when none are given. -/
def standardConfigurations : List Configuration :=
  [⟨"PushAdd"⟩, ⟨"AssignPushAdd,PushAdd"⟩, ⟨"AssignPushAdd,PushAdd,PushAssign"⟩, ⟨""⟩]

/-- The directory of input files when none is given. -/
def standardDir : String := "./benchmarks"

/-- The number of runs when none is given. -/
def standardRuns : Nat := 10

end Plan

/-! ## Running -/

/-- One call of the benchmarked program. -/
structure Call where
  configuration : Configuration
  path : String
deriving DecidableEq

/-- How the benchmarked program is called: from a state to its output or a failure, and to
the state after the call. -/
abbrev Invoker (σ : Type u) := Call → σ → Except Trace String × σ

/-- A result, the calls that were made for it and the state they left. -/
structure Outcome (σ : Type u) (α : Type) where
  result : Except Trace α
  calls : List Call
  state : σ

/-- What a campaign runs on: the invoker and the files that a state holds. -/
structure Bench (σ : Type u) where
  invoker : Invoker σ
  tree : σ → Tree

namespace Bench

variable {σ : Type u}

/-- The readings of a run: those of its output, or zeros where a failure is recorded. -/
def readings (policy : FailurePolicy) : Except Trace String → Except Trace (PerMetric Nat)
  | .ok output => .ok (Report.extract output)
  | .error trace =>
    match policy with
    | .abort => .error trace
    | .zero => .ok Report.failed

/-- Puts the readings of a run before the samples of the later runs. -/
def prepend (readings : PerMetric Nat) (samples : PerMetric (List Nat)) :
    PerMetric (List Nat) :=
  PerMetric.ofFn fun metric => readings.get metric :: samples.get metric

/-- Makes the remaining runs of a cell, the next of which has the given index. -/
def collectFrom (bench : Bench σ) (policy : FailurePolicy) (call : Call) :
    (remaining index : Nat) → σ → Outcome σ (PerMetric (List Nat))
  | 0, _, state => ⟨.ok (PerMetric.ofFn fun _ => []), [], state⟩
  | remaining + 1, index, state =>
    let (reply, state) := bench.invoker call state
    match readings policy reply with
    | .error trace => ⟨.error (trace.within (.run index)), [call], state⟩
    | .ok readings =>
      let rest := bench.collectFrom policy call remaining (index + 1) state
      ⟨rest.result.map (prepend readings), call :: rest.calls, rest.state⟩

/-- Makes all runs of a cell. -/
def collect (bench : Bench σ) (plan : Plan) (call : Call) (state : σ) :
    Outcome σ (PerMetric (List Nat)) :=
  bench.collectFrom plan.policy call plan.runs 0 state

/-- Runs a configuration on the remaining input files, adding the cells to a table. -/
def runFiles (bench : Bench σ) (plan : Plan) (configuration : Configuration) :
    List InputFile → SampleTable → σ → Outcome σ SampleTable
  | [], table, state => ⟨.ok table, [], state⟩
  | file :: files, table, state =>
    let cell := bench.collect plan ⟨configuration, file.path⟩ state
    match cell.result with
    | .error trace => ⟨.error (trace.within (.cell configuration file.path)), cell.calls, cell.state⟩
    | .ok samples =>
      let rest := bench.runFiles plan configuration files
        (table.insert configuration file.name (samples.map some)) cell.state
      { rest with calls := cell.calls ++ rest.calls }

/-- Runs the remaining configurations. The input files are listed anew for each. -/
def runConfigurations (bench : Bench σ) (plan : Plan) :
    List Configuration → SampleTable → σ → Outcome σ SampleTable
  | [], table, state => ⟨.ok table, [], state⟩
  | configuration :: configurations, table, state =>
    match (bench.tree state).inputFiles plan.dir with
    | .error trace => ⟨.error (trace.within .inputFiles), [], state⟩
    | .ok files =>
      let here := bench.runFiles plan configuration files (table.touch configuration) state
      match here.result with
      | .error trace => { here with result := .error trace }
      | .ok table =>
        let rest := bench.runConfigurations plan configurations table here.state
        { rest with calls := here.calls ++ rest.calls }

/-- Runs the whole campaign. -/
def run (bench : Bench σ) (plan : Plan) (state : σ) : Outcome σ SampleTable :=
  bench.runConfigurations plan plan.configurations Table.empty state

/-! ## Room for samples -/

/-- Makes all runs of a cell, nothing when its samples are too many for any memory. -/
def collect? (bench : Bench σ) (plan : Plan) (call : Call) (state : σ) :
    Option (Outcome σ (PerMetric (List Nat))) :=
  if plan.fits .largest then some (bench.collect plan call state) else none

/-- Runs the whole campaign, nothing when there is a cell and the memory has no room for its
samples. Room is made before the first call of a cell, so no call changes what the first
configuration finds. -/
def runIn? (bench : Bench σ) (memory : Memory) (plan : Plan) (state : σ) :
    Option (Outcome σ SampleTable) :=
  match plan.configurations, (bench.tree state).inputFiles plan.dir with
  | _ :: _, .ok (_ :: _) => if plan.fits memory then some (bench.run plan state) else none
  | _, _ => some (bench.run plan state)

/-- Runs the whole campaign, nothing when there is a cell and its samples are too many for any
memory. -/
def run? (bench : Bench σ) (plan : Plan) (state : σ) : Option (Outcome σ SampleTable) :=
  bench.runIn? .largest plan state

end Bench

end PhaseBench
