import PhaseBench.Proofs.Campaign.Failure

/-!
# The two policies

The policies differ only in what a failure does. Recording failures is the same as
stopping at them with an invoker that answers each failure by an empty output
(`run_forgiving`): the zeros that are recorded are what an empty output reads as.
A campaign that stops makes the first calls of the one that goes on, and is the same
campaign when no call fails (`run_abort_cases`).
-/

namespace PhaseBench

universe u

/-- The plan under another policy. -/
def Plan.under (policy : FailurePolicy) (plan : Plan) : Plan := { plan with policy }

/-- An empty output is read as the record of a failure. -/
theorem Report.extract_empty : Report.extract "" = Report.failed := by
  apply PerMetric.eq_of_get
  intro metric
  simp [Report.extract, Report.failed, Report.reading, Report.digits?]

namespace Bench

variable {σ : Type u}

/-- The bench that answers by an empty output where the given one fails; what a call does to
the state is the same. -/
def forgiving (bench : Bench σ) : Bench σ where
  invoker := fun call state =>
    let (reply, next) := bench.invoker call state
    match reply with
    | .ok output => (.ok output, next)
    | .error _ => (.ok "", next)
  tree := bench.tree

/-! ## Recording failures and answering them -/

theorem forgiving_invoker_state (bench : Bench σ) (call : Call) (state : σ) :
    (bench.forgiving.invoker call state).2 = (bench.invoker call state).2 := by
  rcases answer : bench.invoker call state with ⟨reply, next⟩
  cases reply <;> simp [forgiving, answer]

theorem readings_forgiving (bench : Bench σ) (call : Call) (state : σ) :
    readings .abort (bench.forgiving.invoker call state).1 =
      readings .zero (bench.invoker call state).1 := by
  rcases answer : bench.invoker call state with ⟨reply, next⟩
  cases reply with
  | ok output => simp [forgiving, answer, readings]
  | error trace => simp [forgiving, answer, readings, Report.extract_empty]

theorem collectFrom_forgiving (bench : Bench σ) (call : Call) (remaining index : Nat)
    (state : σ) :
    bench.forgiving.collectFrom .abort call remaining index state =
      bench.collectFrom .zero call remaining index state := by
  induction remaining generalizing index state with
  | zero => rfl
  | succ remaining ih =>
      simp only [collectFrom, readings_forgiving, forgiving_invoker_state, ih]

theorem runFiles_forgiving (bench : Bench σ) (plan : Plan) (configuration : Configuration)
    (files : List InputFile) (table : SampleTable) (state : σ) :
    bench.forgiving.runFiles (plan.under .abort) configuration files table state =
      bench.runFiles (plan.under .zero) configuration files table state := by
  induction files generalizing table state with
  | nil => rfl
  | cons file files ih =>
      have cell : bench.forgiving.collect (plan.under .abort) ⟨configuration, file.path⟩ state =
          bench.collect (plan.under .zero) ⟨configuration, file.path⟩ state :=
        collectFrom_forgiving bench _ _ _ _
      simp only [runFiles, cell, ih]

theorem runConfigurations_forgiving (bench : Bench σ) (plan : Plan)
    (configurations : List Configuration) (table : SampleTable) (state : σ) :
    bench.forgiving.runConfigurations (plan.under .abort) configurations table state =
      bench.runConfigurations (plan.under .zero) configurations table state := by
  induction configurations generalizing table state with
  | nil => rfl
  | cons configuration configurations ih =>
      have listing : (bench.forgiving.tree state).inputFiles (plan.under .abort).dir =
          (bench.tree state).inputFiles (plan.under .zero).dir := rfl
      simp only [runConfigurations, listing, runFiles_forgiving, ih]

theorem run_forgiving (bench : Bench σ) (plan : Plan) (state : σ) :
    bench.forgiving.run (plan.under .abort) state = bench.run (plan.under .zero) state :=
  runConfigurations_forgiving bench plan plan.configurations Table.empty state

theorem run?_forgiving (bench : Bench σ) (plan : Plan) (state : σ) :
    bench.forgiving.run? (plan.under .abort) state = bench.run? (plan.under .zero) state := by
  have sameRoom : (plan.under .abort).fits .largest = (plan.under .zero).fits .largest := rfl
  have listing : (bench.forgiving.tree state).inputFiles (plan.under .abort).dir =
      (bench.tree state).inputFiles (plan.under .zero).dir := rfl
  have configurations : (plan.under .abort).configurations = (plan.under .zero).configurations :=
    rfl
  simp only [run?, runIn?, sameRoom, listing, configurations, run_forgiving]

/-! ## Stopping and going on -/

variable {bench : Bench σ} {plan : Plan} {state final : σ} {visits : List Visit}

/-- Which visits can be made does not depend on the policy. -/
theorem Walk.under (policy : FailurePolicy) (walk : bench.Walk plan state visits final) :
    bench.Walk (plan.under policy) state visits final := by
  induction walk with
  | done => exact .done
  | visit listing _ ih => exact .visit listing ih

/-- A campaign that stops at failures is the one that goes on, or its calls end with a
failure among the calls of that one. -/
theorem run_abort_cases (bench : Bench σ) (plan : Plan) (state : σ) :
    bench.run (plan.under .abort) state = bench.run (plan.under .zero) state ∨
      ∃ before call trace,
        bench.Stops .abort (bench.run (plan.under .abort) state).calls state before call trace ∧
        (bench.run (plan.under .abort) state).calls <+:
          (bench.run (plan.under .zero) state).calls := by
  obtain ⟨visits, final, rest, walk, split, ends⟩ :=
    exists_walk bench plan plan.configurations state
  have recording := run_of_goesOn (walk.under .zero) rest split.symm (goesOn_zero _)
  rcases bench.goesOn_or_stops .abort (visitCalls plan.runs visits) state with
    onward | ⟨before, call, trace, stop⟩
  · left
    rw [run_of_goesOn (walk.under .abort) rest split.symm onward, recording]
    -- What remains is nothing or begins with a listing that fails.
    cases rest with
    | nil => rfl
    | cons configuration rest =>
        obtain ⟨trace, failure⟩ := ends (by simp)
        have stopping : (bench.tree final).inputFiles (plan.under .abort).dir = .error trace :=
          failure
        have going : (bench.tree final).inputFiles (plan.under .zero).dir = .error trace := failure
        simp only [runConfigurations, stopping, going]
        rfl
  · right
    have stopped := run_of_stops (walk.under .abort) ⟨rest, split.symm⟩ stop
    refine ⟨before, call, trace, ?_, ?_⟩
    · rw [stopped]
      exact stop.own
    · rw [stopped, recording]
      exact stop.isPrefix.trans (List.prefix_append _ _)

end Bench

/-- The policies differ only in what a failure does. -/
theorem policies_differ_in_failures_only {σ : Type u} (bench : Bench σ) (plan : Plan)
    (state : σ) :
    -- Recording failures is stopping at those of an invoker that has none.
    bench.run (plan.under .zero) state = bench.forgiving.run (plan.under .abort) state ∧
    bench.run? (plan.under .zero) state = bench.forgiving.run? (plan.under .abort) state ∧
    -- Whether there is room for the samples does not depend on the policy.
    (bench.run? (plan.under .abort) state = none ↔ bench.run? (plan.under .zero) state = none) ∧
    (∀ policy outcome, bench.run? (plan.under policy) state = some outcome →
      outcome = bench.run (plan.under policy) state) ∧
    -- Stopping makes the first calls of going on.
    (bench.run (plan.under .abort) state).calls <+: (bench.run (plan.under .zero) state).calls ∧
    -- Without a failure the campaigns are the same.
    ((∀ exchange ∈ bench.replay (bench.run (plan.under .abort) state).calls state,
        exchange.failed = false) →
      bench.run (plan.under .abort) state = bench.run (plan.under .zero) state) := by
  refine ⟨(bench.run_forgiving plan state).symm, (bench.run?_forgiving plan state).symm, ?_,
    fun _ _ => Bench.eq_run_of_run?, ?_, ?_⟩
  · rw [Bench.run?_eq_none_iff, Bench.run?_eq_none_iff]
    rfl
  · rcases bench.run_abort_cases plan state with same | ⟨before, call, trace, -, isPrefix⟩
    · rw [same]
    · exact isPrefix
  · intro quiet
    rcases bench.run_abort_cases plan state with same | ⟨before, call, trace, stop, -⟩
    · exact same
    · exact absurd (fun _ => quiet) stop.not_goesOn

/-- Only the second call of the sample invoker fails. -/
theorem Sample.replay_quiet (calls : List Call) (files : Tree) {number : Nat} (late : 3 ≤ number) :
    ∀ exchange ∈ Sample.bench.replay calls (files, number), exchange.failed = false := by
  induction calls generalizing number with
  | nil => exact fun _ member => absurd member (by simp)
  | cons call calls ih =>
      obtain ⟨later, rfl⟩ := Nat.exists_eq_add_of_le' late
      intro exchange member
      rw [Bench.replay_cons, List.mem_cons] at member
      rcases member with rfl | member
      · rfl
      · exact ih (Nat.le_succ_of_le late) exchange member

/-- After the failing call the sample campaign is the same under both policies. -/
theorem policies_differ_in_failures_only_later :
    (∀ exchange ∈ Sample.bench.replay
        (Sample.bench.run ((Sample.plan .zero).under .abort) (Sample.tree, 3)).calls
        (Sample.tree, 3), exchange.failed = false) ∧
      Sample.bench.run ((Sample.plan .zero).under .abort) (Sample.tree, 3) =
        Sample.bench.run ((Sample.plan .zero).under .zero) (Sample.tree, 3) := by
  have quiet := Sample.replay_quiet
    (Sample.bench.run ((Sample.plan .zero).under .abort) (Sample.tree, 3)).calls Sample.tree
    (Nat.le_refl 3)
  obtain ⟨-, -, -, -, -, same⟩ :=
    policies_differ_in_failures_only Sample.bench (Sample.plan .zero) (Sample.tree, 3)
  exact ⟨quiet, same quiet⟩

end PhaseBench
