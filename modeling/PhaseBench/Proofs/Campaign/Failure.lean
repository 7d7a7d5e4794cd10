import PhaseBench.Proofs.Campaign.Record

/-!
# How a campaign fails

A campaign gives no result at all where the memory has no room for its samples
(`runIn?_eq_none_iff`). Any other succeeds exactly when the directory can be listed for
every configuration and, where the policy is to stop, no call failed. When it fails,
its message says where: it names the cell of the first failing call and the number of
the run in that cell, or the directory that could not be listed. Where failures are
recorded as zeros, only a listing can fail, and no failing call shortens the walk.
`Fails` gives the two causes of a failure without the campaign (`run_error_iff`).
-/

namespace PhaseBench

universe u

/-! ## Messages -/

theorem Trace.line_within (step : Step) (trace : Trace) :
    (trace.within step).line = step.message ++ ": " ++ trace.line := by
  have some_message : trace.messages ≠ [] := by simp [Trace.messages]
  exact String.intercalate_cons_of_ne_nil some_message

/-- The message of a call that failed: the cell, the number of the run in it, and what the
invoker said. -/
theorem Trace.line_cell (configuration : Configuration) (path : String) (index : Nat)
    (trace : Trace) :
    ((trace.within (.run index)).within (.cell configuration path)).line =
      "bench " ++ Text.quote configuration.label ++ " on " ++ Text.quote path ++
        ": run " ++ Text.decimal index ++ ": " ++ trace.line := by
  rw [Trace.line_within, Trace.line_within]
  simp only [Step.message, Configuration.display, String.append_assoc]
  rfl

theorem Trace.line_listing (dir : String) (cause : Cause) :
    (⟨[.inputFiles, .readDirectory dir], cause⟩ : Trace).line =
      "input files: read dir " ++ Text.quote dir ++ ": " ++ cause.message := by
  have outer := Trace.line_within .inputFiles ⟨[.readDirectory dir], cause⟩
  have inner := Trace.line_within (.readDirectory dir) ⟨[], cause⟩
  rw [show (⟨[.inputFiles, .readDirectory dir], cause⟩ : Trace) =
    (⟨[.readDirectory dir], cause⟩ : Trace).within .inputFiles from rfl, outer]
  rw [show (⟨[.readDirectory dir], cause⟩ : Trace) =
    (⟨[], cause⟩ : Trace).within (.readDirectory dir) from rfl, inner]
  simp only [Step.message, Trace.line, Trace.messages, List.map_nil, List.nil_append,
    String.intercalate_singleton, ← String.append_assoc]
  rfl

/-! ## Room for samples -/

theorem Plan.fits_iff {plan : Plan} {memory : Memory} :
    plan.fits memory = true ↔ plan.runs ≤ memory.room := by
  rw [Plan.fits, decide_eq_true_iff]

theorem Memory.room_largest : Memory.largest.room = 2 ^ 60 - 1 := rfl

/-! ## The first failure of a log -/

/-- Exchange number `k` of a log is the first that failed: that of `call`, with `trace`. -/
structure FirstFailure (log : List Exchange) (k : Nat) (call : Call) (trace : Trace) : Prop where
  here : log[k]? = some ⟨call, .error trace⟩
  earlier : ∀ exchange ∈ log.take k, exchange.failed = false

theorem FirstFailure.of_prefix {log longer : List Exchange} {k : Nat} {call : Call}
    {trace : Trace} (first : FirstFailure log k call trace) (isPrefix : log <+: longer) :
    FirstFailure longer k call trace := by
  obtain ⟨rest, rfl⟩ := isPrefix
  obtain ⟨bound, -⟩ := List.getElem?_eq_some_iff.mp first.here
  refine ⟨?_, ?_⟩
  · rw [List.getElem?_append_left bound]
    exact first.here
  · rw [List.take_append_of_le_length bound.le]
    exact first.earlier

namespace Bench

variable {σ : Type u} {bench : Bench σ} {plan : Plan} {state final : σ} {visits : List Visit}

theorem replay_prefix {calls longer : List Call} (isPrefix : calls <+: longer) :
    bench.replay calls state <+: bench.replay longer state := by
  obtain ⟨rest, rfl⟩ := isPrefix
  rw [replay_append]
  exact List.prefix_append _ _

theorem stops_of_firstFailure {calls : List Call} {k : Nat} {call : Call} {trace : Trace}
    (first : FirstFailure (bench.replay calls state) k call trace) :
    bench.Stops .abort calls state (calls.take k) call trace := by
  obtain ⟨bound, -⟩ := List.getElem?_eq_some_iff.mp first.here
  rw [length_replay] at bound
  -- Cut the log before the failing call and compare it with its replay there.
  have cut : calls = calls.take k ++ calls[k] :: calls.drop (k + 1) := by
    rw [← List.drop_eq_getElem_cons bound, List.take_append_drop]
  have length : (bench.replay (calls.take k) state).length = k := by
    rw [length_replay, List.length_take, Nat.min_eq_left bound.le]
  have replayed : bench.replay calls state = bench.replay (calls.take k) state ++
      ⟨calls[k], (bench.invoker calls[k] (bench.after (calls.take k) state)).1⟩ ::
        bench.replay (calls.drop (k + 1))
          (bench.invoker calls[k] (bench.after (calls.take k) state)).2 := by
    conv_lhs => rw [cut]
    rw [replay_append, replay_cons]
  obtain ⟨here, earlier⟩ := first
  rw [replayed, List.getElem?_append_right length.le, length, Nat.sub_self,
    List.getElem?_cons_zero, Option.some.injEq, Exchange.mk.injEq] at here
  rw [replayed, List.take_append_of_le_length length.ge,
    List.take_of_length_le length.le] at earlier
  obtain ⟨callEq, failure⟩ := here
  rw [callEq] at cut failure
  refine ⟨rfl, ⟨calls.drop (k + 1), ?_⟩, earlier, failure⟩
  rw [List.append_assoc, List.singleton_append]
  exact cut.symm

/-! ## Walks -/

/-- A walk is determined by the configurations: a longer one goes on where a shorter one
ends. -/
theorem Walk.split {longer : List Visit} {last : σ} (walk : bench.Walk plan state visits final)
    (whole : bench.Walk plan state longer last) {rest : List Configuration}
    (isPrefix : longer.map (·.configuration) = visits.map (·.configuration) ++ rest) :
    ∃ later, longer = visits ++ later ∧ bench.Walk plan final later last := by
  induction walk generalizing longer with
  | done => exact ⟨longer, rfl, whole⟩
  | @visit state final visit visits listing _ ih =>
      cases whole with
      | done => exact absurd isPrefix (by simp)
      | @visit _ _ other others listed onward =>
          simp only [List.map_cons, List.cons_append, List.cons.injEq] at isPrefix
          have sameFiles : other.files = visit.files := by
            rw [listing] at listed
            exact (Except.ok.inj listed).symm
          obtain rfl : other = visit := by
            cases other
            cases visit
            simp_all
          obtain ⟨later, rfl, rest⟩ := ih onward isPrefix.2
          exact ⟨later, rfl, rest⟩

/-- The calls of a campaign are made in the order of a walk along the first
configurations. -/
theorem exists_walk_calls_prefix (bench : Bench σ) (plan : Plan) (state : σ) :
    ∃ visits final, bench.Walk plan state visits final ∧
      visits.map (·.configuration) <+: plan.configurations ∧
      (bench.run plan state).calls <+: visitCalls plan.runs visits := by
  obtain ⟨visits, final, walk, course⟩ := bench.run_course plan state
  refine ⟨visits, final, walk, ?_⟩
  generalize bench.run plan state = outcome at course
  cases course with
  | completed visited _ => exact ⟨visited ▸ List.prefix_rfl, List.prefix_rfl⟩
  | unlisted split _ _ => exact ⟨⟨_, split⟩, List.prefix_rfl⟩
  | stopped isPrefix stop => exact ⟨isPrefix, stop.isPrefix⟩

/-! ## Success and failure -/

/-- Holds when the memory has no room for the samples of a cell and there is a cell: a
configuration, and a file when it is started. -/
def Crowded (bench : Bench σ) (memory : Memory) (plan : Plan) (state : σ) : Prop :=
  plan.configurations ≠ [] ∧ memory.room < plan.runs ∧
    ∃ file files, (bench.tree state).inputFiles plan.dir = .ok (file :: files)

section Room

variable {memory : Memory}

/-- Where there is room for the samples, the campaign is the one that was run. -/
theorem eq_run_of_runIn? {outcome : Outcome σ SampleTable}
    (returned : bench.runIn? memory plan state = some outcome) :
    outcome = bench.run plan state := by
  unfold runIn? at returned
  split at returned
  · split at returned
    · exact (Option.some.inj returned).symm
    · cases returned
  · exact (Option.some.inj returned).symm

theorem eq_run_of_run? {outcome : Outcome σ SampleTable}
    (returned : bench.run? plan state = some outcome) : outcome = bench.run plan state :=
  eq_run_of_runIn? returned

/-- Nothing but the number of samples keeps a campaign from ending. -/
theorem runIn?_eq_none_iff :
    bench.runIn? memory plan state = none ↔ bench.Crowded memory plan state := by
  unfold runIn? Crowded
  split
  · next configuration configurations file files split listing =>
      by_cases room : plan.runs ≤ memory.room
      · rw [if_pos (Plan.fits_iff.mpr room)]
        refine ⟨fun absent => absurd absent (by simp), ?_⟩
        rintro ⟨-, crowded, -⟩
        omega
      · rw [if_neg (mt Plan.fits_iff.mp room)]
        refine ⟨fun _ => ?_, fun _ => rfl⟩
        exact ⟨by simp [split], Nat.lt_of_not_le room, file, files, listing⟩
  · next other =>
      refine ⟨fun absent => absurd absent (by simp), ?_⟩
      rintro ⟨nonempty, -, file, files, listing⟩
      obtain ⟨configuration, rest, split⟩ := List.exists_cons_of_ne_nil nonempty
      exact absurd listing (other configuration rest file files split)

theorem run?_eq_none_iff :
    bench.run? plan state = none ↔ bench.Crowded .largest plan state :=
  runIn?_eq_none_iff

/-- Where there is room for the samples, the campaign ends. -/
theorem run?_of_fits (room : plan.runs < 2 ^ 60) :
    bench.run? plan state = some (bench.run plan state) := by
  cases returned : bench.run? plan state with
  | none =>
      obtain ⟨-, crowded, -⟩ := run?_eq_none_iff.mp returned
      rw [Memory.room_largest] at crowded
      omega
  | some outcome => rw [eq_run_of_run? returned]

end Room

theorem run_ok_iff (bench : Bench σ) (plan : Plan) (state : σ) :
    (∃ table, (bench.run plan state).result = .ok table) ↔
      (∃ visits final, bench.Walk plan state visits final ∧
        visits.map (·.configuration) = plan.configurations) ∧
      (plan.policy = .abort →
        ∀ exchange ∈ bench.replay (bench.run plan state).calls state,
          exchange.failed = false) := by
  obtain ⟨visits, final, walk, course⟩ := bench.run_course plan state
  generalize bench.run plan state = outcome at course
  cases course with
  | completed visited onward =>
      exact ⟨fun _ => ⟨⟨visits, final, walk, visited⟩, onward⟩, fun _ => ⟨_, rfl⟩⟩
  | unlisted split _ failure =>
      refine ⟨fun success => absurd success (by simp), ?_⟩
      rintro ⟨⟨longer, last, whole, visited⟩, -⟩
      obtain ⟨later, rfl, onward⟩ := walk.split whole (visited.trans split.symm)
      -- The complete walk lists the directory where this one could not.
      cases onward with
      | done =>
          rw [List.append_nil] at visited
          rw [visited] at split
          simp at split
      | visit listing _ =>
          rw [failure] at listing
          cases listing
  | stopped _ stop =>
      refine ⟨fun success => absurd success (by simp), ?_⟩
      rintro ⟨-, quiet⟩
      exact absurd quiet stop.own.not_goesOn

/-- The first failure along a walk ends the campaign, whose message names the cell and the
number of the run in it. -/
theorem run_of_firstFailure (stopping : plan.policy = .abort)
    (walk : bench.Walk plan state visits final)
    (isPrefix : visits.map (·.configuration) <+: plan.configurations)
    {k : Nat} {call : Call} {trace : Trace}
    (first : FirstFailure (bench.replay (visitCalls plan.runs visits) state) k call trace) :
    (bench.run plan state).calls = (visitCalls plan.runs visits).take (k + 1) ∧
      (bench.run plan state).calls.length = k + 1 ∧
      ∃ failure, (bench.run plan state).result = .error failure ∧
        failure.line = "bench " ++ Text.quote call.configuration.label ++ " on " ++
          Text.quote call.path ++ ": run " ++
          Text.decimal (((visitCalls plan.runs visits).take k).count call) ++ ": " ++
          trace.line := by
  have stop := stops_of_firstFailure first
  rw [← stopping] at stop
  obtain ⟨bound, -⟩ := List.getElem?_eq_some_iff.mp first.here
  rw [length_replay] at bound
  have length : ((visitCalls plan.runs visits).take k ++ [call]).length = k + 1 := by
    rw [List.length_append, List.length_take, Nat.min_eq_left bound.le, List.length_singleton]
  rw [run_of_stops walk isPrefix stop]
  refine ⟨?_, length, _, rfl, Trace.line_cell _ _ _ _⟩
  rw [List.prefix_iff_eq_take.mp stop.isPrefix, length]

/-- Where failures are recorded, or none arose, the walk is made to its end, and only the
listing of the directory can fail. -/
theorem run_of_no_stop
    (tolerated : plan.policy = .zero ∨
      ∀ exchange ∈ bench.replay (bench.run plan state).calls state, exchange.failed = false) :
    ∃ visits final, bench.Walk plan state visits final ∧
      (bench.run plan state).calls = visitCalls plan.runs visits ∧
      (visits.map (·.configuration) = plan.configurations ∧
          (∃ table, (bench.run plan state).result = .ok table) ∨
        ∃ configuration rest cause,
          visits.map (·.configuration) ++ configuration :: rest = plan.configurations ∧
          (bench.tree final).inputFiles plan.dir = .error ⟨[.readDirectory plan.dir], cause⟩ ∧
          ∃ failure, (bench.run plan state).result = .error failure ∧
            failure.line =
              "input files: read dir " ++ Text.quote plan.dir ++ ": " ++ cause.message) := by
  obtain ⟨visits, final, walk, course⟩ := bench.run_course plan state
  refine ⟨visits, final, walk, ?_⟩
  generalize bench.run plan state = outcome at course tolerated
  cases course with
  | completed visited _ => exact ⟨rfl, .inl ⟨visited, _, rfl⟩⟩
  | unlisted split _ failure =>
      exact ⟨rfl, .inr ⟨_, _, _, split, failure, _, rfl, Trace.line_listing _ _⟩⟩
  | stopped _ stop =>
      rcases tolerated with recording | quiet
      · exact absurd (recording.symm.trans stop.policy_eq) (by simp)
      · exact absurd (fun _ => quiet) stop.own.not_goesOn

/-! ## What makes a campaign fail -/

theorem Walk.final_eq (walk : bench.Walk plan state visits final) :
    final = bench.after (visitCalls plan.runs visits) state := by
  induction walk with
  | done => rfl
  | visit _ _ ih => rw [visitCalls_cons, after_append, ih]

/-- Nothing but the calls of a campaign changes the state. -/
theorem run_state (bench : Bench σ) (plan : Plan) (state : σ) :
    (bench.run plan state).state = bench.after (bench.run plan state).calls state := by
  obtain ⟨visits, final, walk, course⟩ := bench.run_course plan state
  generalize bench.run plan state = outcome at course
  cases course with
  | completed => exact walk.final_eq
  | unlisted => exact walk.final_eq
  | stopped => rfl

/-- What makes a campaign fail. -/
inductive Fails (bench : Bench σ) (plan : Plan) (state : σ) : Prop
  /-- The directory cannot be listed when the turn of a configuration comes. -/
  | unlisted {visits : List Visit} {final : σ} {configuration : Configuration}
      {rest : List Configuration} {trace : Trace} :
      bench.Walk plan state visits final →
      visits.map (·.configuration) ++ configuration :: rest = plan.configurations →
      bench.GoesOn plan.policy (visitCalls plan.runs visits) state →
      (bench.tree final).inputFiles plan.dir = .error trace →
      Fails bench plan state
  /-- A call fails, and the policy is to stop. -/
  | stopped {visits : List Visit} {final : σ} {exchange : Exchange} :
      plan.policy = .abort →
      bench.Walk plan state visits final →
      visits.map (·.configuration) <+: plan.configurations →
      exchange ∈ bench.replay (visitCalls plan.runs visits) state →
      exchange.failed = true →
      Fails bench plan state

theorem run_error_iff :
    (∃ trace, (bench.run plan state).result = .error trace) ↔ bench.Fails plan state := by
  constructor
  · rintro ⟨trace, error⟩
    obtain ⟨visits, final, walk, course⟩ := bench.run_course plan state
    generalize bench.run plan state = outcome at course error
    cases course with
    | completed => cases error
    | unlisted split onward failure => exact .unlisted walk split onward failure
    | stopped isPrefix stop =>
        have failing := stop.not_goesOn
        simp only [GoesOn, not_forall, Bool.not_eq_false] at failing
        obtain ⟨stopping, exchange, member, failed⟩ := failing
        exact .stopped stopping walk isPrefix member failed
  · intro fails
    cases fails with
    | unlisted walk split onward failure =>
        rw [run_of_goesOn walk _ split onward]
        simp only [runConfigurations, failure]
        exact ⟨_, rfl⟩
    | @stopped visits final exchange stopping walk isPrefix member failed =>
        rcases bench.goesOn_or_stops plan.policy (visitCalls plan.runs visits) state with
          onward | ⟨before, call, trace, stop⟩
        · have quiet := onward stopping exchange member
          rw [failed] at quiet
          cases quiet
        · rw [run_of_stops walk isPrefix stop]
          exact ⟨_, rfl⟩

/-- A campaign gives a table unless its samples cannot be kept or something fails. -/
theorem runIn?_ok_iff {memory : Memory} :
    (∃ outcome table, bench.runIn? memory plan state = some outcome ∧
        outcome.result = .ok table) ↔
      ¬ bench.Crowded memory plan state ∧ ¬ bench.Fails plan state := by
  rw [← runIn?_eq_none_iff, ← run_error_iff]
  constructor
  · rintro ⟨outcome, table, returned, ok⟩
    obtain rfl := eq_run_of_runIn? returned
    simp [returned, ok]
  · rintro ⟨room, onward⟩
    obtain ⟨outcome, returned⟩ := Option.ne_none_iff_exists'.mp room
    obtain rfl := eq_run_of_runIn? returned
    cases result : (bench.run plan state).result with
    | error trace => exact absurd ⟨trace, result⟩ onward
    | ok table => exact ⟨_, table, returned, result⟩

end Bench

/-- When a campaign succeeds, where it stops and what it says when it does not. -/
theorem run_ok_iff_and_failures {σ : Type u} (bench : Bench σ) (plan : Plan) (state : σ) :
    -- It succeeds when every listing does and no failure stops it.
    ((∃ table, (bench.run plan state).result = .ok table) ↔
      (∃ visits final, bench.Walk plan state visits final ∧
        visits.map (·.configuration) = plan.configurations) ∧
      (plan.policy = .abort →
        ∀ exchange ∈ bench.replay (bench.run plan state).calls state,
          exchange.failed = false)) ∧
    -- It stops at the first failure of the walk along the configurations.
    (plan.policy = .abort → ∀ visits final k call trace,
      bench.Walk plan state visits final →
      visits.map (·.configuration) <+: plan.configurations →
      FirstFailure (bench.replay (visitCalls plan.runs visits) state) k call trace →
      (bench.run plan state).calls = (visitCalls plan.runs visits).take (k + 1)) ∧
    -- The first failure of its own log is the last call, and its message names the cell.
    (plan.policy = .abort → ∀ k call trace,
      FirstFailure (bench.replay (bench.run plan state).calls state) k call trace →
      (bench.run plan state).calls.length = k + 1 ∧
      (∃ visits final, bench.Walk plan state visits final ∧
        visits.map (·.configuration) <+: plan.configurations ∧
        (bench.run plan state).calls <+: visitCalls plan.runs visits) ∧
      ∃ failure, (bench.run plan state).result = .error failure ∧
        failure.line = "bench " ++ Text.quote call.configuration.label ++ " on " ++
          Text.quote call.path ++ ": run " ++
          Text.decimal (((bench.run plan state).calls.take k).count call) ++ ": " ++
          trace.line) ∧
    -- Where failures are recorded, or none arose, only a listing fails, before any call of its
    -- configuration.
    (plan.policy = .zero ∨
        (∀ exchange ∈ bench.replay (bench.run plan state).calls state,
          exchange.failed = false) →
      ∃ visits final, bench.Walk plan state visits final ∧
      (bench.run plan state).calls = visitCalls plan.runs visits ∧
      (visits.map (·.configuration) = plan.configurations ∧
          (∃ table, (bench.run plan state).result = .ok table) ∨
        ∃ configuration rest cause,
          visits.map (·.configuration) ++ configuration :: rest = plan.configurations ∧
          (bench.tree final).inputFiles plan.dir = .error ⟨[.readDirectory plan.dir], cause⟩ ∧
          ∃ failure, (bench.run plan state).result = .error failure ∧
            failure.line =
              "input files: read dir " ++ Text.quote plan.dir ++ ": " ++ cause.message)) ∧
    -- In any memory this holds of every campaign whose samples have room in it, and any other
    -- has no result. No memory has room for 2^60 samples of a series.
    ∀ memory : Memory, memory.room < 2 ^ 60 ∧
      (bench.runIn? memory plan state = none ↔ bench.Crowded memory plan state) ∧
      ∀ outcome, bench.runIn? memory plan state = some outcome →
        outcome = bench.run plan state := by
  refine ⟨bench.run_ok_iff plan state, ?_, ?_, Bench.run_of_no_stop,
    fun memory => ⟨memory.bounded, Bench.runIn?_eq_none_iff, fun _ => Bench.eq_run_of_runIn?⟩⟩
  · intro stopping visits final k call trace walk isPrefix first
    exact (Bench.run_of_firstFailure stopping walk isPrefix first).1
  · intro stopping k call trace own
    obtain ⟨visits, final, walk, isPrefix, made⟩ := bench.exists_walk_calls_prefix plan state
    have first := own.of_prefix (Bench.replay_prefix made)
    obtain ⟨callsEq, length, failure, result, line⟩ :=
      Bench.run_of_firstFailure stopping walk isPrefix first
    refine ⟨length, ⟨visits, final, walk, isPrefix, made⟩, failure, result, ?_⟩
    rw [line, callsEq, List.take_take, Nat.min_eq_left (Nat.le_succ k)]

/-- The second call of the sample fails: its cell is that of the first call too. -/
theorem run_ok_iff_and_failures_second_call :
    (Sample.bench.run (Sample.plan .abort) (Sample.tree, 0)).calls =
        [⟨⟨"A"⟩, "d/a"⟩, ⟨⟨"A"⟩, "d/a"⟩] ∧
      ∃ failure, (Sample.bench.run (Sample.plan .abort) (Sample.tree, 0)).result = .error failure ∧
        failure.line = "bench \"A\" on \"d/a\": run 1: boom" := by
  obtain ⟨-, walked, own, -⟩ :=
    run_ok_iff_and_failures Sample.bench (Sample.plan .abort) (Sample.tree, 0)
  have calls := walked rfl Sample.visits _ 1 ⟨⟨"A"⟩, "d/a"⟩ (.ofCause (.reported "boom"))
    (Sample.walk .abort) List.prefix_rfl ⟨rfl, by decide +kernel⟩
  obtain ⟨-, -, failure, result, line⟩ := own rfl 1 ⟨⟨"A"⟩, "d/a"⟩ (.ofCause (.reported "boom"))
    (by rw [calls]; exact ⟨rfl, by decide +kernel⟩)
  refine ⟨calls, failure, result, ?_⟩
  rw [line, calls]
  decide +kernel

namespace Sample

/-- An invoker that always fails. -/
def failing : Bench Tree where
  invoker := fun _ files => (.error (.ofCause (.reported "boom")), files)
  tree := id

/-- One configuration, and as many runs as a word can count. -/
def endless : Plan where
  configurations := [⟨"A"⟩]
  dir := "d"
  runs := 2 ^ 64 - 1
  policy := .abort
  distinct := by decide
  runs_pos := by decide

theorem firstFailure_failing {runs : Nat} (pos : 0 < runs) (files : List InputFile) :
    FirstFailure
      (failing.replay (visitCalls runs [⟨⟨"A"⟩, ⟨"a", "d/a"⟩ :: files⟩]) tree) 0
      ⟨⟨"A"⟩, "d/a"⟩ (.ofCause (.reported "boom")) := by
  obtain ⟨more, rfl⟩ := Nat.exists_eq_succ_of_ne_zero pos.ne'
  exact ⟨rfl, by simp⟩

end Sample

/-- No memory has room for the samples, and so there is no message: the only listing succeeds and
the first call fails, but the campaign has no result that could say so. -/
theorem crowded_campaign_has_no_message :
    (∃ visits final, Sample.failing.Walk Sample.endless Sample.tree visits final ∧
      visits.map (·.configuration) = Sample.endless.configurations ∧
      FirstFailure (Sample.failing.replay (visitCalls Sample.endless.runs visits) Sample.tree) 0
        ⟨⟨"A"⟩, "d/a"⟩ (.ofCause (.reported "boom"))) ∧
      ¬ ∃ memory outcome,
        Sample.failing.runIn? memory Sample.endless Sample.tree = some outcome ∧
        outcome.calls.length = 1 ∧ ∃ failure, outcome.result = .error failure ∧
          failure.line = "bench \"A\" on \"d/a\": run 0: boom" := by
  refine ⟨⟨[⟨⟨"A"⟩, [⟨"a", "d/a"⟩, ⟨"b", "d/b"⟩]⟩], _, .visit Sample.inputFiles_tree .done, rfl,
    Sample.firstFailure_failing Sample.endless.runs_pos _⟩, ?_⟩
  rintro ⟨memory, outcome, returned, -⟩
  have full : memory.room < Sample.endless.runs :=
    Nat.lt_trans memory.bounded (by decide : Nat.pow 2 60 < 2 ^ 64 - 1)
  have crowded : Sample.failing.Crowded memory Sample.endless Sample.tree :=
    ⟨by simp [Sample.endless], full, _, _, Sample.inputFiles_tree⟩
  rw [Bench.runIn?_eq_none_iff.mpr crowded] at returned
  cases returned

end PhaseBench
