import PhaseBench.Proofs.Campaign.Log
import PhaseBench.Proofs.Tree.Listing

/-!
# The course of a campaign

A `Visit` is a configuration with the files that were listed when it was started.
`Bench.Walk` says which visits can be made from a state: the files of each are what
the directory holds after all calls of the visits before it, whatever those calls
did to the directory and however they ended.

The three loops of a campaign are followed one after the other, each in two lemmas:
what it does when no reply stops it, and what it does when one does. The result is
`run_course`: a campaign completes its walk, or meets a directory that cannot be
listed, or stops at the first failure; the table, the calls and the state that it
leaves are given in each case.
-/

namespace PhaseBench

universe u

/-! ## Visits -/

/-- A configuration with the files that were listed when it was started. -/
structure Visit where
  configuration : Configuration
  files : List InputFile

namespace Visit

/-- The call of a run on a file. -/
def cell (visit : Visit) (file : InputFile) : Call := ⟨visit.configuration, file.path⟩

/-- The calls of a visit: all runs on a file before the first on the next. -/
def calls (runs : Nat) (visit : Visit) : List Call :=
  visit.files.flatMap fun file => List.replicate runs (visit.cell file)

/-- The entry of a visit in the table that a log describes. -/
def entry (log : List Exchange) (visit : Visit) : Configuration × Inputs (List Nat) :=
  (visit.configuration, visit.files.map fun file => (file.name, recorded log (visit.cell file)))

theorem calls_cons (runs : Nat) (configuration : Configuration) (file : InputFile)
    (files : List InputFile) :
    calls runs ⟨configuration, file :: files⟩ =
      List.replicate runs ⟨configuration, file.path⟩ ++ calls runs ⟨configuration, files⟩ := rfl

theorem configuration_of_mem_calls {runs : Nat} {visit : Visit} {call : Call}
    (member : call ∈ visit.calls runs) : call.configuration = visit.configuration := by
  obtain ⟨file, -, inCell⟩ := List.mem_flatMap.mp member
  rw [List.eq_of_mem_replicate inCell, cell]

theorem path_of_mem_calls {runs : Nat} {visit : Visit} {call : Call}
    (member : call ∈ visit.calls runs) : call.path ∈ visit.files.map (·.path) := by
  obtain ⟨file, inside, inCell⟩ := List.mem_flatMap.mp member
  rw [List.eq_of_mem_replicate inCell]
  exact List.mem_map.mpr ⟨file, inside, rfl⟩

end Visit

/-- The calls of visits, one visit after the other. -/
def visitCalls (runs : Nat) (visits : List Visit) : List Call := visits.flatMap (Visit.calls runs)

theorem visitCalls_cons (runs : Nat) (visit : Visit) (visits : List Visit) :
    visitCalls runs (visit :: visits) = visit.calls runs ++ visitCalls runs visits := rfl

theorem configuration_of_mem_visitCalls {runs : Nat} {visits : List Visit} {call : Call}
    (member : call ∈ visitCalls runs visits) :
    call.configuration ∈ visits.map (·.configuration) := by
  obtain ⟨visit, inside, made⟩ := List.mem_flatMap.mp member
  rw [Visit.configuration_of_mem_calls made]
  exact List.mem_map.mpr ⟨visit, inside, rfl⟩

namespace Bench

variable {σ : Type u}

/-- The visits that lead from a state to another. The directory is listed when a visit
starts, and then all of its calls are made. -/
inductive Walk (bench : Bench σ) (plan : Plan) : σ → List Visit → σ → Prop
  | done {state : σ} : Walk bench plan state [] state
  | visit {state final : σ} {visit : Visit} {visits : List Visit} :
      (bench.tree state).inputFiles plan.dir = .ok visit.files →
      Walk bench plan (bench.after (visit.calls plan.runs) state) visits final →
      Walk bench plan state (visit :: visits) final

variable {bench : Bench σ} {plan : Plan} {state final : σ} {visits : List Visit}

theorem Walk.listed (walk : bench.Walk plan state visits final) :
    ∀ visit ∈ visits, Listed plan.dir visit.files := by
  induction walk with
  | done => exact fun _ member => absurd member (by simp)
  | visit listing _ ih =>
      intro other member
      rcases List.mem_cons.mp member with rfl | later
      · exact Tree.listed_of_inputFiles listing
      · exact ih other later

/-- As many visits are made as the listing of the directory succeeds. -/
theorem exists_walk (bench : Bench σ) (plan : Plan) (configurations : List Configuration)
    (state : σ) :
    ∃ visits final rest, bench.Walk plan state visits final ∧
      configurations = visits.map (·.configuration) ++ rest ∧
      (rest ≠ [] → ∃ trace, (bench.tree final).inputFiles plan.dir = .error trace) := by
  induction configurations generalizing state with
  | nil => exact ⟨[], state, [], .done, rfl, fun some => absurd rfl some⟩
  | cons configuration configurations ih =>
      cases listing : (bench.tree state).inputFiles plan.dir with
      | error trace =>
          exact ⟨[], state, configuration :: configurations, .done, rfl, fun _ => ⟨trace, listing⟩⟩
      | ok files =>
          obtain ⟨visits, final, rest, walk, split, ends⟩ :=
            ih (bench.after (Visit.calls plan.runs ⟨configuration, files⟩) state)
          exact ⟨⟨configuration, files⟩ :: visits, final, rest, .visit listing walk,
            by rw [List.map_cons, List.cons_append, ← split], ends⟩

/-! ## The runs of a cell -/

theorem eq_of_prefix_replicate {before : List Call} {call other : Call} {n : Nat}
    (isPrefix : before ++ [call] <+: List.replicate n other) :
    call = other ∧ before = List.replicate before.length other := by
  have all : ∀ made ∈ before ++ [call], made = other :=
    fun made member => List.eq_of_mem_replicate (isPrefix.subset member)
  exact ⟨all call (by simp), List.eq_replicate_iff.mpr
    ⟨rfl, fun made member => all made (by simp [member])⟩⟩

theorem readings_eq_ok {policy : FailurePolicy} (exchange : Exchange)
    (onward : policy = .abort → exchange.failed = false) :
    readings policy exchange.reply = .ok (PerMetric.ofFn exchange.sample) := by
  obtain ⟨call, reply⟩ := exchange
  cases reply with
  | ok output => rfl
  | error trace =>
      cases policy with
      | abort => exact absurd (onward rfl) (by simp [Exchange.failed])
      | zero => rfl

theorem prepend_ofFn (exchange : Exchange) (log : List Exchange) :
    prepend (PerMetric.ofFn exchange.sample)
        (PerMetric.ofFn fun metric => log.map (·.sample metric)) =
      PerMetric.ofFn fun metric => (exchange :: log).map (·.sample metric) := by
  apply PerMetric.eq_of_get
  intro metric
  simp [prepend]

theorem collectFrom_of_goesOn {policy : FailurePolicy} {call : Call} {remaining : Nat}
    (index : Nat) (onward : bench.GoesOn policy (List.replicate remaining call) state) :
    bench.collectFrom policy call remaining index state =
      ⟨.ok (PerMetric.ofFn fun metric =>
          (bench.replay (List.replicate remaining call) state).map (·.sample metric)),
        List.replicate remaining call, bench.after (List.replicate remaining call) state⟩ := by
  induction remaining generalizing index state with
  | zero => rfl
  | succ remaining ih =>
      rw [List.replicate_succ] at onward ⊢
      have here := readings_eq_ok ⟨call, (bench.invoker call state).1⟩
        fun stopping => onward stopping _ (by simp)
      have later : bench.GoesOn policy (List.replicate remaining call)
          (bench.invoker call state).2 :=
        fun stopping exchange member => onward stopping exchange (by simp [member])
      simp only [collectFrom, here, ih (index + 1) later, Except.map, prepend_ofFn]
      rfl

theorem collectFrom_of_stops {policy : FailurePolicy} {call other : Call} {remaining : Nat}
    {before : List Call} {trace : Trace} (index : Nat)
    (stop : bench.Stops policy (List.replicate remaining call) state before other trace) :
    bench.collectFrom policy call remaining index state =
      ⟨.error (trace.within (.run (index + before.length))), before ++ [other],
        bench.after (before ++ [other]) state⟩ := by
  induction remaining generalizing index state before with
  | zero => exact absurd stop.isPrefix (by simp)
  | succ remaining ih =>
      obtain ⟨stopping, isPrefix, earlier, failure⟩ := stop
      subst stopping
      rw [List.replicate_succ] at isPrefix
      cases before with
      | nil =>
          obtain rfl : other = call := by simpa using isPrefix
          have failure : (bench.invoker other state).1 = .error trace := failure
          simp only [collectFrom, failure, readings]
          rfl
      | cons first before =>
          rw [List.cons_append, List.cons_prefix_cons] at isPrefix
          obtain ⟨rfl, isPrefix⟩ := isPrefix
          have here := readings_eq_ok ⟨first, (bench.invoker first state).1⟩
            fun (_ : FailurePolicy.abort = .abort) => earlier _ (by simp)
          have rest := ih (index + 1) ⟨rfl, isPrefix,
            fun exchange member => earlier exchange (by simp [member]), failure⟩
          simp only [collectFrom, here, rest, Except.map, List.length_cons, Nat.add_assoc,
            Nat.add_comm 1]
          rfl

/-! ## The files of a configuration -/

theorem recorded_replay_replicate (bench : Bench σ) (runs : Nat) (call : Call) (state : σ) :
    recorded (bench.replay (List.replicate runs call) state) call =
      PerMetric.ofFn fun metric =>
        some ((bench.replay (List.replicate runs call) state).map (·.sample metric)) := by
  have own : (bench.replay (List.replicate runs call) state).filter (·.call = call) =
      bench.replay (List.replicate runs call) state := by
    rw [List.filter_eq_self]
    intro exchange member
    have inLog : exchange.call ∈ List.replicate runs call := by
      rw [← bench.map_call_replay (List.replicate runs call) state]
      exact List.mem_map.mpr ⟨exchange, member, rfl⟩
    simpa using List.eq_of_mem_replicate inLog
  rw [recorded, own]

/-- The cell of the first file occurs among the calls of no later file. -/
theorem cell_notMem_calls (runs : Nat) {dir : String} (configuration : Configuration)
    {file : InputFile} {files : List InputFile} (listed : Listed dir (file :: files)) :
    (⟨configuration, file.path⟩ : Call) ∉ Visit.calls runs ⟨configuration, files⟩ := by
  intro member
  exact listed.path_notMem (Visit.path_of_mem_calls member)

/-- The entry of a visit, file by file: each file takes its cell from its own part of the
log. -/
theorem entry_cons {runs : Nat} {dir : String} {configuration : Configuration}
    {file : InputFile} {files : List InputFile} (listed : Listed dir (file :: files)) :
    (Visit.entry (bench.replay (Visit.calls runs ⟨configuration, file :: files⟩) state)
        ⟨configuration, file :: files⟩).2 =
      (file.name, recorded (bench.replay (List.replicate runs ⟨configuration, file.path⟩) state)
          ⟨configuration, file.path⟩) ::
        (Visit.entry (bench.replay (Visit.calls runs ⟨configuration, files⟩)
          (bench.after (List.replicate runs ⟨configuration, file.path⟩) state))
          ⟨configuration, files⟩).2 := by
  rw [Visit.calls_cons, replay_append, Visit.entry, List.map_cons]
  refine congrArg₂ _ ?_ (List.map_congr_left ?_)
  · rw [Visit.cell, recorded_append_left]
    rw [map_call_replay]
    exact cell_notMem_calls runs configuration listed
  · intro other member
    rw [recorded_append_right]
    · rfl
    · rw [map_call_replay]
      intro inCell
      have same := congrArg Call.path (List.eq_of_mem_replicate inCell)
      exact listed.path_notMem (List.mem_map.mpr ⟨other, member, same⟩)

theorem insert_behind {others : List (Configuration × Inputs (List Nat))}
    {configuration : Configuration} {inputs : Inputs (List Nat)} {name : String}
    (fresh : configuration ∉ others.map (·.1)) (before : ∀ input ∈ inputs, nameBefore input.1 name)
    (cell : Metrics (List Nat)) :
    (⟨others ++ [(configuration, inputs)]⟩ : SampleTable).insert configuration name cell =
      ⟨others ++ [(configuration, inputs ++ [(name, cell)])]⟩ := by
  rw [Table.insert, Table.alter, Table.alterEntries_append fresh, Table.alterEntries, if_pos rfl,
    Inputs.alter_of_before before]

theorem runFiles_of_goesOn {configuration : Configuration} {files : List InputFile}
    {others : List (Configuration × Inputs (List Nat))} (inputs : Inputs (List Nat))
    (fresh : configuration ∉ others.map (·.1)) (listed : Listed plan.dir files)
    (before : ∀ input ∈ inputs, ∀ file ∈ files, nameBefore input.1 file.name)
    (onward : bench.GoesOn plan.policy (Visit.calls plan.runs ⟨configuration, files⟩) state) :
    bench.runFiles plan configuration files ⟨others ++ [(configuration, inputs)]⟩ state =
      ⟨.ok ⟨others ++ [(configuration, inputs ++
          (Visit.entry (bench.replay (Visit.calls plan.runs ⟨configuration, files⟩) state)
            ⟨configuration, files⟩).2)]⟩,
        Visit.calls plan.runs ⟨configuration, files⟩,
        bench.after (Visit.calls plan.runs ⟨configuration, files⟩) state⟩ := by
  induction files generalizing inputs state with
  | nil => simp [runFiles, Visit.entry, Visit.calls]
  | cons file files ih =>
      rw [Visit.calls_cons, goesOn_append] at onward
      obtain ⟨here, later⟩ := onward
      have own : bench.collect plan ⟨configuration, file.path⟩ state = _ :=
        collectFrom_of_goesOn 0 here
      -- The cell goes behind the inputs so far, and the names of the other files behind it.
      have rest := ih
        (inputs ++ [(file.name,
          recorded (bench.replay (List.replicate plan.runs ⟨configuration, file.path⟩) state)
            ⟨configuration, file.path⟩)])
        listed.tail
        (by
          intro input member other inside
          rcases List.mem_append.mp member with old | new
          · exact before input old other (List.mem_cons_of_mem _ inside)
          · obtain rfl := List.mem_singleton.mp new
            exact List.rel_of_pairwise_cons listed.sorted inside)
        later
      have behind := fun input member => before input member file List.mem_cons_self
      have cells : (PerMetric.ofFn fun metric =>
          (bench.replay (List.replicate plan.runs ⟨configuration, file.path⟩) state).map
            (·.sample metric)).map some =
          recorded (bench.replay (List.replicate plan.runs ⟨configuration, file.path⟩) state)
            ⟨configuration, file.path⟩ := by
        rw [recorded_replay_replicate]
        rfl
      rw [entry_cons listed]
      simp only [runFiles, own, cells, insert_behind fresh behind, rest, Visit.calls_cons,
        after_append, List.append_assoc, List.singleton_append]

theorem runFiles_of_stops {configuration : Configuration} {files : List InputFile}
    {before : List Call} {call : Call} {trace : Trace} (table : SampleTable)
    (listed : Listed plan.dir files)
    (stop : bench.Stops plan.policy (Visit.calls plan.runs ⟨configuration, files⟩) state
      before call trace) :
    bench.runFiles plan configuration files table state =
      ⟨.error ((trace.within (.run (before.count call))).within
          (.cell call.configuration call.path)),
        before ++ [call], bench.after (before ++ [call]) state⟩ := by
  induction files generalizing table state before with
  | nil => exact absurd stop.isPrefix (by simp [Visit.calls])
  | cons file files ih =>
      rw [Visit.calls_cons] at stop
      rcases stop.append_cases with here | ⟨onward, later, rfl, stopLater⟩
      · have own : bench.collect plan ⟨configuration, file.path⟩ state = _ :=
          collectFrom_of_stops 0 here
        obtain ⟨rfl, onlyOwn⟩ := eq_of_prefix_replicate here.isPrefix
        simp only [runFiles, own, Nat.zero_add]
        rw [onlyOwn, List.count_replicate_self, List.length_replicate]
      · have own : bench.collect plan ⟨configuration, file.path⟩ state = _ :=
          collectFrom_of_goesOn 0 onward
        have other : call ≠ ⟨configuration, file.path⟩ := by
          rintro rfl
          exact cell_notMem_calls plan.runs configuration listed stopLater.call_mem
        have notOwn : (List.replicate plan.runs
            (⟨configuration, file.path⟩ : Call)).count call = 0 := by
          rw [List.count_replicate, if_neg (by simpa using other.symm)]
        simp only [runFiles, own, ih _ listed.tail stopLater, List.count_append, notOwn,
          Nat.zero_add, List.append_assoc, after_append]

/-! ## The configurations -/

theorem touch_fresh {others : List (Configuration × Inputs (List Nat))}
    {configuration : Configuration} (fresh : configuration ∉ others.map (·.1)) :
    (⟨others⟩ : SampleTable).touch configuration = ⟨others ++ [(configuration, [])]⟩ := by
  have added := Table.alterEntries_append fresh id []
  rw [List.append_nil] at added
  rw [Table.touch, Table.alter, added]
  rfl

/-- The entries of a walk, visit by visit: each takes its cells from its own part of the
log. -/
theorem map_entry_cons (bench : Bench σ) (state : σ) {visit : Visit}
    (distinct : ((visit :: visits).map (·.configuration)).Nodup) (runs : Nat) :
    (visit :: visits).map
        (Visit.entry (bench.replay (visitCalls runs (visit :: visits)) state)) =
      visit.entry (bench.replay (visit.calls runs) state) ::
        visits.map (Visit.entry (bench.replay (visitCalls runs visits)
          (bench.after (visit.calls runs) state))) := by
  rw [List.map_cons, List.nodup_cons] at distinct
  rw [visitCalls_cons, replay_append, List.map_cons]
  refine congrArg₂ _ ?_ (List.map_congr_left ?_)
  · refine congrArg (Prod.mk _) (List.map_congr_left fun file _ => ?_)
    rw [recorded_append_left]
    rw [map_call_replay]
    exact fun member => distinct.1 (configuration_of_mem_visitCalls member)
  · intro other member
    refine congrArg (Prod.mk _) (List.map_congr_left fun file _ => ?_)
    rw [recorded_append_right]
    rw [map_call_replay]
    intro inVisit
    have same := Visit.configuration_of_mem_calls inVisit
    exact distinct.1 (List.mem_map.mpr ⟨other, member, same⟩)

/-- A visit that no reply stops adds its entry to the table. -/
theorem runConfigurations_cons_of_goesOn {visit : Visit}
    (listing : (bench.tree state).inputFiles plan.dir = .ok visit.files)
    {others : List (Configuration × Inputs (List Nat))}
    (fresh : visit.configuration ∉ others.map (·.1))
    (onward : bench.GoesOn plan.policy (visit.calls plan.runs) state)
    (rest : List Configuration) :
    bench.runConfigurations plan (visit.configuration :: rest) ⟨others⟩ state =
      let last := bench.runConfigurations plan rest
        ⟨others ++ [visit.entry (bench.replay (visit.calls plan.runs) state)]⟩
        (bench.after (visit.calls plan.runs) state)
      ⟨last.result, visit.calls plan.runs ++ last.calls, last.state⟩ := by
  have files := runFiles_of_goesOn [] fresh (Tree.listed_of_inputFiles listing)
    (fun _ member => absurd member (by simp)) onward
  rw [List.nil_append] at files
  simp only [runConfigurations, listing, touch_fresh fresh, files]
  rfl

/-- A walk that no reply stops fills the table with its entries and leaves the remaining
configurations to be run from where it ends. -/
theorem runConfigurations_of_goesOn (walk : bench.Walk plan state visits final)
    (others : List (Configuration × Inputs (List Nat)))
    (distinct : (others.map (·.1) ++ visits.map (·.configuration)).Nodup)
    (onward : bench.GoesOn plan.policy (visitCalls plan.runs visits) state)
    (rest : List Configuration) :
    bench.runConfigurations plan (visits.map (·.configuration) ++ rest) ⟨others⟩ state =
      let last := bench.runConfigurations plan rest
        ⟨others ++ visits.map (Visit.entry (bench.replay (visitCalls plan.runs visits) state))⟩
        final
      ⟨last.result, visitCalls plan.runs visits ++ last.calls, last.state⟩ := by
  induction walk generalizing others with
  | done => simp [visitCalls]
  | @visit state final visit visits listing walk ih =>
      have entries := map_entry_cons bench state (List.nodup_append.mp distinct).2.1 plan.runs
      rw [visitCalls_cons, goesOn_append] at onward
      have fresh : visit.configuration ∉ others.map (·.1) := fun member =>
        (List.nodup_append.mp distinct).2.2 _ member _ (by simp) rfl
      have later := ih (others ++ [visit.entry (bench.replay (visit.calls plan.runs) state)])
        (by simpa [Visit.entry] using distinct) onward.2
      rw [entries, List.map_cons, List.cons_append,
        runConfigurations_cons_of_goesOn listing fresh onward.1]
      simp only [later, visitCalls_cons, List.append_assoc, List.singleton_append]

theorem runConfigurations_of_stops (walk : bench.Walk plan state visits final)
    {before : List Call} {call : Call} {trace : Trace}
    (others : List (Configuration × Inputs (List Nat)))
    (distinct : (others.map (·.1) ++ visits.map (·.configuration)).Nodup)
    (stop : bench.Stops plan.policy (visitCalls plan.runs visits) state before call trace)
    (rest : List Configuration) :
    bench.runConfigurations plan (visits.map (·.configuration) ++ rest) ⟨others⟩ state =
      ⟨.error ((trace.within (.run (before.count call))).within
          (.cell call.configuration call.path)),
        before ++ [call], bench.after (before ++ [call]) state⟩ := by
  induction walk generalizing others before with
  | done => exact absurd stop.isPrefix (by simp [visitCalls])
  | @visit state final visit visits listing walk ih =>
      rw [visitCalls_cons] at stop
      rw [List.map_cons, List.cons_append]
      rcases stop.append_cases with here | ⟨onward, later, rfl, stopLater⟩
      · have stopped := runFiles_of_stops ((⟨others⟩ : SampleTable).touch visit.configuration)
          (Tree.listed_of_inputFiles listing) here
        simp only [runConfigurations, listing, stopped]
      · rw [List.map_cons] at distinct
        have fresh : visit.configuration ∉ others.map (·.1) := fun member =>
          (List.nodup_append.mp distinct).2.2 _ member _ (by simp) rfl
        have stopped := ih (others ++ [visit.entry (bench.replay (visit.calls plan.runs) state)])
          (by simpa [Visit.entry] using distinct) stopLater
        -- The failing call belongs to a later configuration, so none of this visit is its own.
        have notOwn : (visit.calls plan.runs).count call = 0 := by
          rw [List.count_eq_zero]
          intro inVisit
          have other := configuration_of_mem_visitCalls stopLater.call_mem
          rw [Visit.configuration_of_mem_calls inVisit] at other
          exact (List.nodup_cons.mp (List.nodup_append.mp distinct).2.1).1 other
        rw [runConfigurations_cons_of_goesOn listing fresh onward]
        simp only [stopped, List.count_append, notOwn, Nat.zero_add, List.append_assoc,
          after_append]

/-! ## The whole campaign -/

/-- How a campaign goes along the visits that lead from its state to `final`. -/
inductive Course (bench : Bench σ) (plan : Plan) (state : σ) (visits : List Visit) (final : σ) :
    Outcome σ SampleTable → Prop
  /-- Every configuration was visited. -/
  | completed :
      visits.map (·.configuration) = plan.configurations →
      bench.GoesOn plan.policy (visitCalls plan.runs visits) state →
      Course bench plan state visits final
        ⟨.ok ⟨visits.map (Visit.entry (bench.replay (visitCalls plan.runs visits) state))⟩,
          visitCalls plan.runs visits, final⟩
  /-- The directory could not be listed for the next configuration. -/
  | unlisted {configuration : Configuration} {rest : List Configuration} {cause : Cause} :
      visits.map (·.configuration) ++ configuration :: rest = plan.configurations →
      bench.GoesOn plan.policy (visitCalls plan.runs visits) state →
      (bench.tree final).inputFiles plan.dir = .error ⟨[.readDirectory plan.dir], cause⟩ →
      Course bench plan state visits final
        ⟨.error ⟨[.inputFiles, .readDirectory plan.dir], cause⟩,
          visitCalls plan.runs visits, final⟩
  /-- A call failed and the policy is to stop. -/
  | stopped {before : List Call} {call : Call} {trace : Trace} :
      visits.map (·.configuration) <+: plan.configurations →
      bench.Stops plan.policy (visitCalls plan.runs visits) state before call trace →
      Course bench plan state visits final
        ⟨.error ((trace.within (.run (before.count call))).within
            (.cell call.configuration call.path)),
          before ++ [call], bench.after (before ++ [call]) state⟩

theorem distinct_visits {rest : List Configuration}
    (split : visits.map (·.configuration) ++ rest = plan.configurations) :
    (visits.map (·.configuration)).Nodup := by
  have distinct := plan.distinct
  rw [← split] at distinct
  exact (List.nodup_append.mp distinct).1

/-- A walk along the first configurations that no reply stops leaves the others to be run from
where it ends. -/
theorem run_of_goesOn (walk : bench.Walk plan state visits final) (rest : List Configuration)
    (split : visits.map (·.configuration) ++ rest = plan.configurations)
    (onward : bench.GoesOn plan.policy (visitCalls plan.runs visits) state) :
    bench.run plan state =
      let last := bench.runConfigurations plan rest
        ⟨visits.map (Visit.entry (bench.replay (visitCalls plan.runs visits) state))⟩ final
      ⟨last.result, visitCalls plan.runs visits ++ last.calls, last.state⟩ := by
  rw [run, ← split]
  exact runConfigurations_of_goesOn walk [] (by simpa using distinct_visits split) onward rest

/-- A walk along the first configurations that a failure stops is the course of the
campaign, whatever the directory holds later. -/
theorem run_of_stops (walk : bench.Walk plan state visits final)
    (isPrefix : visits.map (·.configuration) <+: plan.configurations)
    {before : List Call} {call : Call} {trace : Trace}
    (stop : bench.Stops plan.policy (visitCalls plan.runs visits) state before call trace) :
    bench.run plan state =
      ⟨.error ((trace.within (.run (before.count call))).within
          (.cell call.configuration call.path)),
        before ++ [call], bench.after (before ++ [call]) state⟩ := by
  obtain ⟨rest, split⟩ := isPrefix
  rw [run, ← split]
  exact runConfigurations_of_stops walk [] (by simpa using distinct_visits split) stop rest

/-- Every campaign takes one of the three courses. -/
theorem run_course (bench : Bench σ) (plan : Plan) (state : σ) :
    ∃ visits final, bench.Walk plan state visits final ∧
      Course bench plan state visits final (bench.run plan state) := by
  obtain ⟨visits, final, rest, walk, split, ends⟩ :=
    exists_walk bench plan plan.configurations state
  refine ⟨visits, final, walk, ?_⟩
  rcases bench.goesOn_or_stops plan.policy (visitCalls plan.runs visits) state with
    onward | ⟨before, call, trace, stop⟩
  · rw [run_of_goesOn walk rest split.symm onward]
    cases rest with
    | nil =>
        rw [List.append_nil] at split
        simp only [runConfigurations, List.append_nil]
        exact .completed split.symm onward
    | cons configuration rest =>
        obtain ⟨trace, failure⟩ := ends (by simp)
        obtain ⟨cause, rfl⟩ := Tree.inputFiles_error failure
        simp only [runConfigurations, failure, List.append_nil]
        exact .unlisted split.symm onward failure
  · have isPrefix : visits.map (·.configuration) <+: plan.configurations := ⟨rest, split.symm⟩
    rw [run_of_stops walk isPrefix stop]
    exact .stopped isPrefix stop

/-- A campaign succeeds on the first of the three courses only. -/
theorem completed_of_ok {table : SampleTable} (ok : (bench.run plan state).result = .ok table) :
    ∃ visits, bench.Walk plan state visits (bench.run plan state).state ∧
      visits.map (·.configuration) = plan.configurations ∧
      (bench.run plan state).calls = visitCalls plan.runs visits ∧
      bench.GoesOn plan.policy (bench.run plan state).calls state ∧
      table = ⟨visits.map (Visit.entry (bench.replay (bench.run plan state).calls state))⟩ := by
  obtain ⟨visits, final, walk, course⟩ := bench.run_course plan state
  generalize bench.run plan state = outcome at ok course
  cases course with
  | completed visited onward =>
      cases ok
      exact ⟨visits, walk, visited, rfl, onward, rfl⟩
  | unlisted => cases ok
  | stopped => cases ok

end Bench

end PhaseBench
