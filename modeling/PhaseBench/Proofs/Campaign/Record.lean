import PhaseBench.Proofs.Campaign.Walk

/-!
# The table of a campaign is its call log

A table of samples is only means and bars later on: a sample filed under the wrong
cell, lost, doubled or put in another place would not show. `run_table_eq_log` says
that none of this happens, for any invoker and any changes it makes to the
directory: which calls were made is known from the listings alone, and the table
holds what the replies to these calls say, cell by cell and in the order of the
calls.
-/

namespace PhaseBench

universe u

variable {σ : Type u}

/-- The table holds exactly what the calls from a state say. The listing of the directory
when a configuration was started is that of its visit. -/
structure Bench.TableOfLog (bench : Bench σ) (plan : Plan) (state : σ) (visits : List Visit)
    (outcome : Outcome σ SampleTable) (table : SampleTable) : Prop where
  /-- The listings were made one after the other, each after the calls of the visits before
  it, and the campaign ended where the last calls left it. -/
  walk : bench.Walk plan state visits outcome.state
  /-- There is one visit for each configuration, in the given order. -/
  visited : visits.map (·.configuration) = plan.configurations
  /-- The calls are those of the configurations in turn, of their files in turn, and as many
  of each as there are runs. -/
  calls_eq : outcome.calls = visits.flatMap fun visit =>
    visit.files.flatMap fun file => List.replicate plan.runs ⟨visit.configuration, file.path⟩
  /-- Where the policy is to stop, no call failed. -/
  quiet : plan.policy = .abort →
    ∀ exchange ∈ bench.replay outcome.calls state, exchange.failed = false
  /-- The table mentions the given configurations, each once, in the given order. -/
  configurations_eq : table.entries.map (·.1) = plan.configurations
  /-- The inputs of a configuration are the files of its visit in the order of the calls,
  which is the byte order of the names. -/
  inputs_eq : ∀ visit ∈ visits, ∃ inputs, table.inputs? visit.configuration = some inputs ∧
    inputs.map (·.1) = visit.files.map (·.name) ∧
    inputs.Pairwise fun a b => nameBefore a.1 b.1
  /-- The samples of a cell are those of its own calls, in the order of the calls. -/
  samples_eq : ∀ visit ∈ visits, ∀ file ∈ visit.files, ∀ metric, ∃ samples,
    table.value? visit.configuration file.name metric = some samples ∧
    samples.length = plan.runs ∧
    samples = ((bench.replay outcome.calls state).filter
      (·.call = ⟨visit.configuration, file.path⟩)).map (·.sample metric)

/-! ## Counting the calls of a cell -/

theorem count_calls {runs : Nat} {dir : String} {visit : Visit} {file : InputFile}
    (listed : Listed dir visit.files) (member : file ∈ visit.files) :
    (visit.calls runs).count (visit.cell file) = runs := by
  obtain ⟨configuration, files⟩ := visit
  induction files with
  | nil => exact absurd member (by simp)
  | cons first files ih =>
      rw [Visit.calls_cons, List.count_append]
      rcases List.mem_cons.mp member with rfl | later
      · have absent := Bench.cell_notMem_calls runs configuration listed
        rw [Visit.cell, List.count_replicate_self, List.count_eq_zero.mpr absent, Nat.add_zero]
      · have other : (⟨configuration, first.path⟩ : Call) ≠ ⟨configuration, file.path⟩ := by
          intro same
          have path : first.path = file.path := congrArg Call.path same
          exact listed.path_notMem (List.mem_map.mpr ⟨file, later, path.symm⟩)
        rw [Visit.cell, List.count_replicate, if_neg (by simpa using other), Nat.zero_add]
        exact ih listed.tail later

/-- A cell has as many calls in a walk as there are runs. -/
theorem count_visitCalls {runs : Nat} {dir : String} {visits : List Visit} {visit : Visit}
    {file : InputFile} (distinct : (visits.map (·.configuration)).Nodup)
    (listed : ∀ visit ∈ visits, Listed dir visit.files) (inside : visit ∈ visits)
    (member : file ∈ visit.files) :
    (visitCalls runs visits).count (visit.cell file) = runs := by
  induction visits with
  | nil => exact absurd inside (by simp)
  | cons first visits ih =>
      rw [List.map_cons, List.nodup_cons] at distinct
      rw [visitCalls_cons, List.count_append]
      rcases List.mem_cons.mp inside with rfl | later
      · have absent : visit.cell file ∉ visitCalls runs visits :=
          fun made => distinct.1 (configuration_of_mem_visitCalls made)
        rw [count_calls (listed visit inside) member, List.count_eq_zero.mpr absent, Nat.add_zero]
      · have absent : visit.cell file ∉ first.calls runs := by
          intro made
          have same : visit.configuration = first.configuration :=
            Visit.configuration_of_mem_calls made
          exact distinct.1 (same ▸ List.mem_map.mpr ⟨visit, later, rfl⟩)
        rw [List.count_eq_zero.mpr absent, Nat.zero_add]
        exact ih distinct.2 (fun other among => listed other (List.mem_cons_of_mem _ among)) later

/-! ## Looking up the entries of a walk -/

theorem map_entry_fst (log : List Exchange) (visits : List Visit) :
    (visits.map (Visit.entry log)).map (·.1) = visits.map (·.configuration) := by
  rw [List.map_map]
  rfl

theorem inputs?_entries {log : List Exchange} {visits : List Visit} {visit : Visit}
    (distinct : (visits.map (·.configuration)).Nodup) (inside : visit ∈ visits) :
    (⟨visits.map (Visit.entry log)⟩ : SampleTable).inputs? visit.configuration =
      some (visit.entry log).2 := by
  apply Table.inputs?_eq_some
  · rw [map_entry_fst]
    exact distinct
  · exact List.mem_map.mpr ⟨visit, inside, rfl⟩

theorem entry_pairwise {dir : String} {visit : Visit} (listed : Listed dir visit.files)
    (log : List Exchange) : (visit.entry log).2.Pairwise fun a b => nameBefore a.1 b.1 := by
  rw [Visit.entry, List.pairwise_map]
  exact listed.sorted

theorem value?_entries {dir : String} {log : List Exchange} {visits : List Visit} {visit : Visit}
    {file : InputFile} (distinct : (visits.map (·.configuration)).Nodup)
    (listed : Listed dir visit.files) (inside : visit ∈ visits) (member : file ∈ visit.files)
    (metric : Metric) :
    (⟨visits.map (Visit.entry log)⟩ : SampleTable).value? visit.configuration file.name metric =
      some ((log.filter (·.call = visit.cell file)).map (·.sample metric)) := by
  have names : ((visit.entry log).2.map (·.1)).Nodup := by
    rw [List.Nodup, List.pairwise_map]
    exact (entry_pairwise listed log).imp ne_of_nameBefore
  have cell := Inputs.get?_eq_some names (List.mem_map.mpr ⟨file, member, rfl⟩)
  simp only [Table.value?, inputs?_entries distinct inside, Option.bind_some, cell, recorded,
    PerMetric.get_ofFn]

/-! ## The table of a campaign -/

/-- A campaign that succeeds gives the table that its call log describes. -/
theorem run_table_eq_log (bench : Bench σ) (plan : Plan) (state : σ) (table : SampleTable)
    (ok : (bench.run plan state).result = .ok table) :
    ∃ visits, bench.TableOfLog plan state visits (bench.run plan state) table := by
  obtain ⟨visits, walk, visited, calls, onward, rfl⟩ := Bench.completed_of_ok ok
  have distinct : (visits.map (·.configuration)).Nodup := visited ▸ plan.distinct
  refine ⟨visits, walk, visited, calls, onward, ?_, ?_, ?_⟩
  · exact (map_entry_fst _ visits).trans visited
  · intro visit inside
    refine ⟨_, inputs?_entries distinct inside, ?_, entry_pairwise (walk.listed visit inside) _⟩
    rw [Visit.entry, List.map_map]
    rfl
  · intro visit inside file member metric
    have listed := walk.listed visit inside
    refine ⟨_, value?_entries distinct listed inside member metric, ?_, rfl⟩
    rw [List.length_map, Bench.length_filter_replay, calls,
      count_visitCalls distinct walk.listed inside member]

/-! ## A campaign that changes its directory -/

namespace Sample

/-- A directory with two files, not in the order of their names. -/
def tree : Tree where
  nodes := [(["d"], .directory), (["d", "b"], .file ByteArray.empty),
    (["d", "a"], .file ByteArray.empty)]
  home := []
  distinct := by decide

/-- An invoker that counts its calls: the second fails, and the third takes a file away. -/
def bench : Bench (Tree × Nat) where
  invoker := fun _ (tree, number) =>
    match number with
    | 1 => (.error (.ofCause (.reported "boom")), tree, 2)
    | 2 => (.ok "Interpreting took 20ms", tree.erase ["d", "a"], 3)
    | _ => (.ok "Generating bytecode took 10ms", tree, number + 1)
  tree := (·.1)

/-- Two configurations, two runs. -/
def plan (policy : FailurePolicy) : Plan where
  configurations := [⟨"A"⟩, ⟨""⟩]
  dir := "d"
  runs := 2
  policy := policy
  distinct := by decide
  runs_pos := by decide

/-- The second configuration finds one file less. -/
def visits : List Visit := [⟨⟨"A"⟩, [⟨"a", "d/a"⟩, ⟨"b", "d/b"⟩]⟩, ⟨⟨""⟩, [⟨"b", "d/b"⟩]⟩]

theorem inputFiles_tree : tree.inputFiles "d" = .ok [⟨"a", "d/a"⟩, ⟨"b", "d/b"⟩] := by
  have plain : hasNul "d" = false := by decide +kernel
  have listing : tree.list "d" = .ok ["b", "a"] := by decide +kernel
  have regular : ((["b", "a"].map (InputFile.ofEntry "d")).filter fun file =>
      tree.isRegular file.path) = [⟨"b", "d/b"⟩, ⟨"a", "d/a"⟩] := by decide +kernel
  have swapped : (⟨"b", "d/b"⟩ : InputFile).inOrder ⟨"a", "d/a"⟩ = false := by decide +kernel
  simp only [Tree.inputFiles, plain, listing, InputFile.select, regular]
  simp [List.mergeSort, List.MergeSort.Internal.splitInTwo, swapped]

theorem inputFiles_erase : (tree.erase ["d", "a"]).inputFiles "d" = .ok [⟨"b", "d/b"⟩] := by
  have plain : hasNul "d" = false := by decide +kernel
  have listing : (tree.erase ["d", "a"]).list "d" = .ok ["b"] := by decide +kernel
  have regular : ((["b"].map (InputFile.ofEntry "d")).filter fun file =>
      (tree.erase ["d", "a"]).isRegular file.path) = [⟨"b", "d/b"⟩] := by decide +kernel
  simp only [Tree.inputFiles, plain, listing, InputFile.select, regular]
  simp

theorem walk (policy : FailurePolicy) :
    bench.Walk (plan policy) (tree, 0) visits (tree.erase ["d", "a"], 6) :=
  .visit inputFiles_tree (.visit inputFiles_erase .done)

theorem run_zero : ∃ table, (bench.run (plan .zero) (tree, 0)).result = .ok table := by
  rw [Bench.run_of_goesOn (walk .zero) [] rfl (Bench.goesOn_zero _)]
  exact ⟨_, rfl⟩

end Sample

/-- The table of a campaign in which a call fails and another takes a file away. -/
theorem run_table_eq_log_changing :
    ∃ table visits, (Sample.bench.run (Sample.plan .zero) (Sample.tree, 0)).result = .ok table ∧
      Sample.bench.TableOfLog (Sample.plan .zero) (Sample.tree, 0) visits
        (Sample.bench.run (Sample.plan .zero) (Sample.tree, 0)) table := by
  obtain ⟨table, ok⟩ := Sample.run_zero
  obtain ⟨visits, faithful⟩ :=
    run_table_eq_log Sample.bench (Sample.plan .zero) (Sample.tree, 0) table ok
  exact ⟨table, visits, ok, faithful⟩

end PhaseBench
