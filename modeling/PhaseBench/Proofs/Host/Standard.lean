import PhaseBench.Proofs.Campaign.Inputs
import PhaseBench.Proofs.Host.Files
import PhaseBench.Proofs.Host.Overrun
import PhaseBench.Proofs.Session.Waiting
import PhaseBench.Proofs.Session.Presentation

/-!
# The standard machine

Commands other than shells are plain: they change no files and send no signals. While nothing else
goes on, such a command has one fate on the standard machine, however it is waited for
(`fate_of_plain`), so a limit makes a difference only when it is overrun (`reply?_of_plain`). A
campaign with it finds the same input files from its beginning to its end
(`categories_of_plain`).

Whatever a command starts, shells included, is ended when the limit is overrun
(`atRest_of_command_overran`).

A directory for files that are not kept is new and empty (`scratchFresh_standard`).
-/

namespace PhaseBench.Host

/-! ## Plain commands -/

/-- A command whose first word stands for a program other than a shell, or for none. -/
def IsPlain (tree : Tree) (command : Command) : Prop :=
  ∀ name, findCommand tree command.program = .ok name → IsUtility name

variable {kernel : Kernel} {command : Command} {limit : Duration}

theorem IsPlain.confined {task : Task} (plain : IsPlain kernel.tree command)
    (started : taskOf kernel command = .ok task) : task.Confined Request.Plain := by
  unfold taskOf at started
  split at started
  · cases started
  · next name found =>
      dsimp only at started
      split at started
      · cases started
      · cases started
        exact confined_image _ _ _ (plain name found)

/-- A machine on which nothing was started yet is calm, if there is nothing to read. -/
theorem Kernel.calm_of_unused (unstarted : kernel.processes = []) (unopened : kernel.files = #[])
    (unfed : kernel.Unfed) : kernel.Calm := by
  refine ⟨?confined, ?closed, unfed⟩
  case confined =>
    intro process mem
    rw [unstarted] at mem
    cases mem
  case closed =>
    intro number file opened
    simp [unopened] at opened

theorem Kernel.Calm.silent (calm : kernel.Calm) : kernel.Confined Request.Silent :=
  fun process mem => (calm.confined process mem).mono fun _ plain => plain.silent

theorem collectCommand_of_taskOf {task : Task} (clean : command.hasNul = false)
    (started : taskOf kernel command = .ok task) :
    standard.collectCommand command kernel =
      (kernel.collect .collected task).map fun (finished, kernel) => (.ok finished, kernel) := by
  rw [Machine.collectCommand, clean, if_neg Bool.false_ne_true]
  unfold standard collect
  dsimp only
  rw [started]

theorem watchCommand_of_taskOf {task : Task} (clean : command.hasNul = false)
    (started : taskOf kernel command = .ok task) :
    standard.watchCommand limit command kernel =
      (kernel.watch .watched limit task).map fun (child, kernel) => (.ok child, kernel) := by
  rw [Machine.watchCommand, clean, if_neg Bool.false_ne_true]
  unfold standard watch
  dsimp only
  rw [started]

/-- Why a command cannot be started does not depend on the way it is waited for, and nothing has
changed then. -/
theorem refused_or_started (command : Command) (kernel : Kernel) :
    (∃ cause, standard.collectCommand command kernel = some (.error cause, kernel) ∧
      ∀ limit, standard.watchCommand limit command kernel = some (.error cause, kernel)) ∨
    command.hasNul = false ∧ ∃ task, taskOf kernel command = .ok task := by
  by_cases nul : command.hasNul
  · refine .inl ⟨.nulInCommand, ?_, fun limit => ?_⟩
    · rw [Machine.collectCommand, if_pos nul]
    · rw [Machine.watchCommand, if_pos nul]
  · cases started : taskOf kernel command with
    | ok task => exact .inr ⟨by simpa using nul, task, rfl⟩
    | error cause =>
        refine .inl ⟨cause, ?_, fun limit => ?_⟩
        · rw [Machine.collectCommand, if_neg nul]
          unfold standard collect
          dsimp only
          rw [started]
        · rw [Machine.watchCommand, if_neg nul]
          unfold standard watch
          dsimp only
          rw [started]

/-- On a calm machine a plain command has one fate, whether it has a limit or not, unless it
overruns the limit. -/
theorem fate_of_plain (calm : kernel.Calm) (plain : IsPlain kernel.tree command)
    {output : ByteArray} {ending : Ending}
    (collects : standard.Collects command kernel (.ends output ending)) :
    standard.Watches limit command kernel (.ends output ending) ∨
      ∃ later, standard.watchCommand limit command kernel =
        some (.ok (.overran .done (.ok ())), later) := by
  obtain ⟨left, collected⟩ := collects
  rcases refused_or_started command kernel with ⟨cause, refused, -⟩ | ⟨clean, task, started⟩
  · rw [refused] at collected
    cases collected
  · rw [collectCommand_of_taskOf clean started, Option.map_eq_some_iff] at collected
    obtain ⟨⟨finished, left⟩, collected, same⟩ := collected
    cases same
    have silent := (plain.confined started).mono fun _ plain => plain.silent
    rcases Kernel.watch_of_collect limit calm.silent silent calm.unfed collected with
      ⟨later, ended, -⟩ | ⟨later, overran⟩
    · refine .inl ⟨later, ?_⟩
      rw [watchCommand_of_taskOf clean started, ended]
      rfl
    · refine .inr ⟨later, ?_⟩
      rw [watchCommand_of_taskOf clean started, overran]
      rfl

/-- A limit makes no difference to what a plain command gives on a calm machine, unless it is told
that the limit was overrun. -/
theorem reply?_of_plain (calm : kernel.Calm) (plain : IsPlain kernel.tree command)
    {output : ByteArray} {ending : Ending}
    (collects : standard.Collects command kernel (.ends output ending)) :
    standard.reply? (some limit) command kernel = standard.reply? none command kernel ∨
      ∃ trace, standard.reply? (some limit) command kernel = some (.error trace) ∧
        trace.line = command.description ++ " timed out after " ++ limit.text := by
  rw [Machine.reply?_some, Machine.reply?_none]
  rcases fate_of_plain calm plain collects with ⟨later, ended⟩ | ⟨later, overran⟩
  · obtain ⟨left, collected⟩ := collects
    rw [ended, collected, Option.map_some, Option.map_some, Command.outcomeIn_ended]
    exact .inl rfl
  · rw [overran, Option.map_some]
    obtain ⟨trace, told, line⟩ :=
      (command.toldLate_outcomeIn limit .done (.ok ())).timedOut (by simp) rfl
    exact .inr ⟨trace, congrArg some told, line⟩

/-- Whatever a command is, a shell or not: when it has overrun its limit nothing that it started
goes on. -/
theorem atRest_of_command_overran {kill : Kill} {reaped : Except Cause Unit} {left : Kernel}
    (rest : kernel.AtRest)
    (overran : standard.watchCommand limit command kernel =
      some (.ok (.overran kill reaped), left)) :
    left.AtRest := by
  rcases refused_or_started command kernel with ⟨cause, -, refused⟩ | ⟨clean, task, started⟩
  · rw [refused] at overran
    cases overran
  · rw [watchCommand_of_taskOf clean started, Option.map_eq_some_iff] at overran
    obtain ⟨⟨child, after⟩, watched, same⟩ := overran
    cases same
    exact Kernel.atRest_of_overran rest watched

/-! ## Campaigns -/

/-- A plain command changes no files, whether it has a limit or not. -/
theorem preserved_of_invoke? (calm : kernel.Calm) (plain : IsPlain kernel.tree command)
    {limit? : Option Duration} {invoked : Except Trace String × Kernel}
    (returned : standard.invoke? limit? command kernel = some invoked) :
    kernel.Preserved invoked.2 := by
  cases limit? with
  | none =>
      obtain ⟨⟨finished, after⟩, collected, same⟩ := Option.map_eq_some_iff.mp returned
      cases same
      rcases refused_or_started command kernel with ⟨cause, refused, -⟩ | ⟨clean, task, started⟩
      · rw [refused] at collected
        cases collected
        exact ⟨calm, rfl⟩
      · rw [collectCommand_of_taskOf clean started, Option.map_eq_some_iff] at collected
        obtain ⟨⟨finished, after⟩, collected, same⟩ := collected
        cases same
        exact calm.preserved_of_collect (plain.confined started) collected
  | some limit =>
      obtain ⟨⟨child, after⟩, watched, same⟩ := Option.map_eq_some_iff.mp returned
      cases same
      rcases refused_or_started command kernel with ⟨cause, -, refused⟩ | ⟨clean, task, started⟩
      · rw [refused] at watched
        cases watched
        exact ⟨calm, rfl⟩
      · rw [watchCommand_of_taskOf clean started, Option.map_eq_some_iff] at watched
        obtain ⟨⟨child, after⟩, watched, same⟩ := watched
        cases same
        exact calm.preserved_of_watch (plain.confined started) watched

variable {template : Command} (limit? : Option Duration)

theorem preserved_of_call {world : World Kernel} (calm : world.state.Calm)
    (plain : IsPlain world.state.tree template) (call : PhaseBench.Call) :
    world.state.Preserved ((standard.bench template limit?).invoker call world).2.state := by
  unfold Machine.bench Machine.invoker
  dsimp only
  split
  · exact ⟨calm, rfl⟩
  · split
    · next reply left returned =>
        have same : IsPlain world.state.tree (template.fill call.configuration call.path) := plain
        exact preserved_of_invoke? calm same returned
    · exact ⟨calm, rfl⟩

/-- The calls of a plain command leave the files of a calm machine as they are. -/
theorem preserved_after {world : World Kernel} (calm : world.state.Calm)
    (plain : IsPlain world.state.tree template) (calls : List PhaseBench.Call) :
    world.state.Preserved ((standard.bench template limit?).after calls world).state := by
  induction calls generalizing world with
  | nil => exact ⟨calm, rfl⟩
  | cons call calls ih =>
      have first := preserved_of_call limit? calm plain call
      exact first.trans (ih first.calm (first.tree ▸ plain))

theorem list_of_inputFiles {tree : Tree} {dir : String} {files : List InputFile}
    (found : tree.inputFiles dir = .ok files) : ∃ names, tree.list dir = .ok names := by
  unfold Tree.inputFiles at found
  split at found
  · cases found
  · split at found
    · next names listing => exact ⟨names, listing⟩
    · cases found

/-- All charts of a campaign of a plain command have the files that were found at first as their
groups. -/
theorem categories_of_plain {world : World Kernel} {plan : Plan} {files : List InputFile}
    {table : SampleTable} (calm : world.state.Calm) (plain : IsPlain world.state.tree template)
    (found : world.state.tree.inputFiles plan.dir = .ok files)
    (ok : ((standard.bench template limit?).run plan world).result = .ok table) :
    ∀ chart ∈ Chart.ofSummary table.summarize, chart.categories = files.map (·.name) := by
  refine Bench.categories_of_unchanged found ok ?_
  intro before _
  have kept : (standard.bench template limit?).tree
      ((standard.bench template limit?).after before world) = world.state.tree :=
    (preserved_after limit? calm plain before).tree
  obtain ⟨names, listing⟩ := list_of_inputFiles found
  rw [kept]
  exact ⟨names, names, listing, listing, .rfl, fun _ _ => Iff.rfl⟩

/-! ## Directories that are not kept -/

theorem toList_scratchName (n : Nat) :
    (scratchName n).toList = "interp-bench-".toList ++ Nat.toDigits 10 n := by
  simp [scratchName, Text.decimal]

theorem plain_scratchName (n : Nat) : Path.Plain (scratchName n) := by
  have longer (name : String) (short : name.length < 13) : scratchName n ≠ name := by
    rintro rfl
    rw [← String.length_toList, toList_scratchName, List.length_append] at short
    exact absurd short (by simp)
  refine ⟨longer _ (by decide), ?_, longer _ (by decide), longer _ (by decide)⟩
  rw [toList_scratchName, List.mem_append]
  rintro (front | digit)
  · exact absurd front (by decide)
  · exact absurd (Nat.isDigit_of_mem_toDigits (by decide) (by decide) digit) (by decide)

theorem utf8ByteSize_scratchName {n : Nat} (few : n < scratchNames) :
    (scratchName n).utf8ByteSize ≤ 16 := by
  have all : ∀ n < scratchNames, (scratchName n).utf8ByteSize ≤ 16 := by decide +kernel
  exact all n few

theorem utf8ByteSize_join_le (dir name : String) :
    (Path.join dir name).utf8ByteSize ≤ dir.utf8ByteSize + 1 + name.utf8ByteSize := by
  have slash : "/".utf8ByteSize = 1 := rfl
  unfold Path.join
  split <;> simp only [String.utf8ByteSize_append, slash] <;> omega

theorem node?_of_free {tree : Tree} {location : Location} (below : location ≠ [])
    (free : (!tree.nodes.any fun entry => location.isPrefixOf entry.1) = true) (rest : Location) :
    tree.node? (location ++ rest) = none := by
  unfold Tree.node?
  rw [if_neg (by simp [below]), Option.map_eq_none_iff, List.find?_eq_none]
  intro entry mem same
  rw [Bool.not_eq_true', List.any_eq_false] at free
  refine free entry mem ?_
  rw [beq_iff_eq.mp same]
  simp

theorem fresh_put {tree : Tree} {location : Location} {n : Nat}
    (resolved : tree.resolve scratchRoot = .ok (location, .directory)) (few : n < scratchNames)
    (free : ∀ rest, tree.node? (location ++ [scratchName n] ++ rest) = none) :
    Tree.Fresh (scratchPath n) (location ++ [scratchName n]) tree
      (tree.put (location ++ [scratchName n]) .directory) := by
  have below : location ++ [scratchName n] ≠ [] := by simp
  have absent : tree.node? (location ++ [scratchName n]) = none := by
    simpa using free []
  have node_eq := tree.node?_put below .directory
  have keeps : Tree.Keeps tree (tree.put (location ++ [scratchName n]) .directory) := by
    constructor
    · intro other directory
      rw [node_eq]
      split
      · rfl
      · exact directory
    · intro other target link
      rw [node_eq, if_neg, link]
      rintro rfl
      rw [absent] at link
      cases link
  refine ⟨?_, free, node_eq⟩
  obtain ⟨links, within, way⟩ := Tree.leads_names_of_resolve resolved
  have reached : tree.Reaches scratchRoot location := way.steps_eq within
  have short := utf8ByteSize_scratchName few
  have entry : (tree.put (location ++ [scratchName n]) .directory).node?
      (location ++ [scratchName n]) = some .directory := by rw [node_eq, if_pos rfl]
  refine (reached.of_keeps keeps (tree.home_put _ _)).resolve_join (plain_scratchName n) ?_ ?_ ?_
    entry
  · rw [entry]
    simp
  · have root : scratchRoot.utf8ByteSize = 4 := rfl
    have length := utf8ByteSize_join_le scratchRoot (scratchName n)
    unfold Tree.pathLimit
    omega
  · exact short.trans (by decide)

/-- The standard machine makes a new and empty directory for files that are not kept, or tells why
it could not and leaves all as it was. -/
theorem scratchFresh_standard : standard.ScratchFresh where
  made kernel dir after made := by
    have made : makeScratch kernel = (.ok dir, after) := made
    unfold makeScratch at made
    split at made
    · cases made
    · next location resolved =>
        dsimp only at made
        split at made
        · next n first =>
            cases made
            have mem : n ∈ List.range scratchNames := List.mem_of_find?_eq_some first
            have free := List.find?_some first
            exact ⟨_, fresh_put resolved (List.mem_range.mp mem) (node?_of_free (by simp) free)⟩
        · cases made
    · cases made
  refused kernel cause after refused := by
    have refused : makeScratch kernel = (.error cause, after) := refused
    unfold makeScratch at refused
    split at refused
    · cases refused
      rfl
    · dsimp only at refused
      split at refused <;> cases refused
      rfl
    · cases refused
      rfl

end PhaseBench.Host
