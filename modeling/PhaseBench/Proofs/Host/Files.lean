import PhaseBench.Proofs.Host.Program
import PhaseBench.Proofs.Host.Running

/-!
# Commands that change no files

When no open file can be written to but pipes and devices (`Kernel.Sealed`), and processes open
files only to read them, the files stay as they are from step to step (`Spares`). So a plain
command that is started on such a kernel leaves the files as they were, with a limit and without
one (`Calm.preserved_of_collect`, `Calm.preserved_of_watch`).
-/

namespace PhaseBench.Host.Kernel

/-- No regular file is open for writing. -/
def Sealed (kernel : Kernel) : Prop :=
  ∀ (number : Nat) (file : OpenFile), kernel.files[number]? = some file → file.writable →
    ∀ location, file.channel ≠ .file location

/-- A kernel after something that changed no files and left none open for writing. -/
structure Spared (before after : Kernel) : Prop where
  tree : after.tree = before.tree
  input : after.input = before.input
  closed : after.Sealed

/-- No file is changed from one kernel to the other if none was open for writing. -/
def Spares (before after : Kernel) : Prop := before.Sealed → before.Spared after

variable {kernel : Kernel}

theorem Spares.of_files {before after : Kernel} (tree : after.tree = before.tree)
    (input : after.input = before.input) (files : after.files = before.files) :
    before.Spares after := by
  intro closed
  refine ⟨tree, input, ?_⟩
  unfold Sealed
  rw [files]
  exact closed

theorem Spares.refl (kernel : Kernel) : kernel.Spares kernel := .of_files rfl rfl rfl

theorem Spares.trans {first second third : Kernel} (one : first.Spares second)
    (two : second.Spares third) : first.Spares third := by
  intro closed
  have early := one closed
  have late := two early.closed
  exact ⟨late.tree.trans early.tree, late.input.trans early.input, late.closed⟩

/-! ## Changing processes -/

theorem spares_stir : kernel.Spares (stir kernel) := by
  unfold stir
  split <;> exact .of_files rfl rfl rfl

theorem frame_spares : Frame Spares where
  refl := .refl
  trans := .trans
  change _ _ _ _ := .of_files rfl rfl rfl
  stir _ := spares_stir
  finish kernel id ending := by
    unfold finish
    refine .trans ?_ spares_stir
    exact .of_files rfl rfl rfl
  forget _ _ := .of_files rfl rfl rfl

/-! ## Open files -/

theorem Sealed.setOffset (closed : kernel.Sealed) (number offset : Nat) :
    (kernel.setOffset number offset).Sealed := by
  intro other file found writable
  have modified : (kernel.files.modify number fun entry => { entry with offset })[other]? =
      some file := found
  rw [Array.getElem?_modify] at modified
  split at modified
  · obtain ⟨entry, before, rfl⟩ := Option.map_eq_some_iff.mp modified
    exact closed other entry before writable
  · exact closed other file modified writable

theorem Sealed.addFile (closed : kernel.Sealed) {file : OpenFile} (fixed : file.writable →
    ∀ location, file.channel ≠ .file location) : (kernel.addFile file).2.Sealed := by
  intro other entry found writable
  have pushed : (kernel.files.push file)[other]? = some entry := found
  rw [Array.getElem?_push] at pushed
  split at pushed
  · cases pushed
    exact fixed writable
  · exact closed other entry pushed writable

theorem spares_setOffset (number offset : Nat) : kernel.Spares (kernel.setOffset number offset) :=
  fun closed => ⟨rfl, rfl, closed.setOffset number offset⟩

theorem spares_addFile {file : OpenFile} (fixed : file.writable →
    ∀ location, file.channel ≠ .file location) : kernel.Spares (kernel.addFile file).2 :=
  fun closed => ⟨rfl, rfl, closed.addFile fixed⟩

theorem spares_giveFile {file : OpenFile} (id : Nat) (fixed : file.writable →
    ∀ location, file.channel ≠ .file location) : kernel.Spares (kernel.giveFile id file).2 := by
  refine (spares_addFile fixed).trans ?_
  unfold giveFile
  dsimp only
  split
  · exact .of_files rfl rfl rfl
  · exact .refl _

theorem tree_openPath {process : Process} {path : String} {channel : Channel} {tree : Tree}
    (opened : kernel.openPath process path { reads := true } = .ok (channel, tree)) :
    tree = kernel.tree := by
  simp only [openPath, Bool.false_eq_true, if_false] at opened
  split at opened
  · cases opened
  · split at opened
    case h_2 =>
      split at opened
      · split at opened <;> cases opened <;> rfl
      · cases opened
    all_goals cases opened
    all_goals rfl
  · cases opened

/-! ## Answers -/

theorem spares_stir_pipes (pipes : Array Pipe) : kernel.Spares (stir { kernel with pipes }) := by
  refine .trans ?_ spares_stir
  exact .of_files rfl rfl rfl

theorem spares_readFrom {process : Process} {descriptor : Nat} {wanted : ByteArray → Nat → Nat}
    {answer : Answer (Except OsError ByteArray)}
    (answered : kernel.readFrom process descriptor wanted = some answer) :
    kernel.Spares answer.kernel := by
  rcases cases_of_readFrom answered with same | ⟨number, offset, same⟩ | ⟨pipes, same⟩ <;> rw [same]
  · exact .refl kernel
  · exact spares_setOffset _ _
  · exact spares_stir_pipes _

theorem spares_writeTo {process : Process} {descriptor : Nat} {bytes : ByteArray}
    {answer : Answer (Except OsError Nat)}
    (answered : kernel.writeTo process descriptor bytes = some answer) :
    kernel.Spares answer.kernel := by
  intro closed
  rcases cases_of_writeTo answered with same | overwrites | same | ⟨pipes, same⟩
  · exact same ▸ Spares.refl kernel closed
  · obtain ⟨number, file, location, tree, offset, opened, writable, leads, -⟩ := overwrites
    exact absurd leads (closed number file opened writable location)
  · exact same ▸ frame_spares.deliver _ _ _ _ closed
  · exact same ▸ spares_stir_pipes _ closed

theorem spares_answer {process : Process} {request : Request} {answer : Answer request.Reply}
    (plain : request.Plain) (answered : kernel.answer process request = some answer) :
    kernel.Spares answer.kernel := by
  cases request with
  | read | readLine =>
      rw [Kernel.answer] at answered
      exact spares_readFrom answered
  | write =>
      rw [Kernel.answer] at answered
      exact spares_writeTo answered
  | openFile path mode =>
      cases (plain : mode = _)
      simp only [Kernel.answer] at answered
      split at answered <;> cases answered
      · exact .refl kernel
      · next channel tree opened =>
          cases tree_openPath opened
          exact spares_giveFile _ (by simp)
  | pipe =>
      cases answered
      have first : kernel.Spares (kernel.addPipe {}).2 := .of_files rfl rfl rfl
      refine first.trans (.trans (spares_giveFile _ ?source) (spares_giveFile _ ?sink))
      case source => simp
      case sink => simp
  | stepBack =>
      simp only [Kernel.answer] at answered
      split at answered
      · cases answered
        exact .refl kernel
      · split at answered <;> cases answered
        · exact spares_setOffset _ _
        · exact .refl kernel
  | _ => exact frame_spares.answer trivial answered

/-! ## Steps and runs -/

theorem spares_act {process : Process} (plain : process.task.Confined Request.Plain) :
    kernel.Spares (kernel.act process) := by
  unfold act
  split
  · exact frame_spares.finish _ _ _
  · exact frame_spares.finish _ _ _
  · exact .of_files rfl rfl rfl
  · next request next _ task =>
      rw [task] at plain
      cases plain with
      | ask here _ =>
          split
          · exact .of_files rfl rfl rfl
          · next answer answered =>
              refine (spares_answer here answered).trans ?_
              exact .of_files rfl rfl rfl

/-- A kernel on which commands change no files: nothing that runs sends signals or opens files
other than to read them, no file is open for writing, and what commands inherit is empty. -/
structure Calm (kernel : Kernel) : Prop where
  confined : kernel.Confined Request.Plain
  closed : kernel.Sealed
  unfed : kernel.Unfed

/-- A calm kernel with the files of another one. -/
structure Preserved (before after : Kernel) : Prop where
  calm : after.Calm
  tree : after.tree = before.tree

theorem Preserved.trans {first second third : Kernel} (one : first.Preserved second)
    (two : second.Preserved third) : first.Preserved third :=
  ⟨two.calm, two.tree.trans one.tree⟩

theorem Spares.preserved {before after : Kernel} (spares : before.Spares after)
    (calm : before.Calm) (confined : after.Confined Request.Plain) : before.Preserved after := by
  obtain ⟨tree, input, closed⟩ := spares calm.closed
  exact ⟨⟨confined, closed, input.trans calm.unfed⟩, tree⟩

theorem Calm.step (calm : kernel.Calm) {process : Process} (mem : process ∈ kernel.processes) :
    kernel.Preserved (kernel.step process) := by
  have timed : kernel.Spares { kernel with clock := max kernel.clock process.ready } :=
    .of_files rfl rfl rfl
  exact (timed.trans (spares_act (calm.confined process mem))).preserved calm
    (calm.confined.step trivial mem)

theorem Calm.run (calm : kernel.Calm) (main pipe : Nat) (deadline? : Option Nat) (fuel : Nat) :
    kernel.Preserved (run main pipe deadline? fuel kernel).2 := by
  refine run_keeps ?step main pipe deadline? fuel ⟨calm, rfl⟩
  intro before process next kept
  exact kept.trans (kept.calm.step (mem_of_next? next).1)

theorem Calm.start (calm : kernel.Calm) (mode : StartMode) {task : Task}
    (plain : task.Confined Request.Plain) :
    kernel.Preserved (kernel.start mode task).kernel := by
  refine Spares.preserved ?_ calm (calm.confined.start mode plain)
  have piped : kernel.Spares (kernel.addPipe { collected := true }).2 := .of_files rfl rfl rfl
  have unfed : (kernel.addPipe { collected := true }).2.Unfed := calm.unfed
  refine piped.trans (.trans (spares_addFile ?input) (.trans (spares_addFile ?sink) (.trans
    (spares_addFile ?errors) (.of_files rfl rfl rfl))))
  case input =>
    have nothing := congrArg OpenFile.writable (unfed.inputOf_eq mode.input)
    exact fun writable => absurd (nothing.symm.trans writable) (by decide)
  case sink => simp
  case errors => simp

theorem Calm.forget (calm : kernel.Calm) (id : Nat) : kernel.Preserved (kernel.forget id) :=
  (frame_spares.forget _ _).preserved calm ((descends_forget _ _).confined trivial calm.confined)

/-- Killing a group changes no files either. -/
theorem Calm.killGroup (calm : kernel.Calm) (group : Nat) :
    kernel.Preserved (kernel.killGroup group) :=
  (frame_spares.killGroup _ _).preserved calm
    ((frame_descends.killGroup _ _).confined trivial calm.confined)

/-! ## Commands -/

/-- A plain command that is waited for without a limit changes no files. -/
theorem Calm.preserved_of_collect (calm : kernel.Calm) {mode : StartMode} {task : Task}
    (plain : task.Confined Request.Plain) {finished : Finished} {left : Kernel}
    (collected : kernel.collect mode task = some (finished, left)) : kernel.Preserved left := by
  have started := calm.start mode plain
  have ran := started.trans (started.calm.run (kernel.lastId + 1) kernel.pipes.size none stepLimit)
  rcases alone : Kernel.run (kernel.lastId + 1) kernel.pipes.size none stepLimit
    (kernel.start mode task).kernel with ⟨halt, after⟩
  rw [alone] at ran
  rw [collect_of_run alone] at collected
  cases halt with
  | overran => cases collected
  | stuck => cases collected
  | ended ending =>
      cases collected
      exact ran.trans (ran.calm.forget _)

/-- Nor does one that is waited for up to a limit, whether it is killed or not. -/
theorem Calm.preserved_of_watch (calm : kernel.Calm) {mode : StartMode} {limit : Duration}
    {task : Task} (plain : task.Confined Request.Plain) {child : Child} {left : Kernel}
    (watched : kernel.watch mode limit task = some (child, left)) : kernel.Preserved left := by
  have started := calm.start mode plain
  have ran := started.trans (started.calm.run (kernel.lastId + 1) kernel.pipes.size
    (some (kernel.clock + limit.nanoseconds)) stepLimit)
  rcases timed : Kernel.run (kernel.lastId + 1) kernel.pipes.size
    (some (kernel.clock + limit.nanoseconds)) stepLimit (kernel.start mode task).kernel
    with ⟨halt, after⟩
  rw [timed] at ran
  rw [watch_of_run timed] at watched
  cases halt with
  | stuck => cases watched
  | ended ending =>
      cases watched
      exact ran.trans (ran.calm.forget _)
  | overran =>
      cases watched
      have killed := ran.trans (ran.calm.killGroup (kernel.lastId + 1))
      exact killed.trans (killed.calm.forget _)

end PhaseBench.Host.Kernel
