import PhaseBench.Host.Kernel.Schedule

/-!
# Process groups

Only a signal that is sent looks at the group of a process. To every other request a kernel whose
processes were put into one group answers as the kernel itself does (`answer_ungrouped`), so the
process that does the next step is the same (`next?_ungrouped`), and its step too
(`step_ungrouped`).
-/

namespace PhaseBench.Host

/-- The process in a group that is that of all processes. -/
def Process.ungrouped (process : Process) : Process := { process with group := 0 }

namespace Kernel

/-- The kernel with all its processes in one group. -/
def ungrouped (kernel : Kernel) : Kernel :=
  { kernel with processes := kernel.processes.map Process.ungrouped }

variable (kernel : Kernel)

/-! ## Looking at processes -/

theorem process?_ungrouped (id : Nat) :
    kernel.ungrouped.process? id = (kernel.process? id).map Process.ungrouped := by
  simp only [process?, ungrouped, List.find?_map]
  rfl

theorem anyOpen_ungrouped (condition : Channel → Bool) :
    kernel.ungrouped.anyOpen condition = kernel.anyOpen condition := by
  simp only [anyOpen, ungrouped, List.any_map]
  rfl

theorem hasWriter_ungrouped (pipe : Nat) :
    kernel.ungrouped.hasWriter pipe = kernel.hasWriter pipe := anyOpen_ungrouped _ _

theorem hasReader_ungrouped (pipe : Nat) :
    kernel.ungrouped.hasReader pipe = kernel.hasReader pipe := by
  unfold hasReader
  rw [anyOpen_ungrouped]
  rfl

theorem endedChild?_ungrouped (parent : Nat) :
    kernel.ungrouped.endedChild? parent = kernel.endedChild? parent := by
  simp only [endedChild?, ungrouped, List.findSome?_map]
  rfl

theorem first_ungrouped (best? : Option Process) (process : Process) :
    Process.first (best?.map Process.ungrouped) process.ungrouped =
      (Process.first best? process).map Process.ungrouped := by
  have able : process.ungrouped.canStep = process.canStep := rfl
  unfold Process.first
  rw [able]
  cases process.canStep with
  | false => rfl
  | true =>
      cases best? with
      | none => rfl
      | some best =>
          by_cases earlier : process.ready < best.ready <;>
            simp [Process.ungrouped, earlier]

theorem next?_ungrouped : kernel.ungrouped.next? = kernel.next?.map Process.ungrouped := by
  have fold : ∀ (processes : List Process) (best? : Option Process),
      (processes.map Process.ungrouped).foldl Process.first (best?.map Process.ungrouped) =
        (processes.foldl Process.first best?).map Process.ungrouped := by
    intro processes
    induction processes with
    | nil => exact fun _ => rfl
    | cons process processes ih =>
        intro best?
        rw [List.map_cons, List.foldl_cons, List.foldl_cons, first_ungrouped, ih]
  exact fold kernel.processes none

/-! ## Changing processes -/

theorem change_ungrouped (id : Nat) {f g : Process → Process}
    (commutes : ∀ process, g process.ungrouped = (f process).ungrouped) :
    kernel.ungrouped.change id g = (kernel.change id f).ungrouped := by
  simp only [change, ungrouped, List.map_map]
  congr 1
  apply List.map_congr_left
  intro process _
  show (if process.id == id then g process.ungrouped else process.ungrouped) =
    (if process.id == id then f process else process).ungrouped
  rw [commutes]
  split <;> rfl

theorem stir_ungrouped : stir kernel.ungrouped = (stir kernel).ungrouped := by
  have waiting : kernel.ungrouped.processes.any (·.blocked) =
      kernel.processes.any (·.blocked) := by
    simp only [ungrouped, List.any_map]
    rfl
  unfold stir
  rw [waiting]
  split
  · simp only [ungrouped, List.map_map]
    congr 1
    apply List.map_congr_left
    intro process _
    show (if process.blocked then _ else _) = (if process.blocked then _ else _ : Process).ungrouped
    split <;> rfl
  · rfl

theorem stir_change_ungrouped (id : Nat) {f g : Process → Process}
    (commutes : ∀ process, g process.ungrouped = (f process).ungrouped) :
    stir (kernel.ungrouped.change id g) = (stir (kernel.change id f)).ungrouped := by
  rw [change_ungrouped kernel id commutes, stir_ungrouped]

theorem stir_withPipes_ungrouped (pipes : Array Pipe) :
    stir { kernel.ungrouped with pipes } = (stir { kernel with pipes }).ungrouped :=
  stir_ungrouped { kernel with pipes }

theorem addPipe_ungrouped (pipe : Pipe) :
    kernel.ungrouped.addPipe pipe =
      ((kernel.addPipe pipe).1, (kernel.addPipe pipe).2.ungrouped) := rfl

theorem addFile_ungrouped (file : OpenFile) :
    kernel.ungrouped.addFile file =
      ((kernel.addFile file).1, (kernel.addFile file).2.ungrouped) := rfl

theorem giveFile_ungrouped (id : Nat) (file : OpenFile) :
    kernel.ungrouped.giveFile id file =
      ((kernel.giveFile id file).1, (kernel.giveFile id file).2.ungrouped) := by
  unfold giveFile
  rw [addFile_ungrouped]
  dsimp only
  rw [process?_ungrouped]
  cases (kernel.addFile file).2.process? id with
  | none => rfl
  | some process =>
      refine Prod.ext rfl ?_
      exact change_ungrouped _ id fun _ => rfl

theorem forget_ungrouped (id : Nat) :
    kernel.ungrouped.forget id = (kernel.forget id).ungrouped := by
  simp only [forget, ungrouped, List.filter_map]
  rfl

theorem survive_ungrouped (id parent : Nat) (ending : Ending) (process : Process) :
    process.ungrouped.survive id parent ending =
      (process.survive id parent ending).map Process.ungrouped := by
  unfold Process.survive Process.ungrouped
  dsimp only
  split
  · split <;> rfl
  · split
    · split <;> rfl
    · split <;> rfl

theorem finish_ungrouped (id : Nat) (ending : Ending) :
    kernel.ungrouped.finish id ending = (kernel.finish id ending).ungrouped := by
  unfold finish
  rw [process?_ungrouped, Option.map_map, ← stir_ungrouped]
  have parent : (·.parent) ∘ Process.ungrouped = Process.parent := rfl
  simp only [ungrouped, List.filterMap_map, List.map_filterMap, parent, Function.comp_def,
    survive_ungrouped]

/-! ## Signals -/

theorem strike_ungrouped (sender id signal : Nat) :
    kernel.ungrouped.strike sender id signal = (kernel.strike sender id signal).ungrouped := by
  unfold strike
  split
  · exact finish_ungrouped _ _ _
  · refine change_ungrouped _ _ ?_
    intro process
    show (if process.doom.isSome then _ else _) =
      (if process.doom.isSome then _ else _ : Process).ungrouped
    split <;> rfl

theorem affect_ungrouped (sender id signal : Nat) :
    kernel.ungrouped.affect sender id signal = (kernel.affect sender id signal).ungrouped := by
  unfold affect
  rw [process?_ungrouped]
  cases kernel.process? id with
  | none => rfl
  | some process =>
      have ignored : process.ungrouped.ignored = process.ignored := rfl
      have caught : process.ungrouped.caught = process.caught := rfl
      simp only [Option.map_some, ignored, caught]
      split
      · rfl
      · split
        · exact change_ungrouped _ _ fun _ => rfl
        · split
          · rfl
          · exact change_ungrouped _ _ fun _ => rfl
          · exact strike_ungrouped _ _ _ _

theorem deliver_ungrouped (sender id signal : Nat) :
    kernel.ungrouped.deliver sender id signal = (kernel.deliver sender id signal).ungrouped := by
  unfold deliver
  rw [process?_ungrouped]
  cases kernel.process? id with
  | none => rfl
  | some process =>
      have ending : process.ungrouped.ending = process.ending := rfl
      have halted : process.ungrouped.halted = process.halted := rfl
      have held : process.ungrouped.held = process.held := rfl
      simp only [Option.map_some, ending, halted, held]
      split
      · rfl
      · split
        · exact strike_ungrouped _ _ _ _
        · split
          · split
            · let resume (process : Process) : Process := { process with
                halted := false, held := [], ready := max process.ready kernel.clock }
              have resumed : kernel.ungrouped.change id resume =
                  (kernel.change id resume).ungrouped := change_ungrouped kernel id fun _ => rfl
              show process.held.foldl _ ((kernel.ungrouped.change id resume).affect _ _ _) = _
              rw [resumed, affect_ungrouped]
              exact List.foldl_hom ungrouped fun _ _ => affect_ungrouped _ _ _ _
            · exact affect_ungrouped _ _ _ _
          · split
            · exact change_ungrouped _ _ fun _ => rfl
            · exact affect_ungrouped _ _ _ _

end Kernel

/-! ## Answers -/

/-- The answer with the kernel after it in one group. -/
def Answer.ungrouped {α : Type} (answer : Answer α) : Answer α :=
  { answer with kernel := answer.kernel.ungrouped }

theorem Answer.some_ungrouped {α : Type} {reply : α} {cost : Nat} {left right : Kernel}
    (same : left = right.ungrouped) :
    some (⟨reply, left, cost⟩ : Answer α) =
      (some ⟨reply, right, cost⟩ : Option (Answer α)).map Answer.ungrouped := by
  rw [same]
  rfl

namespace Kernel

variable (kernel : Kernel)

theorem readFrom_ungrouped (process : Process) (descriptor : Nat)
    (wanted : ByteArray → Nat → Nat) :
    kernel.ungrouped.readFrom process.ungrouped descriptor wanted =
      (kernel.readFrom process descriptor wanted).map Answer.ungrouped := by
  have file : process.ungrouped.file? descriptor = process.file? descriptor := rfl
  have pending : process.ungrouped.pending = process.pending := rfl
  have files : kernel.ungrouped.files = kernel.files := rfl
  have tree : kernel.ungrouped.tree = kernel.tree := rfl
  have pipes : kernel.ungrouped.pipes = kernel.pipes := rfl
  unfold readFrom
  simp only [file, pending, files, tree, pipes, hasWriter_ungrouped]
  cases process.file? descriptor with
  | none => rfl
  | some number =>
      dsimp only
      cases kernel.files[number]? with
      | none => rfl
      | some open_ =>
          dsimp only
          split
          · rfl
          · cases open_.channel with
            | directory | sink => rfl
            | device kind =>
                cases kind with
                | null | descriptor => rfl
                | zero | full =>
                    dsimp only
                    split <;> rfl
            | file location =>
                dsimp only
                cases kernel.tree.node? location with
                | none => rfl
                | some node => cases node <;> rfl
            | source pipe =>
                dsimp only
                cases kernel.pipes[pipe]? with
                | none => rfl
                | some content =>
                    dsimp only
                    split
                    · split
                      · rfl
                      · split <;> rfl
                    · exact Answer.some_ungrouped (stir_withPipes_ungrouped _ _)

theorem writeTo_ungrouped (process : Process) (descriptor : Nat) (bytes : ByteArray) :
    kernel.ungrouped.writeTo process.ungrouped descriptor bytes =
      (kernel.writeTo process descriptor bytes).map Answer.ungrouped := by
  have file : process.ungrouped.file? descriptor = process.file? descriptor := rfl
  have files : kernel.ungrouped.files = kernel.files := rfl
  have tree : kernel.ungrouped.tree = kernel.tree := rfl
  have pipes : kernel.ungrouped.pipes = kernel.pipes := rfl
  unfold writeTo
  simp only [file, files, tree, pipes, hasReader_ungrouped]
  cases process.file? descriptor with
  | none => rfl
  | some number =>
      dsimp only
      cases kernel.files[number]? with
      | none => rfl
      | some entry =>
          dsimp only
          split
          · rfl
          · cases entry.channel with
            | directory | source => rfl
            | device kind => cases kind <;> rfl
            | file location =>
                dsimp only
                cases kernel.tree.node? location with
                | none => rfl
                | some node => cases node <;> rfl
            | sink pipe =>
                dsimp only
                cases kernel.pipes[pipe]? with
                | none => rfl
                | some content =>
                    dsimp only
                    split
                    · exact Answer.some_ungrouped (deliver_ungrouped _ _ _ _)
                    · generalize count : (if content.collected || bytes.size ≤ content.room then
                        bytes.size else if bytes.size ≤ Pipe.undivided then 0 else content.room) = n
                      split
                      · rfl
                      · exact Answer.some_ungrouped (stir_withPipes_ungrouped _ _)

theorem openPath_ungrouped (process : Process) (path : String) (mode : OpenMode) :
    kernel.ungrouped.openPath process.ungrouped path mode = kernel.openPath process path mode :=
  rfl

/-- A kernel that has one group only gives the same answers, unless it is asked to send a
signal. -/
theorem answer_ungrouped (process : Process) (request : Request)
    (silent : ∀ target signal, request ≠ .send target signal) :
    kernel.ungrouped.answer process.ungrouped request =
      (kernel.answer process request).map Answer.ungrouped := by
  have file : ∀ descriptor, process.ungrouped.file? descriptor = process.file? descriptor :=
    fun _ => rfl
  have id : process.ungrouped.id = process.id := rfl
  have pending : process.ungrouped.pending = process.pending := rfl
  cases request with
  | send target signal => exact absurd rfl (silent target signal)
  | pass | hang | inspect | look | ignoredSignals | self =>
      simp only [answer]
      rfl
  | read | readLine =>
      simp only [answer]
      exact readFrom_ungrouped kernel process _ _
  | write =>
      simp only [answer]
      exact writeTo_ungrouped kernel process _ _
  | openFile path mode =>
      simp only [answer, openPath_ungrouped]
      cases kernel.openPath process path mode with
      | error error => rfl
      | ok opened =>
          obtain ⟨channel, tree⟩ := opened
          have given := giveFile_ungrouped { kernel with tree } process.id
            { channel, readable := mode.reads, writable := mode.writes, appends := mode.appends }
          exact congrArg (fun given : Nat × Kernel =>
            some (⟨Except.ok given.1, given.2, 2000⟩ : Answer (Except OsError Nat))) given
  | close descriptor =>
      simp only [answer]
      exact Answer.some_ungrouped (stir_change_ungrouped kernel _ fun _ => rfl)
  | keep descriptor least =>
      simp only [answer, file]
      cases process.file? descriptor with
      | none => rfl
      | some file => exact Answer.some_ungrouped (change_ungrouped kernel _ fun _ => rfl)
  | redirect source target =>
      simp only [answer, file]
      cases process.file? source with
      | none => rfl
      | some file => exact Answer.some_ungrouped (stir_change_ungrouped kernel _ fun _ => rfl)
  | pipe =>
      simp only [answer, id, addPipe_ungrouped, giveFile_ungrouped]
      rfl
  | stepBack descriptor count =>
      have files : kernel.ungrouped.files = kernel.files := rfl
      simp only [answer, file, files]
      cases process.file? descriptor with
      | none => rfl
      | some number =>
          dsimp only
          cases kernel.files[number]? with
          | none => rfl
          | some entry =>
              obtain ⟨channel, _, _, _, offset⟩ := entry
              cases channel <;> rfl
  | enter location =>
      simp only [answer]
      exact Answer.some_ungrouped (change_ungrouped kernel _ fun _ => rfl)
  | await interruptible =>
      simp only [answer, id, pending, endedChild?_ungrouped]
      cases kernel.endedChild? process.id with
      | some ended => exact Answer.some_ungrouped (forget_ungrouped _ _)
      | none =>
          have children : kernel.ungrouped.processes.any (·.parent == process.id) =
              kernel.processes.any (·.parent == process.id) := by
            simp only [ungrouped, List.any_map]
            rfl
          dsimp only
          rw [children]
          split
          · rfl
          · split
            · rfl
            · rw [Option.map_map]
              rfl
  | reap =>
      simp only [answer, id, endedChild?_ungrouped]
      cases kernel.endedChild? process.id with
      | some ended => exact Answer.some_ungrouped (forget_ungrouped _ _)
      | none => rfl
  | dispose signal disposition =>
      simp only [answer]
      refine Answer.some_ungrouped (change_ungrouped kernel _ ?_)
      intro process
      cases disposition <;> rfl
  | takeSignals =>
      simp only [answer, pending]
      split
      · rfl
      · exact Answer.some_ungrouped (change_ungrouped kernel _ fun _ => rfl)
  | become =>
      simp only [answer]
      exact Answer.some_ungrouped (stir_change_ungrouped kernel _ fun _ => rfl)

/-! ## Steps -/

theorem fork_ungrouped (process : Process) (child : Task) (next : Nat → Task) :
    kernel.ungrouped.fork process.ungrouped child next =
      (kernel.fork process child next).ungrouped := by
  let id := kernel.lastId + 1
  let onward (process : Process) : Process :=
    { process with task := next id, ready := process.ready + forkCost }
  have changed : ({ kernel.ungrouped with lastId := id } : Kernel).change process.id onward =
      (({ kernel with lastId := id } : Kernel).change process.id onward).ungrouped :=
    change_ungrouped { kernel with lastId := id } process.id fun _ => rfl
  have added := congrArg (fun kernel : Kernel => ({ kernel with
    processes := kernel.processes ++ [(offspring process id child).ungrouped] } : Kernel)) changed
  refine added.trans ?_
  simp only [ungrouped, fork, List.map_append]
  rfl

theorem act_ungrouped (process : Process)
    (silent : ∀ target signal next, process.task ≠ .ask (.send target signal) next) :
    kernel.ungrouped.act process.ungrouped = (kernel.act process).ungrouped := by
  have doom : process.ungrouped.doom = process.doom := rfl
  have task : process.ungrouped.task = process.task := rfl
  have id : process.ungrouped.id = process.id := rfl
  unfold act
  rw [doom, task, id]
  cases process.doom with
  | some signal => exact finish_ungrouped _ _ _
  | none =>
      cases same : process.task with
      | ended code => exact finish_ungrouped _ _ _
      | fork child next => exact fork_ungrouped kernel process child next
      | ask request next =>
          have unsent : ∀ target signal, request ≠ .send target signal := by
            rintro target signal rfl
            exact silent target signal next same
          dsimp only
          rw [answer_ungrouped kernel process request unsent]
          cases kernel.answer process request with
          | none => exact change_ungrouped _ _ fun _ => rfl
          | some answer =>
              refine change_ungrouped _ _ ?_
              intro current
              show (if current.ending.isSome then _ else _) =
                (if current.ending.isSome then _ else _ : Process).ungrouped
              split <;> rfl

theorem step_ungrouped (process : Process)
    (silent : ∀ target signal next, process.task ≠ .ask (.send target signal) next) :
    kernel.ungrouped.step process.ungrouped = (kernel.step process).ungrouped :=
  act_ungrouped { kernel with clock := max kernel.clock process.ready } process silent

end Kernel

end PhaseBench.Host
