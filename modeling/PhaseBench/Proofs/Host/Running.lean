import PhaseBench.Proofs.Host.Confinement
import PhaseBench.Proofs.Host.Groups

/-!
# Commands that send no signals

What becomes of a command does not depend on how it is started, as long as nobody sends a signal
and there is nothing to read. Step by step the groups of processes make no difference then
(`run_ungrouped`), and a deadline makes one only when it is missed (`run_deadline`). So a command
ends in the same way with the same output without a limit and with one, unless it is not given the
time (`watch_of_collect`).
-/

namespace PhaseBench.Host

namespace Kernel

variable {kernel : Kernel}

/-! ## Groups -/

/-- Nothing tells the groups of processes apart when nobody sends a signal. -/
theorem run_ungrouped (main pipe : Nat) (deadline? : Option Nat) (fuel : Nat)
    (quiet : kernel.Confined Request.Silent) :
    run main pipe deadline? fuel kernel.ungrouped =
      ((run main pipe deadline? fuel kernel).1,
        (run main pipe deadline? fuel kernel).2.ungrouped) := by
  induction fuel generalizing kernel with
  | zero =>
      unfold run
      rw [process?_ungrouped]
      cases kernel.process? main <;> rfl
  | succ fuel ih =>
      have onward {process : Process} (next : kernel.next? = some process) :
          run main pipe deadline? fuel (kernel.ungrouped.step process.ungrouped) =
            ((run main pipe deadline? fuel (kernel.step process)).1,
              (run main pipe deadline? fuel (kernel.step process)).2.ungrouped) := by
        have mem := (mem_of_next? next).1
        rw [step_ungrouped kernel process (quiet process mem).ne_send]
        exact ih (quiet.step trivial mem)
      unfold run
      rw [process?_ungrouped, hasWriter_ungrouped, next?_ungrouped]
      cases kernel.process? main with
      | none => rfl
      | some waited =>
          have ending : waited.ungrouped.ending = waited.ending := rfl
          simp only [Option.map_some, ending]
          cases waited.ending with
          | some ending =>
              dsimp only
              split
              · rfl
              · cases next : kernel.next? with
                | none => rfl
                | some process => exact onward next
          | none =>
              cases next : kernel.next? with
              | none => rfl
              | some process =>
                  have ready : process.ungrouped.ready = process.ready := rfl
                  simp only [Option.map_some, ready]
                  split
                  · rfl
                  · exact onward next

/-! ## Deadlines -/

/-- A deadline changes nothing as long as it is met. -/
theorem run_deadline (main pipe deadline fuel : Nat) :
    run main pipe (some deadline) fuel kernel = run main pipe none fuel kernel ∨
      (run main pipe (some deadline) fuel kernel).1 = .overran := by
  have idled (ending? : Option Ending) : idle ending? (some deadline) = idle ending? none ∨
      idle ending? (some deadline) = .overran := by
    cases ending? <;> simp [idle]
  induction fuel generalizing kernel with
  | zero =>
      unfold run
      rcases idled ((kernel.process? main).bind (·.ending)) with same | overran
      · exact .inl (by rw [same])
      · exact .inr overran
  | succ fuel ih =>
      unfold run
      cases kernel.process? main with
      | none => exact .inl rfl
      | some waited =>
          dsimp only
          cases waited.ending with
          | some ending =>
              dsimp only
              split
              · exact .inl rfl
              · cases kernel.next? with
                | none => exact .inl rfl
                | some process => exact ih
          | none =>
              cases kernel.next? with
              | none => exact .inr rfl
              | some process =>
                  dsimp only
                  by_cases late : deadline ≤ process.ready
                  · exact .inr (by simp [late])
                  · simp only [Option.any_some, late, decide_false, Option.any_none]
                    exact ih

/-! ## Ways to start -/

/-- There is nothing to read for commands that inherit the standard input. -/
def Unfed (kernel : Kernel) : Prop := kernel.input = .nothing

theorem Unfed.inputOf_eq (unfed : kernel.Unfed) (input : Input) :
    kernel.inputOf input = .nothing := by
  cases input with
  | nothing => rfl
  | inherited => exact unfed

/-- The ways to start a command differ in its group only when there is nothing to read. -/
theorem start_ungrouped (mode other : StartMode) (task : Task) (unfed : kernel.Unfed) :
    (kernel.start mode task).kernel.ungrouped = (kernel.start other task).kernel.ungrouped := by
  have piped : (kernel.addPipe { collected := true }).2.Unfed := unfed
  simp only [start, ungrouped, List.map_append, piped.inputOf_eq]
  rfl

/-- Without a signal and without input, a command that has a limit and a group of its own comes to
the end of one that has neither, and leaves the same up to the groups, unless it overruns the
limit. -/
theorem halt_of_deadline {main pipe deadline fuel : Nat} {task : Task} {halt again : Halt}
    {before after : Kernel} (quiet : kernel.Confined Request.Silent)
    (silent : task.Confined Request.Silent) (unfed : kernel.Unfed)
    (alone : run main pipe none fuel (kernel.start .collected task).kernel = (halt, before))
    (timed : run main pipe (some deadline) fuel (kernel.start .watched task).kernel =
      (again, after)) :
    again = .overran ∨ again = halt ∧ after.ungrouped = before.ungrouped := by
  have one := run_ungrouped main pipe none fuel (quiet.start .collected silent)
  have two := run_ungrouped main pipe none fuel (quiet.start .watched silent)
  rw [start_ungrouped .collected .watched task unfed, two, alone] at one
  rcases run_deadline main pipe deadline fuel with same | overran
  · rw [← same, timed] at one
    exact .inr ⟨congrArg Prod.fst one, congrArg Prod.snd one⟩
  · rw [timed] at overran
    exact .inl overran

/-! ## What becomes of a command -/

theorem id_start (mode : StartMode) (task : Task) :
    (kernel.start mode task).id = kernel.lastId + 1 := rfl

theorem pipe_start (mode : StartMode) (task : Task) :
    (kernel.start mode task).pipe = kernel.pipes.size := rfl

theorem collect_of_run {mode : StartMode} {task : Task} {halt : Halt} {after : Kernel} :
    run (kernel.lastId + 1) kernel.pipes.size none stepLimit (kernel.start mode task).kernel =
      (halt, after) →
    kernel.collect mode task = match halt with
      | .ended ending =>
        some (⟨after.written kernel.pipes.size, ending⟩, after.forget (kernel.lastId + 1))
      | _ => none := by
  intro ran
  unfold collect
  dsimp only
  rw [id_start, pipe_start, ran]
  cases halt <;> rfl

theorem watch_of_run {mode : StartMode} {limit : Duration} {task : Task} {halt : Halt}
    {after : Kernel} :
    run (kernel.lastId + 1) kernel.pipes.size (some (kernel.clock + limit.nanoseconds)) stepLimit
      (kernel.start mode task).kernel = (halt, after) →
    kernel.watch mode limit task = match halt with
      | .ended ending =>
        some (.ended ending (some (.ok (after.written kernel.pipes.size))),
          after.forget (kernel.lastId + 1))
      | .overran =>
        some (.overran .done (.ok ()),
          (after.killGroup (kernel.lastId + 1)).forget (kernel.lastId + 1))
      | .stuck => none := by
  intro ran
  unfold watch
  dsimp only
  rw [id_start, pipe_start, ran]
  cases halt <;> rfl

/-- A command that ends when it is waited for without a limit ends in the same way with the same
output when there is one, and leaves the same behind, or it is not given the time. -/
theorem watch_of_collect {task : Task} {finished : Finished} {left : Kernel} (limit : Duration)
    (quiet : kernel.Confined Request.Silent) (silent : task.Confined Request.Silent)
    (unfed : kernel.Unfed)
    (collected : kernel.collect .collected task = some (finished, left)) :
    (∃ later, kernel.watch .watched limit task =
        some (.ended finished.ending (some (.ok finished.output)), later) ∧
      later.ungrouped = left.ungrouped) ∨
    ∃ later, kernel.watch .watched limit task = some (.overran .done (.ok ()), later) := by
  rcases alone : run (kernel.lastId + 1) kernel.pipes.size none stepLimit
    (kernel.start .collected task).kernel with ⟨halt, before⟩
  rcases timed : run (kernel.lastId + 1) kernel.pipes.size
    (some (kernel.clock + limit.nanoseconds)) stepLimit (kernel.start .watched task).kernel
    with ⟨again, after⟩
  rw [collect_of_run alone] at collected
  rcases halt_of_deadline quiet silent unfed alone timed with rfl | ⟨rfl, leaves⟩
  · exact .inr ⟨_, watch_of_run timed⟩
  · cases again with
    | overran => cases collected
    | stuck => cases collected
    | ended ending =>
        cases collected
        have written : after.written kernel.pipes.size = before.written kernel.pipes.size :=
          congrArg (·.written kernel.pipes.size) leaves
        refine .inl ⟨_, written ▸ watch_of_run timed, ?_⟩
        rw [← forget_ungrouped, leaves, forget_ungrouped]

/-- A command that is waited for in vain without a limit is killed when there is one, if the
waiting comes to an end at all. -/
theorem watch_of_collect_none {task : Task} {child : Child} {later : Kernel} {limit : Duration}
    (quiet : kernel.Confined Request.Silent) (silent : task.Confined Request.Silent)
    (unfed : kernel.Unfed)
    (collected : kernel.collect .collected task = none)
    (watched : kernel.watch .watched limit task = some (child, later)) :
    child = .overran .done (.ok ()) := by
  rcases alone : run (kernel.lastId + 1) kernel.pipes.size none stepLimit
    (kernel.start .collected task).kernel with ⟨halt, before⟩
  rcases timed : run (kernel.lastId + 1) kernel.pipes.size
    (some (kernel.clock + limit.nanoseconds)) stepLimit (kernel.start .watched task).kernel
    with ⟨again, after⟩
  rw [collect_of_run alone] at collected
  rw [watch_of_run timed] at watched
  rcases halt_of_deadline quiet silent unfed alone timed with rfl | ⟨rfl, -⟩
  · cases watched
    rfl
  · cases again with
    | overran =>
        cases watched
        rfl
    | stuck => cases watched
    | ended ending => cases collected

end Kernel

end PhaseBench.Host
