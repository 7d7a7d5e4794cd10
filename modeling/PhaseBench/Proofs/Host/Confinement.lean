import PhaseBench.Proofs.Host.Descent

/-!
# What processes ask for

A task is confined to some requests when it asks for nothing else, whatever it is answered, and
neither do the children that it starts (`Task.Confined`). If this holds of all processes it holds
after every step too (`Kernel.Confined.step`). What every step keeps is kept by a run
(`run_keeps`).
-/

namespace PhaseBench.Host

/-! ## What tasks ask for -/

/-- A task that asks for nothing but what is allowed, and neither does a child that it starts. -/
inductive Task.Confined (allowed : Request → Prop) : Task → Prop
  | ended (code : Nat) : Task.Confined allowed (.ended code)
  | ask {request : Request} {next : request.Reply → Task} (here : allowed request)
      (onward : ∀ reply, Task.Confined allowed (next reply)) :
      Task.Confined allowed (.ask request next)
  | fork {child : Task} {next : Nat → Task} (confined : Task.Confined allowed child)
      (onward : ∀ id, Task.Confined allowed (next id)) : Task.Confined allowed (.fork child next)

/-- Holds for what sends no signal. -/
def Request.Silent : Request → Prop
  | .send _ _ => False
  | _ => True

namespace Task

variable {allowed : Request → Prop}

theorem confined_hang (idle : allowed .hang) : hang.Confined allowed :=
  .ask idle fun never => nomatch never

theorem Confined.mono {wider : Request → Prop} {task : Task} (confined : task.Confined allowed)
    (wide : ∀ request, allowed request → wider request) : task.Confined wider := by
  induction confined with
  | ended code => exact .ended code
  | ask here _ ih => exact .ask (wide _ here) ih
  | fork _ _ child onward => exact .fork child onward

theorem Confined.next {task later : Task} (confined : task.Confined allowed)
    (next : task.Next later) : later.Confined allowed := by
  cases next with
  | answered request next reply =>
      cases confined with
      | ask _ onward => exact onward reply
  | forked child next id =>
      cases confined with
      | fork _ onward => exact onward id

theorem Confined.ne_send {task : Task} (silent : task.Confined Request.Silent) (target : Int)
    (signal : Nat) (next : (Request.send target signal).Reply → Task) :
    task ≠ .ask (.send target signal) next := by
  rintro rfl
  cases silent with
  | ask here _ => exact here

end Task

namespace Kernel

variable {kernel : Kernel}

/-! ## The next process -/

theorem mem_of_first {best? : Option Process} {process next : Process}
    (first : Process.first best? process = some next) :
    (next = process ∧ next.canStep) ∨ best? = some next := by
  unfold Process.first at first
  split at first
  · next able =>
      split at first
      · split at first
        · cases first
          exact .inl ⟨rfl, able⟩
        · exact .inr first
      · cases first
        exact .inl ⟨rfl, able⟩
  · exact .inr first

theorem mem_of_foldl_first {processes : List Process} {best? : Option Process} {next : Process}
    (first : processes.foldl Process.first best? = some next) :
    (next ∈ processes ∧ next.canStep) ∨ best? = some next := by
  induction processes generalizing best? with
  | nil => exact .inr first
  | cons process processes ih =>
      rcases ih first with ⟨mem, able⟩ | best
      · exact .inl ⟨List.mem_cons_of_mem _ mem, able⟩
      · rcases mem_of_first best with ⟨rfl, able⟩ | before
        · exact .inl ⟨List.mem_cons_self, able⟩
        · exact .inr before

/-- The next step is done by a process that is there and can do one. -/
theorem mem_of_next? {process : Process} (next : kernel.next? = some process) :
    process ∈ kernel.processes ∧ process.canStep :=
  (mem_of_foldl_first next).resolve_right (by simp)

/-! ## Runs -/

/-- What every step keeps is kept by a run. -/
theorem run_keeps {holds : Kernel → Prop}
    (keeps : ∀ kernel process, kernel.next? = some process → holds kernel →
      holds (kernel.step process))
    (main pipe : Nat) (deadline? : Option Nat) (fuel : Nat) (start : holds kernel) :
    holds (run main pipe deadline? fuel kernel).2 := by
  induction fuel generalizing kernel with
  | zero => exact start
  | succ fuel ih =>
      unfold run
      split
      · exact start
      · split
        · split
          · exact start
          · split
            · exact start
            · next process next => exact ih (keeps kernel process next start)
        · split
          · exact start
          · next process next =>
              split
              · exact start
              · exact ih (keeps kernel process next start)

/-- All that can be there after a step. -/
theorem origin_of_step {process later : Process}
    (mem : later ∈ (kernel.step process).processes) : Origin kernel process later := by
  cases origin_of_act mem with
  | stayed earlier before continues => exact .stayed earlier before continues
  | acted earlier before group ended task => exact .acted earlier before group ended task
  | started group task => exact .started group task

/-! ## Confined processes -/

/-- No process will ever ask for anything but what is allowed. -/
def Confined (allowed : Request → Prop) (kernel : Kernel) : Prop :=
  ∀ process ∈ kernel.processes, process.task.Confined allowed

theorem confined_of_continues {allowed : Request → Prop} (idle : allowed .hang)
    {earlier later : Process} (continues : earlier.Continues later)
    (confined : earlier.task.Confined allowed) : later.task.Confined allowed := by
  rcases continues.task with same | hangs
  · exact same ▸ confined
  · exact hangs ▸ Task.confined_hang idle

theorem Descends.confined {allowed : Request → Prop} (idle : allowed .hang) {after : Kernel}
    (descends : kernel.Descends after) (confined : kernel.Confined allowed) :
    after.Confined allowed := by
  intro later mem
  obtain ⟨earlier, before, continues⟩ := descends later mem
  exact confined_of_continues idle continues (confined earlier before)

theorem Confined.step {allowed : Request → Prop} (idle : allowed .hang)
    (confined : kernel.Confined allowed) {process : Process} (mem : process ∈ kernel.processes) :
    (kernel.step process).Confined allowed := by
  intro later after
  cases origin_of_step after with
  | stayed earlier before continues =>
      exact confined_of_continues idle continues (confined earlier before)
  | acted earlier before group ended task => exact (confined process mem).next task
  | started group task =>
      obtain ⟨next, fork⟩ := task
      have parent := confined process mem
      rw [fork] at parent
      cases parent with
      | fork child _ => exact child

theorem Confined.start {allowed : Request → Prop} (confined : kernel.Confined allowed)
    (mode : StartMode) {task : Task} (own : task.Confined allowed) :
    (kernel.start mode task).kernel.Confined allowed := by
  intro process mem
  rcases List.mem_append.mp mem with was | new
  · exact confined process was
  · cases List.mem_singleton.mp new
    exact own

end Kernel

end PhaseBench.Host
