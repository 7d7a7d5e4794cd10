import PhaseBench.Host.Kernel.Schedule

/-!
# What answers leave alone

Most of what the kernel does changes processes only, and no process but the one that asks does
anything then: each keeps its number and its group, and has to do what it had to do before, unless
it has ended (`Process.Continues`). A relation between kernels that survives such changes is a
`Frame`, and holds across every answer to a request about processes (`Frame.answer`). What is
left are the requests about files and pipes; `cases_of_readFrom` and `cases_of_writeTo` say what
reading and writing can change.
-/

namespace PhaseBench.Host

/-- A process as it is later, when it did nothing itself meanwhile. -/
structure Process.Continues (earlier later : Process) : Prop where
  id : later.id = earlier.id
  group : later.group = earlier.group
  task : later.task = earlier.task ∨ later.task = .hang
  ended : earlier.ending.isSome → later.ending.isSome

namespace Process

theorem Continues.refl (process : Process) : process.Continues process :=
  ⟨rfl, rfl, .inl rfl, fun ended => ended⟩

theorem Continues.trans {first second third : Process} (one : first.Continues second)
    (two : second.Continues third) : first.Continues third where
  id := two.id.trans one.id
  group := two.group.trans one.group
  task := by
    rcases two.task with same | hangs
    · rw [same]
      exact one.task
    · exact .inr hangs
  ended done := two.ended (one.ended done)

theorem continues_of_survive {process later : Process} {id parent : Nat} {ending : Ending}
    (survived : process.survive id parent ending = some later) : process.Continues later := by
  unfold survive at survived
  split at survived
  · split at survived
    · cases survived
    · cases survived
      exact ⟨rfl, rfl, .inr rfl, fun _ => rfl⟩
  · split at survived
    · split at survived
      · cases survived
      · cases survived
        exact ⟨rfl, rfl, .inl rfl, fun ended => ended⟩
    · split at survived <;> cases survived <;> exact ⟨rfl, rfl, .inl rfl, fun ended => ended⟩

end Process

/-- Holds for a request that is not about files or pipes. -/
def Request.OnProcesses : Request → Prop
  | .read _ _ | .readLine _ | .write _ _ | .openFile _ _ | .pipe | .stepBack _ _ => False
  | _ => True

namespace Kernel

/-! ## Processes only -/

/-- A relation between kernels that holds across whatever is done to processes only. -/
structure Frame (holds : Kernel → Kernel → Prop) : Prop where
  refl (kernel : Kernel) : holds kernel kernel
  trans {first second third : Kernel} : holds first second → holds second third →
    holds first third
  change (kernel : Kernel) (id : Nat) {f : Process → Process}
    (continues : ∀ process : Process, process.Continues (f process)) :
    holds kernel (kernel.change id f)
  stir (kernel : Kernel) : holds kernel kernel.stir
  finish (kernel : Kernel) (id : Nat) (ending : Ending) : holds kernel (kernel.finish id ending)
  forget (kernel : Kernel) (id : Nat) : holds kernel (kernel.forget id)

namespace Frame

variable {holds : Kernel → Kernel → Prop} (frame : Frame holds)

include frame

theorem foldl {α : Type} {f : Kernel → α → Kernel}
    (keeps : ∀ kernel value, holds kernel (f kernel value)) (values : List α) (kernel : Kernel) :
    holds kernel (values.foldl f kernel) := by
  induction values generalizing kernel with
  | nil => exact frame.refl kernel
  | cons value values ih => exact frame.trans (keeps kernel value) (ih _)

theorem strike (kernel : Kernel) (sender id signal : Nat) :
    holds kernel (kernel.strike sender id signal) := by
  unfold Kernel.strike
  split
  · exact frame.finish _ _ _
  · refine frame.change _ _ fun process => ?_
    split
    · exact .refl process
    · exact ⟨rfl, rfl, .inl rfl, fun ended => ended⟩

theorem affect (kernel : Kernel) (sender id signal : Nat) :
    holds kernel (kernel.affect sender id signal) := by
  unfold Kernel.affect
  split
  · exact frame.refl _
  · dsimp only
    split
    · exact frame.refl _
    · split
      · exact frame.change _ _ fun _ => ⟨rfl, rfl, .inl rfl, fun ended => ended⟩
      · split
        · exact frame.refl _
        · exact frame.change _ _ fun _ => ⟨rfl, rfl, .inl rfl, fun ended => ended⟩
        · exact frame.strike _ _ _ _

theorem deliver (kernel : Kernel) (sender id signal : Nat) :
    holds kernel (kernel.deliver sender id signal) := by
  unfold Kernel.deliver
  split
  · exact frame.refl _
  · split
    · exact frame.refl _
    · split
      · exact frame.strike _ _ _ _
      · split
        · split
          · refine frame.trans (frame.change _ id fun _ => ?_) (frame.trans
              (frame.affect _ _ _ _) (frame.foldl (fun _ _ => frame.affect _ _ _ _) _ _))
            exact ⟨rfl, rfl, .inl rfl, fun ended => ended⟩
          · exact frame.affect _ _ _ _
        · split
          · exact frame.change _ _ fun _ => ⟨rfl, rfl, .inl rfl, fun ended => ended⟩
          · exact frame.affect _ _ _ _

theorem killGroup (kernel : Kernel) (group : Nat) : holds kernel (kernel.killGroup group) :=
  frame.foldl (fun _ _ => frame.finish _ _ _) _ _

theorem answer {kernel : Kernel} {process : Process} {request : Request}
    {answer : Answer request.Reply} (only : request.OnProcesses)
    (answered : kernel.answer process request = some answer) : holds kernel answer.kernel := by
  cases request with
  | read | readLine | write | openFile | pipe | stepBack => cases only
  | hang => cases answered
  | pass | inspect | look | ignoredSignals | self =>
      cases answered
      exact frame.refl _
  | close | become =>
      cases answered
      refine frame.trans (frame.change kernel process.id fun _ => ?_) (frame.stir _)
      exact ⟨rfl, rfl, .inl rfl, fun ended => ended⟩
  | enter =>
      cases answered
      exact frame.change _ _ fun _ => ⟨rfl, rfl, .inl rfl, fun ended => ended⟩
  | keep =>
      simp only [Kernel.answer] at answered
      split at answered <;> cases answered
      · exact frame.refl _
      · exact frame.change _ _ fun _ => ⟨rfl, rfl, .inl rfl, fun ended => ended⟩
  | redirect =>
      simp only [Kernel.answer] at answered
      split at answered <;> cases answered
      · exact frame.refl _
      · refine frame.trans (frame.change kernel process.id fun _ => ?_) (frame.stir _)
        exact ⟨rfl, rfl, .inl rfl, fun ended => ended⟩
  | await =>
      simp only [Kernel.answer] at answered
      split at answered
      · cases answered
        exact frame.forget _ _
      · split at answered
        · cases answered
          exact frame.refl _
        · split at answered
          · cases answered
          · obtain ⟨signal, -, rfl⟩ := Option.map_eq_some_iff.mp answered
            exact frame.refl _
  | reap =>
      simp only [Kernel.answer] at answered
      split at answered <;> cases answered
      · exact frame.forget _ _
      · exact frame.refl _
  | send =>
      simp only [Kernel.answer] at answered
      split at answered <;> cases answered
      · exact frame.refl _
      · exact frame.foldl (fun _ _ => frame.deliver _ _ _ _) _ _
  | dispose signal disposition =>
      cases answered
      refine frame.change _ _ fun _ => ?_
      cases disposition <;> exact ⟨rfl, rfl, .inl rfl, fun ended => ended⟩
  | takeSignals =>
      simp only [Kernel.answer] at answered
      split at answered <;> cases answered
      · exact frame.refl _
      · exact frame.change _ _ fun _ => ⟨rfl, rfl, .inl rfl, fun ended => ended⟩

end Frame

/-! ## Reading and writing -/

variable {kernel : Kernel} {process : Process} {descriptor : Nat}

/-- All that reading can change: the place in an open file, or the content of a pipe. -/
theorem cases_of_readFrom {wanted : ByteArray → Nat → Nat}
    {answer : Answer (Except OsError ByteArray)}
    (answered : kernel.readFrom process descriptor wanted = some answer) :
    answer.kernel = kernel ∨ (∃ number offset, answer.kernel = kernel.setOffset number offset) ∨
      ∃ pipes, answer.kernel = stir { kernel with pipes } := by
  unfold readFrom at answered
  dsimp only at answered
  split at answered
  · cases answered
    exact .inl rfl
  · split at answered
    · cases answered
      exact .inl rfl
    · split at answered
      · cases answered
        exact .inl rfl
      · split at answered
        case h_3 =>
          split at answered <;> cases answered
          · exact .inr (.inl ⟨_, _, rfl⟩)
          · exact .inl rfl
        case h_6 =>
          split at answered
          · cases answered
          · cases answered
            exact .inl rfl
        case h_7 =>
          split at answered
          · cases answered
            exact .inl rfl
          · split at answered
            · split at answered
              · cases answered
                exact .inl rfl
              · split at answered
                · cases answered
                · cases answered
                  exact .inl rfl
            · cases answered
              exact .inr (.inr ⟨_, rfl⟩)
        all_goals cases answered; exact .inl rfl

/-- A change of the content of a regular file that is open for writing. -/
def Overwrites (kernel after : Kernel) : Prop :=
  ∃ number file location tree offset, kernel.files[number]? = some file ∧ file.writable ∧
    file.channel = .file location ∧ after = { kernel with tree }.setOffset number offset

/-- All that writing can change: the content of a file or of a pipe, or the writer itself when
nobody reads the pipe. -/
theorem cases_of_writeTo {bytes : ByteArray} {answer : Answer (Except OsError Nat)}
    (answered : kernel.writeTo process descriptor bytes = some answer) :
    answer.kernel = kernel ∨ kernel.Overwrites answer.kernel ∨
      answer.kernel = kernel.deliver process.id process.id Signal.brokenPipe ∨
      ∃ pipes, answer.kernel = stir { kernel with pipes } := by
  unfold writeTo at answered
  dsimp only at answered
  split at answered
  · cases answered
    exact .inl rfl
  · next number _ =>
      split at answered
      · cases answered
        exact .inl rfl
      · next file opened =>
          split at answered
          · cases answered
            exact .inl rfl
          · next writable =>
              split at answered
              case h_5 location leads =>
                split at answered <;> cases answered
                · refine .inr (.inl ⟨number, file, location, _, _, opened, ?_, leads, rfl⟩)
                  simpa using writable
                · exact .inl rfl
              case h_6 =>
                split at answered
                · cases answered
                  exact .inl rfl
                · next content _ =>
                    split at answered
                    · cases answered
                      exact .inr (.inr (.inl rfl))
                    · generalize (if content.collected || bytes.size ≤ content.room then
                        bytes.size else if bytes.size ≤ Pipe.undivided then 0 else content.room)
                        = count at answered
                      split at answered <;> cases answered
                      exact .inr (.inr (.inr ⟨_, rfl⟩))
              all_goals cases answered; exact .inl rfl

end Kernel

end PhaseBench.Host
