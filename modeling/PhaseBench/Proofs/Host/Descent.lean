import PhaseBench.Proofs.Host.Frame

/-!
# Where processes come from

A process that is there after a step was there before and did nothing itself, or it did the step,
or it was started by it (`origin_of_act`). What holds of all processes along a run follows from
these three cases.
-/

namespace PhaseBench.Host

namespace Kernel

/-- Every process of the second kernel is one of the first that did nothing itself. -/
def Descends (before after : Kernel) : Prop :=
  ∀ later ∈ after.processes, ∃ earlier ∈ before.processes, earlier.Continues later

variable {kernel : Kernel}

theorem Descends.of_processes {before after : Kernel}
    (same : after.processes = before.processes) : before.Descends after :=
  fun later mem => ⟨later, same ▸ mem, .refl later⟩

theorem Descends.refl (kernel : Kernel) : kernel.Descends kernel := .of_processes rfl

theorem Descends.trans {first second third : Kernel} (one : first.Descends second)
    (two : second.Descends third) : first.Descends third := by
  intro later mem
  obtain ⟨between, among, onward⟩ := two later mem
  obtain ⟨earlier, before, start⟩ := one between among
  exact ⟨earlier, before, start.trans onward⟩

theorem descends_change (id : Nat) {f : Process → Process}
    (continues : ∀ process : Process, process.Continues (f process)) :
    kernel.Descends (kernel.change id f) := by
  intro later mem
  obtain ⟨earlier, before, rfl⟩ := List.mem_map.mp mem
  refine ⟨earlier, before, ?_⟩
  split
  · exact continues earlier
  · exact .refl earlier

theorem descends_stir (kernel : Kernel) : kernel.Descends kernel.stir := by
  unfold stir
  split
  · intro later mem
    obtain ⟨earlier, before, rfl⟩ := List.mem_map.mp mem
    refine ⟨earlier, before, ?_⟩
    split
    · exact ⟨rfl, rfl, .inl rfl, fun ended => ended⟩
    · exact .refl earlier
  · exact .refl kernel

theorem descends_finish (kernel : Kernel) (id : Nat) (ending : Ending) :
    kernel.Descends (kernel.finish id ending) := by
  refine .trans ?_ (descends_stir _)
  intro later mem
  obtain ⟨earlier, before, survived⟩ := List.mem_filterMap.mp mem
  exact ⟨earlier, before, Process.continues_of_survive survived⟩

theorem descends_forget (kernel : Kernel) (id : Nat) : kernel.Descends (kernel.forget id) :=
  fun later mem => ⟨later, (List.mem_filter.mp mem).1, .refl later⟩

theorem frame_descends : Frame Descends where
  refl := .refl
  trans := .trans
  change _ := descends_change
  stir := descends_stir
  finish := descends_finish
  forget := descends_forget

/-! ## Answers -/

theorem descends_giveFile (kernel : Kernel) (id : Nat) (file : OpenFile) :
    kernel.Descends (kernel.giveFile id file).2 := by
  have added : kernel.Descends (kernel.addFile file).2 := .of_processes rfl
  unfold giveFile
  dsimp only
  split
  · refine added.trans (descends_change id fun _ => ?_)
    exact ⟨rfl, rfl, .inl rfl, fun ended => ended⟩
  · exact added

theorem descends_readFrom {process : Process} {descriptor : Nat} {wanted : ByteArray → Nat → Nat}
    {answer : Answer (Except OsError ByteArray)}
    (answered : kernel.readFrom process descriptor wanted = some answer) :
    kernel.Descends answer.kernel := by
  rcases cases_of_readFrom answered with same | ⟨number, offset, same⟩ | ⟨pipes, same⟩ <;> rw [same]
  · exact .refl kernel
  · exact .of_processes rfl
  · exact .trans (.of_processes rfl) (descends_stir { kernel with pipes })

theorem descends_answer {process : Process} {request : Request} {answer : Answer request.Reply}
    (answered : kernel.answer process request = some answer) :
    kernel.Descends answer.kernel := by
  cases request with
  | read | readLine =>
      rw [Kernel.answer] at answered
      exact descends_readFrom answered
  | write =>
      rw [Kernel.answer] at answered
      rcases cases_of_writeTo answered with same | overwrites | same | ⟨pipes, same⟩
      · exact .of_processes (same ▸ rfl)
      · obtain ⟨number, file, location, tree, offset, -, -, -, same⟩ := overwrites
        exact .of_processes (same ▸ rfl)
      · exact same ▸ frame_descends.deliver _ _ _ _
      · exact same ▸ .trans (.of_processes rfl) (descends_stir { kernel with pipes })
  | openFile path mode =>
      simp only [Kernel.answer] at answered
      split at answered <;> cases answered
      · exact .refl kernel
      · next tree _ => exact .trans (.of_processes rfl) (descends_giveFile { kernel with tree } _ _)
  | pipe =>
      cases answered
      have first : kernel.Descends (kernel.addPipe {}).2 := .of_processes rfl
      exact first.trans ((descends_giveFile _ _ _).trans (descends_giveFile _ _ _))
  | stepBack =>
      simp only [Kernel.answer] at answered
      split at answered
      · cases answered
        exact .refl kernel
      · split at answered <;> cases answered <;> exact .of_processes rfl
  | _ => exact frame_descends.answer trivial answered

end Kernel

/-! ## Steps -/

/-- What a task can still have to do after its next step. -/
inductive Task.Next : Task → Task → Prop
  | answered (request : Request) (next : request.Reply → Task) (reply : request.Reply) :
      Task.Next (.ask request next) (next reply)
  | forked (child : Task) (next : Nat → Task) (id : Nat) : Task.Next (.fork child next) (next id)

/-- Where a process comes from that is there after a step of a process. -/
inductive Origin (kernel : Kernel) (process later : Process) : Prop
  /-- It was there, and did nothing itself. -/
  | stayed (earlier : Process) (mem : earlier ∈ kernel.processes)
      (continues : earlier.Continues later)
  /-- It did the step. -/
  | acted (earlier : Process) (mem : earlier ∈ kernel.processes)
      (group : later.group = earlier.group) (ended : earlier.ending.isSome → later.ending.isSome)
      (task : process.task.Next later.task)
  /-- It was started. -/
  | started (group : later.group = process.group)
      (task : ∃ next, process.task = .fork later.task next)

namespace Kernel

variable {kernel : Kernel}

theorem Descends.origin {after : Kernel} {process later : Process}
    (descends : kernel.Descends after) (mem : later ∈ after.processes) :
    Origin kernel process later := by
  obtain ⟨earlier, before, continues⟩ := descends later mem
  exact .stayed earlier before continues

theorem origin_of_fork {process later : Process} {child : Task} {next : Nat → Task}
    (task : process.task = .fork child next)
    (mem : later ∈ (kernel.fork process child next).processes) : Origin kernel process later := by
  rcases List.mem_append.mp mem with was | new
  · obtain ⟨earlier, before, rfl⟩ := List.mem_map.mp was
    split
    · refine .acted earlier before rfl (fun ended => ended) ?_
      rw [task]
      exact .forked child next _
    · exact .stayed earlier before (.refl earlier)
  · cases List.mem_singleton.mp new
    exact .started rfl ⟨next, task⟩

/-- All that can be there after a step. -/
theorem origin_of_act {process later : Process} (mem : later ∈ (kernel.act process).processes) :
    Origin kernel process later := by
  unfold act at mem
  split at mem
  · exact (descends_finish _ _ _).origin mem
  · exact (descends_finish _ _ _).origin mem
  · next child next _ task => exact origin_of_fork task mem
  · next request next _ task =>
      split at mem
      · refine (descends_change process.id fun current => ?_).origin mem
        exact ⟨rfl, rfl, .inl rfl, fun ended => ended⟩
      · next answer answered =>
          obtain ⟨between, among, rfl⟩ := List.mem_map.mp mem
          obtain ⟨earlier, before, continues⟩ := descends_answer answered between among
          dsimp only
          split
          · split
            · exact .stayed earlier before continues
            · refine .acted earlier before continues.group continues.ended ?_
              rw [task]
              exact .answered request next answer.reply
          · exact .stayed earlier before continues

end Kernel

end PhaseBench.Host
