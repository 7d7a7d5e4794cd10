import PhaseBench.Proofs.Host.Running

/-!
# Commands that overrun their limit

Children are started in the group of their parent, so everything that a command starts is in the
group that it leads (`LedBy.step`), and killing the group ends it all
(`LedBy.atRest_killGroup`). A kernel on which nothing runs is therefore left like that by a
command that overran its limit (`atRest_of_overran`).
-/

namespace PhaseBench.Host

namespace Process

theorem not_ended_of_canStep {process : Process} (able : process.canStep) :
    ¬ process.ending.isSome := by
  unfold canStep at able
  cases running : process.ending with
  | none => simp
  | some ending => simp [running] at able

theorem ended_of_survive {process later : Process} {id parent : Nat} {ending : Ending}
    (survived : process.survive id parent ending = some later) (same : later.id = id) :
    later.ending.isSome := by
  have kept : later.id = process.id := (continues_of_survive survived).id
  unfold survive at survived
  rw [if_pos (beq_iff_eq.mpr (kept.symm.trans same))] at survived
  split at survived
  · cases survived
  · cases survived
    rfl

end Process

namespace Kernel

variable {kernel : Kernel}

/-- Nothing runs. -/
def AtRest (kernel : Kernel) : Prop := ∀ process ∈ kernel.processes, process.ending.isSome

/-- Whatever runs is in one group. -/
def LedBy (group : Nat) (kernel : Kernel) : Prop :=
  ∀ process ∈ kernel.processes, process.ending.isSome ∨ process.group = group

/-- Children are started in the group of their parent. -/
theorem LedBy.step {group : Nat} (led : kernel.LedBy group) {process : Process}
    (next : kernel.next? = some process) : (kernel.step process).LedBy group := by
  obtain ⟨mem, able⟩ := mem_of_next? next
  intro later after
  cases origin_of_step after with
  | stayed earlier before continues =>
      exact (led earlier before).imp continues.ended continues.group.trans
  | acted earlier before same ended task => exact (led earlier before).imp ended same.trans
  | started same task =>
      rcases led process mem with ended | own
      · exact absurd ended (Process.not_ended_of_canStep able)
      · exact .inr (same.trans own)

theorem LedBy.run {group : Nat} (led : kernel.LedBy group) (main pipe : Nat)
    (deadline? : Option Nat) (fuel : Nat) :
    (run main pipe deadline? fuel kernel).2.LedBy group :=
  run_keeps (fun _ _ next led => led.step next) main pipe deadline? fuel led

theorem ended_of_finish {id : Nat} {ending : Ending} {process : Process}
    (mem : process ∈ (kernel.finish id ending).processes) (same : process.id = id) :
    process.ending.isSome := by
  obtain ⟨later, among, continues⟩ := descends_stir _ process mem
  obtain ⟨earlier, -, survived⟩ := List.mem_filterMap.mp among
  exact continues.ended (Process.ended_of_survive survived (continues.id.symm.trans same))

theorem ended_of_foldl_finish {ending : Ending} {ids : List Nat} {process : Process}
    (mem : process ∈ (ids.foldl (fun kernel id => kernel.finish id ending) kernel).processes)
    (among : process.id ∈ ids) : process.ending.isSome := by
  induction ids generalizing kernel with
  | nil => cases among
  | cons id ids ih =>
      by_cases later : process.id ∈ ids
      · exact ih mem later
      · have first : process.id = id := (List.mem_cons.mp among).resolve_right later
        obtain ⟨earlier, before, continues⟩ :=
          frame_descends.foldl (fun _ _ => descends_finish _ _ _) ids _ process mem
        exact continues.ended (ended_of_finish before (continues.id.symm.trans first))

/-- Nothing of a group runs any more once it was killed. -/
theorem LedBy.atRest_killGroup {group : Nat} (led : kernel.LedBy group) :
    (kernel.killGroup group).AtRest := by
  intro process mem
  obtain ⟨earlier, before, continues⟩ := frame_descends.killGroup _ _ process mem
  rcases led earlier before with ended | own
  · exact continues.ended ended
  · refine ended_of_foldl_finish mem ?_
    rw [continues.id]
    refine List.mem_map.mpr ⟨earlier, List.mem_filter.mpr ⟨before, ?_⟩, rfl⟩
    simp [own]

/-- Nothing that a command has started goes on when it has overrun its limit. -/
theorem atRest_of_overran {limit : Duration} {task : Task} {kill : Kill}
    {reaped : Except Cause Unit} {left : Kernel} (rest : kernel.AtRest)
    (overran : kernel.watch .watched limit task = some (.overran kill reaped, left)) :
    left.AtRest := by
  have led : (kernel.start .watched task).kernel.LedBy (kernel.lastId + 1) := by
    intro process mem
    rcases List.mem_append.mp mem with was | new
    · exact .inl (rest process was)
    · cases List.mem_singleton.mp new
      exact .inr rfl
  rcases timed : run (kernel.lastId + 1) kernel.pipes.size
    (some (kernel.clock + limit.nanoseconds)) stepLimit (kernel.start .watched task).kernel
    with ⟨halt, after⟩
  rw [watch_of_run timed] at overran
  cases halt with
  | ended ending => cases overran
  | stuck => cases overran
  | overran =>
      cases overran
      have still := led.run (kernel.lastId + 1) kernel.pipes.size
        (some (kernel.clock + limit.nanoseconds)) stepLimit
      rw [timed] at still
      intro process mem
      obtain ⟨earlier, before, continues⟩ := descends_forget _ _ process mem
      exact continues.ended (still.atRest_killGroup earlier before)

end Kernel

end PhaseBench.Host
