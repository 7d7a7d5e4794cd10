import PhaseBench.Proofs.Campaign.Charts

/-!
# Which campaigns are accepted

A plan is made when there is a run to make and no configuration is given twice
(`Plan.make_eq_ok_iff`). The number of runs is checked first. Where a configuration is given
twice, the one that is named stands at the first place whose configuration occurs before it
(`firstRepeated?_eq_some_iff`). Since the configurations of a plan are distinct, none of them
is filed under the entry of another: the table of a campaign that succeeds has one entry for
each (`configurations_of_run?`).
-/

namespace PhaseBench

universe u

/-! ## The first repetition -/

/-- The configuration at place `i` is given before it, and that of no earlier place is. -/
structure FirstRepeat (configurations : List Configuration) (i : Nat)
    (configuration : Configuration) : Prop where
  here : configurations[i]? = some configuration
  before : configuration ∈ configurations.take i
  least : ∀ (j : Nat) (other : Configuration),
    configurations[j]? = some other → other ∈ configurations.take j → i ≤ j

theorem FirstRepeat.unique {configurations : List Configuration} {i j : Nat}
    {configuration other : Configuration} (first : FirstRepeat configurations i configuration)
    (second : FirstRepeat configurations j other) : i = j ∧ configuration = other := by
  have same : i = j := Nat.le_antisymm (first.least j other second.here second.before)
    (second.least i configuration first.here first.before)
  refine ⟨same, Option.some_inj.mp ?_⟩
  rw [← first.here, ← second.here, same]

theorem notMem_take_of_nodup {configurations : List Configuration}
    (distinct : configurations.Nodup) {j : Nat} {configuration : Configuration}
    (here : configurations[j]? = some configuration) : configuration ∉ configurations.take j := by
  intro before
  obtain ⟨inside, rfl⟩ := List.getElem?_eq_some_iff.mp here
  rw [← List.take_append_drop j configurations, List.nodup_append] at distinct
  have after : configurations[j] ∈ configurations.drop j := by
    rw [List.drop_eq_getElem_cons inside]
    exact List.mem_cons_self
  exact distinct.2.2 _ before _ after rfl

theorem FirstRepeat.not_nodup {configurations : List Configuration} {i : Nat}
    {configuration : Configuration} (first : FirstRepeat configurations i configuration) :
    ¬ configurations.Nodup :=
  fun distinct => notMem_take_of_nodup distinct first.here first.before

/-- The scan goes on as long as the configurations it has seen are distinct, and stops at the
first place where they would not be. -/
theorem exists_firstRepeat {seen rest : List Configuration} {repeated : Configuration}
    (distinct : seen.Nodup) (found : firstRepeated? seen rest = some repeated) :
    ∃ i, FirstRepeat (seen ++ rest) i repeated := by
  induction rest generalizing seen with
  | nil => cases found
  | cons configuration rest ih =>
      rw [firstRepeated?] at found
      split at found
      · next known =>
          obtain rfl := Option.some_inj.mp found
          refine ⟨seen.length, ?_, ?_, ?_⟩
          · rw [List.getElem?_append_right (Nat.le_refl _), Nat.sub_self, List.getElem?_cons_zero]
          · rw [List.take_left]
            exact known
          · intro j other here before
            by_contra early
            have inside : j < seen.length := Nat.lt_of_not_le early
            rw [List.getElem?_append_left inside] at here
            rw [List.take_append_of_le_length inside.le] at before
            exact notMem_take_of_nodup distinct here before
      · next fresh =>
          have longer : (seen ++ [configuration]).Nodup :=
            List.nodup_append_comm.mpr (List.nodup_cons.mpr ⟨fresh, distinct⟩)
          simpa using ih longer found

theorem firstRepeated?_eq_none {seen rest : List Configuration}
    (distinct : (seen ++ rest).Nodup) : firstRepeated? seen rest = none := by
  induction rest generalizing seen with
  | nil => rfl
  | cons configuration rest ih =>
      have fresh : configuration ∉ seen := fun known =>
        (List.nodup_append.mp distinct).2.2 _ known _ List.mem_cons_self rfl
      rw [firstRepeated?, if_neg fresh]
      exact ih (by simpa using distinct)

theorem firstRepeated?_eq_none_iff {configurations : List Configuration} :
    firstRepeated? [] configurations = none ↔ configurations.Nodup :=
  ⟨nodup_of_firstRepeated?_eq_none List.nodup_nil, fun distinct => firstRepeated?_eq_none distinct⟩

theorem firstRepeated?_eq_some_iff {configurations : List Configuration}
    {repeated : Configuration} :
    firstRepeated? [] configurations = some repeated ↔
      ∃ i, FirstRepeat configurations i repeated := by
  constructor
  · exact exists_firstRepeat List.nodup_nil
  · rintro ⟨i, first⟩
    obtain ⟨other, found⟩ := Option.ne_none_iff_exists'.mp
      (mt firstRepeated?_eq_none_iff.mp first.not_nodup)
    obtain ⟨j, second⟩ := exists_firstRepeat List.nodup_nil found
    rw [found, (first.unique second).2]

/-! ## Plans -/

namespace Plan

variable {configurations : List Configuration} {dir : String} {runs : Nat}
  {policy : FailurePolicy} {plan : Plan}

/-- A plan is what it was made of. -/
theorem make_eq_ok_iff :
    make configurations dir runs policy = .ok plan ↔
      0 < runs ∧ configurations.Nodup ∧ plan.configurations = configurations ∧ plan.dir = dir ∧
        plan.runs = runs ∧ plan.policy = policy := by
  unfold make
  constructor
  · intro made
    split at made
    · cases made
    · next some_runs =>
        split at made
        · cases made
        · next single =>
            obtain rfl := Except.ok.inj made
            exact ⟨Nat.pos_of_ne_zero some_runs, firstRepeated?_eq_none_iff.mp single,
              rfl, rfl, rfl, rfl⟩
  · rintro ⟨runs_pos, distinct, rfl, rfl, rfl, rfl⟩
    rw [dif_neg runs_pos.ne']
    split
    · next repeated =>
        rw [firstRepeated?_eq_none_iff.mpr distinct] at repeated
        cases repeated
    · rfl

/-- The number of runs is checked before anything else. -/
theorem make_of_no_runs : make configurations dir 0 policy = .error .noRuns := rfl

theorem make_of_firstRepeat (runs_pos : 0 < runs) {i : Nat} {repeated : Configuration}
    (first : FirstRepeat configurations i repeated) :
    make configurations dir runs policy = .error (.repeated repeated) := by
  have found := firstRepeated?_eq_some_iff.mpr ⟨i, first⟩
  unfold make
  rw [dif_neg runs_pos.ne']
  split
  · next other same =>
      rw [found] at same
      rw [Option.some_inj.mp same]
  · next single =>
      rw [found] at single
      cases single

end Plan

/-! ## The entries of a table -/

/-- The table of a campaign that succeeds mentions its configurations, in the given order. -/
theorem configurations_of_run? {σ : Type u} {bench : Bench σ} {plan : Plan} {state : σ}
    {outcome : Outcome σ SampleTable} {table : SampleTable}
    (returned : bench.run? plan state = some outcome) (ok : outcome.result = .ok table) :
    table.entries.map (·.1) = plan.configurations := by
  obtain rfl := Bench.eq_run_of_run? returned
  obtain ⟨visits, -, visited, -, -, rfl⟩ := Bench.completed_of_ok ok
  rw [map_entry_fst, visited]

/-- Which settings make a plan, what is said of those that do not, and how many entries the
table of a campaign has. -/
theorem make_ok_iff_and_errors (configurations : List Configuration) (dir : String) (runs : Nat)
    (policy : FailurePolicy) :
    -- There must be a run, and every label occurs once.
    ((∃ plan, Plan.make configurations dir runs policy = .ok plan) ↔
      1 ≤ runs ∧ (configurations.map (·.label)).Nodup) ∧
    -- Without a run nothing else is said.
    (runs = 0 → ∃ cause, Plan.make configurations dir runs policy = .error cause ∧
      cause.message = "the number of runs must be at least 1") ∧
    -- Otherwise the label is named that is the first to occur before its place.
    (1 ≤ runs → ¬ (configurations.map (·.label)).Nodup → ∃ i repeated,
      FirstRepeat configurations i repeated ∧
      ∃ cause, Plan.make configurations dir runs policy = .error cause ∧
        cause.message =
          "configuration " ++ Text.quote repeated.label ++ " given more than once") ∧
    -- A table has one entry for each configuration.
    (∀ plan, Plan.make configurations dir runs policy = .ok plan →
      ∀ (σ : Type u) (bench : Bench σ) (state : σ) (outcome : Outcome σ SampleTable)
        (table : SampleTable), bench.run? plan state = some outcome → outcome.result = .ok table →
        table.size = configurations.length ∧ table.entries.map (·.1) = configurations) := by
  have labels : (configurations.map (·.label)).Nodup ↔ configurations.Nodup := by
    apply List.nodup_map_iff
    rintro ⟨a⟩ ⟨b⟩ same
    exact congrArg Configuration.mk same
  rw [labels]
  refine ⟨⟨?_, ?_⟩, ?_, ?_, ?_⟩
  · rintro ⟨plan, made⟩
    obtain ⟨runs_pos, distinct, -⟩ := Plan.make_eq_ok_iff.mp made
    exact ⟨runs_pos, distinct⟩
  · rintro ⟨runs_pos, distinct⟩
    exact ⟨⟨configurations, dir, runs, policy, distinct, runs_pos⟩,
      Plan.make_eq_ok_iff.mpr ⟨runs_pos, distinct, rfl, rfl, rfl, rfl⟩⟩
  · rintro rfl
    exact ⟨.noRuns, Plan.make_of_no_runs, rfl⟩
  · intro runs_pos repeats
    obtain ⟨repeated, found⟩ := Option.ne_none_iff_exists'.mp
      (mt firstRepeated?_eq_none_iff.mp repeats)
    obtain ⟨i, first⟩ := firstRepeated?_eq_some_iff.mp found
    exact ⟨i, repeated, first, .repeated repeated, Plan.make_of_firstRepeat runs_pos first, rfl⟩
  · intro plan made σ bench state outcome table returned ok
    obtain ⟨-, -, given, -⟩ := Plan.make_eq_ok_iff.mp made
    have mentioned := configurations_of_run? returned ok
    rw [given] at mentioned
    refine ⟨?_, mentioned⟩
    rw [← mentioned, List.length_map]
    rfl

namespace Sample

/-- Two labels are given twice; the second of them is the first to come again. -/
def labelled : List Configuration := [⟨"A"⟩, ⟨"B"⟩, ⟨"B"⟩, ⟨"A"⟩]

theorem firstRepeat_labelled : FirstRepeat labelled 2 ⟨"B"⟩ where
  here := rfl
  before := by decide
  least := by
    intro j other here before
    match j with
    | 0 => simp at before
    | 1 =>
        obtain rfl := Option.some_inj.mp here
        exact absurd before (by decide)
    | j + 2 => omega

end Sample

/-- The label that comes again first is named, and the sample has a table with two entries. -/
theorem make_ok_iff_and_errors_repeated :
    (∃ cause, Plan.make Sample.labelled "d" 3 .abort = .error cause ∧
      cause.message = "configuration \"B\" given more than once") ∧
    Plan.make [⟨"A"⟩, ⟨""⟩] "d" 2 .zero = .ok (Sample.plan .zero) ∧
    ∃ outcome table, Sample.bench.run? (Sample.plan .zero) (Sample.tree, 0) = some outcome ∧
      outcome.result = .ok table ∧ table.size = 2 := by
  obtain ⟨-, -, repeats, -⟩ := make_ok_iff_and_errors.{0} Sample.labelled "d" 3 .abort
  obtain ⟨i, repeated, first, cause, refused, message⟩ := repeats (by decide) (by decide)
  obtain ⟨-, rfl⟩ := first.unique Sample.firstRepeat_labelled
  obtain ⟨-, -, -, tables⟩ := make_ok_iff_and_errors.{0} [⟨"A"⟩, ⟨""⟩] "d" 2 .zero
  have made : Plan.make [⟨"A"⟩, ⟨""⟩] "d" 2 .zero = .ok (Sample.plan .zero) := rfl
  obtain ⟨outcome, table, returned, ok⟩ := Sample.run?_zero
  refine ⟨⟨cause, refused, ?_⟩, made, outcome, table, returned, ok, ?_⟩
  · rw [message]
    decide +kernel
  · exact (tables _ made _ _ _ _ _ returned ok).1

end PhaseBench
