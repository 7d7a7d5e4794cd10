import PhaseBench.Proofs.Table.Alter

/-!
# What a table remembers

A table is built by mentioning configurations, putting cells in and changing cells
that are there. `Operation` names these, and `Table.ofHistory` makes them one after
the other, beginning with nothing. Each operation is described by what it does to
the order of the configurations (`labels_apply`) and to one cell (`cell?_apply`);
what a whole history does follows by induction on it.

A cell holds what the last insertion put there with all later changes made to it in
order (`cell?_of_inserted`); where these are samples pushed one by one, each series
is continued by the samples pushed to it (`foldl_onCell_of_pushes`).
-/

namespace PhaseBench

universe u

variable {α : Type u}

/-! ## Operations -/

/-- A cell with a sample pushed to a series, the cell and the series being made if need be. -/
def Metrics.pushed (metric : Metric) (sample : α) (cell? : Option (Metrics (List α))) :
    Metrics (List α) :=
  let cell := cell?.getD Metrics.empty
  cell.set metric (some ((cell.get metric).getD [] ++ [sample]))

/-- An operation on a table of series. -/
inductive Operation (α : Type u)
  /-- Mentions a configuration. -/
  | touch (configuration : Configuration)
  /-- Puts a cell in the place of what was there. -/
  | insert (configuration : Configuration) (name : String) (metrics : Metrics (List α))
  /-- Pushes one sample to a series of a cell. -/
  | push (configuration : Configuration) (name : String) (metric : Metric) (sample : α)
  /-- Changes a cell in any other way, given what was there. -/
  | update (configuration : Configuration) (name : String)
      (change : Option (Metrics (List α)) → Metrics (List α))

namespace Operation

/-- The configuration that an operation mentions. -/
def configuration : Operation α → Configuration
  | .touch configuration => configuration
  | .insert configuration _ _ => configuration
  | .push configuration _ _ _ => configuration
  | .update configuration _ _ => configuration

/-- The cell that an operation is made on. -/
def target? : Operation α → Option (Configuration × String)
  | .touch _ => none
  | .insert configuration name _ => some (configuration, name)
  | .push configuration name _ _ => some (configuration, name)
  | .update configuration name _ => some (configuration, name)

/-- What an operation makes of the cell that it is made on. -/
def change : Operation α → Option (Metrics (List α)) → Metrics (List α)
  | .touch _, cell? => cell?.getD Metrics.empty
  | .insert _ _ metrics, _ => metrics
  | .push _ _ metric sample, cell? => Metrics.pushed metric sample cell?
  | .update _ _ change, cell? => change cell?

/-- Holds for the operation that pushes a sample. -/
def isPush : Operation α → Bool
  | .push _ _ _ _ => true
  | _ => false

/-- The table after an operation. -/
def apply (table : Table (List α)) : Operation α → Table (List α)
  | .touch configuration => table.touch configuration
  | .insert configuration name metrics => table.insert configuration name metrics
  | .push configuration name metric sample => table.push configuration name metric sample
  | .update configuration name change => table.alter configuration (Inputs.alter name change)

/-- An operation mentions its configuration, and changes the cell that it is made on. -/
theorem apply_cases (table : Table (List α)) (operation : Operation α) :
    (operation.target? = none ∧ operation.apply table = table.touch operation.configuration) ∨
    ∃ name, operation.target? = some (operation.configuration, name) ∧
      operation.apply table =
        table.alter operation.configuration (Inputs.alter name operation.change) := by
  cases operation with
  | touch configuration => exact .inl ⟨rfl, rfl⟩
  | insert configuration name metrics => exact .inr ⟨name, rfl, rfl⟩
  | push configuration name metric sample => exact .inr ⟨name, rfl, rfl⟩
  | update configuration name change => exact .inr ⟨name, rfl, rfl⟩

theorem exists_apply_eq_alter (table : Table (List α)) (operation : Operation α) :
    ∃ f, operation.apply table = table.alter operation.configuration f ∧
      ∀ inputs, Inputs.Sorted inputs → Inputs.Sorted (f inputs) := by
  rcases apply_cases table operation with ⟨-, eq⟩ | ⟨name, -, eq⟩
  · exact ⟨id, eq, fun _ sorted => sorted⟩
  · exact ⟨_, eq, fun _ sorted => Inputs.sorted_alter sorted _ _⟩

theorem wellFormed_apply {table : Table (List α)} (wellFormed : table.WellFormed)
    (operation : Operation α) : (operation.apply table).WellFormed := by
  obtain ⟨f, eq, keeps⟩ := exists_apply_eq_alter table operation
  rw [eq]
  exact wellFormed.alter _ keeps

/-- A configuration is mentioned at the end unless it was mentioned before. -/
theorem labels_apply (table : Table (List α)) (operation : Operation α) :
    (operation.apply table).labels =
      if operation.configuration ∈ table.labels then table.labels
      else table.labels ++ [operation.configuration] := by
  obtain ⟨f, eq, -⟩ := exists_apply_eq_alter table operation
  rw [eq, Table.labels_alter]

/-- The cell of a configuration and an input after an operation. -/
def onCell (configuration : Configuration) (name : String) (cell? : Option (Metrics (List α)))
    (operation : Operation α) : Option (Metrics (List α)) :=
  if operation.target? = some (configuration, name) then some (operation.change cell?) else cell?

theorem cell?_apply {table : Table (List α)} (wellFormed : table.WellFormed)
    (operation : Operation α) (configuration : Configuration) (name : String) :
    (operation.apply table).cell? configuration name =
      operation.onCell configuration name (table.cell? configuration name) := by
  unfold onCell
  rcases apply_cases table operation with ⟨target, eq⟩ | ⟨input, target, eq⟩
  · rw [eq, target, Table.cell?_touch]
    simp
  · rw [eq, target, wellFormed.cell?_alter]
    simp

/-- What an operation leaves as it was: every cell but its own, the inputs of the other
configurations, and the place of every configuration. -/
structure Frames (operation : Operation α) (before after : Table (List α)) : Prop where
  cells : ∀ configuration name, operation.target? ≠ some (configuration, name) →
    after.cell? configuration name = before.cell? configuration name
  others : ∀ configuration, operation.configuration ≠ configuration →
    after.inputs? configuration = before.inputs? configuration
  places : before.labels <+: after.labels

theorem frames_apply {table : Table (List α)} (wellFormed : table.WellFormed)
    (operation : Operation α) : operation.Frames table (operation.apply table) := by
  refine ⟨?_, ?_, ?_⟩
  · intro configuration name elsewhere
    rw [cell?_apply wellFormed, onCell, if_neg elsewhere]
  · intro configuration different
    obtain ⟨f, eq, -⟩ := exists_apply_eq_alter table operation
    rw [eq, Table.inputs?_alter, if_neg different]
  · rw [labels_apply]
    split
    · exact List.prefix_rfl
    · exact List.prefix_append _ _

end Operation

/-! ## Histories -/

/-- The table that a history leaves, beginning with the empty one. -/
def Table.ofHistory (history : List (Operation α)) : Table (List α) :=
  history.foldl Operation.apply Table.empty

/-- The configurations that a history mentions, in the order of the operations. -/
def mentions (history : List (Operation α)) : List Configuration :=
  history.map (·.configuration)

/-- The samples that a history pushes to a series, in order. -/
def samplesPushed (configuration : Configuration) (name : String) (metric : Metric)
    (history : List (Operation α)) : List α :=
  history.filterMap fun
    | .push other input phase sample =>
      if other = configuration ∧ input = name ∧ phase = metric then some sample else none
    | _ => none

/-- A series continued by samples; without samples it stays as it was, there or not. -/
def extendSeries (series? : Option (List α)) : List α → Option (List α)
  | [] => series?
  | sample :: samples => some (series?.getD [] ++ sample :: samples)

namespace Table

theorem ofHistory_append (history later : List (Operation α)) :
    ofHistory (history ++ later) = later.foldl Operation.apply (ofHistory history) :=
  List.foldl_append

theorem ofHistory_concat (history : List (Operation α)) (operation : Operation α) :
    ofHistory (history ++ [operation]) = operation.apply (ofHistory history) :=
  ofHistory_append history [operation]

theorem wellFormed_empty : (Table.empty : Table α).WellFormed :=
  ⟨List.nodup_nil, fun _ member => absurd member (by simp [empty])⟩

theorem WellFormed.foldl {table : Table (List α)} (wellFormed : table.WellFormed)
    (history : List (Operation α)) : (history.foldl Operation.apply table).WellFormed := by
  induction history generalizing table with
  | nil => exact wellFormed
  | cons operation history ih => exact ih (Operation.wellFormed_apply wellFormed operation)

theorem wellFormed_ofHistory (history : List (Operation α)) : (ofHistory history).WellFormed :=
  wellFormed_empty.foldl history

/-! ### The order of the configurations -/

theorem mem_labels_ofHistory (history : List (Operation α)) (configuration : Configuration) :
    configuration ∈ (ofHistory history).labels ↔ configuration ∈ mentions history := by
  induction history using List.reverseRecOn with
  | nil => simp [ofHistory, empty, labels, mentions]
  | append_singleton history operation ih =>
      rw [ofHistory_concat, Operation.labels_apply, mentions, List.map_append, List.mem_append,
        ← mentions, ← ih]
      split
      · next known =>
          refine ⟨.inl, ?_⟩
          rintro (old | new)
          · exact old
          · rwa [List.mem_singleton.mp new]
      · exact List.mem_append

/-- The configurations stand in the order of their first mention. -/
theorem labels_ofHistory_pairwise (history : List (Operation α)) :
    (ofHistory history).labels.Pairwise fun a b =>
      (mentions history).idxOf a < (mentions history).idxOf b := by
  induction history using List.reverseRecOn with
  | nil => exact List.Pairwise.nil
  | append_singleton history operation ih =>
      have grown : mentions (history ++ [operation]) =
          mentions history ++ [operation.configuration] := by
        rw [mentions, List.map_append]
        rfl
      -- What was mentioned before keeps the place of its first mention.
      have kept : ∀ a ∈ (ofHistory history).labels,
          (mentions (history ++ [operation])).idxOf a = (mentions history).idxOf a := by
        intro a known
        rw [grown, List.idxOf_append_of_mem ((mem_labels_ofHistory history a).mp known)]
      have same : (ofHistory history).labels.Pairwise fun a b =>
          (mentions (history ++ [operation])).idxOf a <
            (mentions (history ++ [operation])).idxOf b := by
        refine ih.imp_of_mem ?_
        intro a b hereA hereB before
        rwa [kept a hereA, kept b hereB]
      rw [ofHistory_concat, Operation.labels_apply]
      split
      · exact same
      · next fresh =>
          refine List.pairwise_append.mpr ⟨same, List.pairwise_singleton _ _, ?_⟩
          intro a known b new
          obtain rfl := List.mem_singleton.mp new
          have unmentioned : operation.configuration ∉ mentions history :=
            fun mentioned => fresh ((mem_labels_ofHistory history _).mpr mentioned)
          rw [kept a known, grown, List.idxOf_append_of_notMem unmentioned]
          exact Nat.lt_of_lt_of_le
            (List.idxOf_lt_length_of_mem ((mem_labels_ofHistory history a).mp known))
            (Nat.le_add_right _ _)

theorem size_ofHistory (history : List (Operation α)) :
    (ofHistory history).size = (mentions history).toFinset.card := by
  have all : (ofHistory history).labels.toFinset = (mentions history).toFinset := by
    ext configuration
    rw [List.mem_toFinset, List.mem_toFinset, mem_labels_ofHistory]
  rw [← all, List.toFinset_card_of_nodup (wellFormed_ofHistory history).distinct, labels,
    List.length_map]
  rfl

/-! ### The cells -/

theorem WellFormed.cell?_foldl {table : Table (List α)} (wellFormed : table.WellFormed)
    (history : List (Operation α)) (configuration : Configuration) (name : String) :
    (history.foldl Operation.apply table).cell? configuration name =
      history.foldl (Operation.onCell configuration name) (table.cell? configuration name) := by
  induction history generalizing table with
  | nil => rfl
  | cons operation history ih =>
      rw [List.foldl_cons, ih (Operation.wellFormed_apply wellFormed operation),
        Operation.cell?_apply wellFormed, List.foldl_cons]

theorem cell?_ofHistory (history : List (Operation α)) (configuration : Configuration)
    (name : String) :
    (ofHistory history).cell? configuration name =
      history.foldl (Operation.onCell configuration name) none :=
  wellFormed_empty.cell?_foldl history configuration name

/-- What stood in a cell before an insertion does not matter after it. -/
theorem cell?_of_inserted {history earlier later : List (Operation α)}
    {configuration : Configuration} {name : String} {metrics : Metrics (List α)}
    (split : history = earlier ++ .insert configuration name metrics :: later) :
    (ofHistory history).cell? configuration name =
      later.foldl (Operation.onCell configuration name) (some metrics) := by
  have put : Operation.onCell configuration name
      (earlier.foldl (Operation.onCell configuration name) none)
      (.insert configuration name metrics) = some metrics := by
    simp [Operation.onCell, Operation.target?, Operation.change]
  rw [cell?_ofHistory, split, List.foldl_append, List.foldl_cons, put]

end Table

/-! ### Pushes -/

section Pushes

variable {configuration : Configuration} {name : String}

theorem extendSeries_push (series? : Option (List α)) (sample : α) (samples : List α) :
    extendSeries (some (series?.getD [] ++ [sample])) samples =
      extendSeries series? (sample :: samples) := by
  cases samples <;> simp [extendSeries]

theorem samplesPushed_cons_self (metric phase : Metric) (sample : α)
    (history : List (Operation α)) :
    samplesPushed configuration name phase (.push configuration name metric sample :: history) =
      if metric = phase then sample :: samplesPushed configuration name phase history
      else samplesPushed configuration name phase history := by
  by_cases same : metric = phase <;> simp [samplesPushed, same]

theorem samplesPushed_cons_of_ne {operation : Operation α} (metric : Metric)
    (elsewhere : operation.target? ≠ some (configuration, name)) (history : List (Operation α)) :
    samplesPushed configuration name metric (operation :: history) =
      samplesPushed configuration name metric history := by
  cases operation with
  | push other input phase sample =>
      have different : ¬ (other = configuration ∧ input = name ∧ phase = metric) := by
        rintro ⟨rfl, rfl, -⟩
        exact elsewhere rfl
      simp [samplesPushed, different]
  | touch | insert | update => simp [samplesPushed]

/-- A push to a cell is the only operation that is made on it and is a push. -/
theorem Operation.eq_push {operation : Operation α}
    (here : operation.target? = some (configuration, name)) (push : operation.isPush) :
    ∃ metric sample, operation = .push configuration name metric sample := by
  cases operation with
  | push other input metric sample =>
      obtain ⟨rfl, rfl⟩ : other = configuration ∧ input = name := by simpa [target?] using here
      exact ⟨metric, sample, rfl⟩
  | touch | insert | update => exact absurd push (by simp [isPush])

/-- Pushes continue every series of a cell by the samples that were pushed to it. -/
theorem foldl_onCell_of_pushes (cell : Metrics (List α)) {history : List (Operation α)}
    (pushes : ∀ operation ∈ history,
      operation.target? = some (configuration, name) → operation.isPush) :
    history.foldl (Operation.onCell configuration name) (some cell) =
      some (PerMetric.ofFn fun metric =>
        extendSeries (cell.get metric) (samplesPushed configuration name metric history)) := by
  induction history generalizing cell with
  | nil =>
      refine congrArg some (PerMetric.eq_of_get fun metric => ?_)
      rw [PerMetric.get_ofFn]
      rfl
  | cons operation history ih =>
      have later := fun cell => ih cell fun other member =>
        pushes other (List.mem_cons_of_mem _ member)
      rw [List.foldl_cons]
      by_cases here : operation.target? = some (configuration, name)
      · obtain ⟨metric, sample, rfl⟩ :=
          Operation.eq_push here (pushes operation List.mem_cons_self here)
        rw [Operation.onCell, if_pos here, later]
        refine congrArg some (PerMetric.eq_of_get fun phase => ?_)
        rw [PerMetric.get_ofFn, PerMetric.get_ofFn, samplesPushed_cons_self]
        simp only [Operation.change, Metrics.pushed, Option.getD_some, PerMetric.get_set]
        by_cases same : metric = phase
        · subst same
          rw [if_pos rfl, if_pos rfl, extendSeries_push]
        · rw [if_neg (Ne.symm same), if_neg same]
      · rw [Operation.onCell, if_neg here, later]
        simp only [samplesPushed_cons_of_ne _ here]

/-- The first push to a cell makes it, with no series but its own. -/
theorem foldl_onCell_none_of_pushes {history : List (Operation α)}
    (pushes : ∀ operation ∈ history,
      operation.target? = some (configuration, name) → operation.isPush)
    (some_push : ∃ operation ∈ history, operation.target? = some (configuration, name)) :
    history.foldl (Operation.onCell configuration name) none =
      history.foldl (Operation.onCell configuration name) (some Metrics.empty) := by
  induction history with
  | nil => exact absurd some_push (by simp)
  | cons operation history ih =>
      rw [List.foldl_cons, List.foldl_cons]
      by_cases here : operation.target? = some (configuration, name)
      · obtain ⟨metric, sample, rfl⟩ :=
          Operation.eq_push here (pushes operation List.mem_cons_self here)
        rw [Operation.onCell, if_pos here, Operation.onCell, if_pos here]
        rfl
      · rw [Operation.onCell, if_neg here, Operation.onCell, if_neg here]
        refine ih (fun other member => pushes other (List.mem_cons_of_mem _ member)) ?_
        obtain ⟨other, member, target⟩ := some_push
        rcases List.mem_cons.mp member with rfl | later
        · exact absurd target here
        · exact ⟨other, later, target⟩

theorem foldl_onCell_of_untouched {history : List (Operation α)}
    (untouched : ∀ operation ∈ history, operation.target? ≠ some (configuration, name))
    (cell? : Option (Metrics (List α))) :
    history.foldl (Operation.onCell configuration name) cell? = cell? := by
  induction history with
  | nil => rfl
  | cons operation history ih =>
      rw [List.foldl_cons, Operation.onCell, if_neg (untouched operation List.mem_cons_self)]
      exact ih fun other member => untouched other (List.mem_cons_of_mem _ member)

end Pushes

/-! ## The table of a history -/

/-- A table holds what a history of operations says. -/
structure Table.Recounts (history : List (Operation α)) (table : Table (List α)) : Prop where
  /-- No configuration occurs twice. -/
  distinct : table.labels.Nodup
  /-- The configurations are those that were mentioned. -/
  mentioned : ∀ configuration, configuration ∈ table.labels ↔ configuration ∈ mentions history
  /-- They stand in the order of their first mention. -/
  inOrder : table.labels.Pairwise fun a b =>
    (mentions history).idxOf a < (mentions history).idxOf b
  /-- There are as many as were mentioned, each counted once. -/
  size_eq : table.size = (mentions history).toFinset.card
  /-- The inputs of each are strictly increasing by the bytes of their names. -/
  sorted : ∀ entry ∈ table.entries, entry.2.Pairwise fun a b => nameBytes a.1 < nameBytes b.1
  /-- A cell that was put in and then only pushed to holds what the last insertion put there,
  each series followed by the samples pushed to it since. -/
  inserted : ∀ configuration name earlier metrics later,
    history = earlier ++ .insert configuration name metrics :: later →
    (∀ operation ∈ later, operation.target? = some (configuration, name) → operation.isPush) →
    table.cell? configuration name = some (PerMetric.ofFn fun metric =>
      extendSeries (metrics.get metric) (samplesPushed configuration name metric later))
  /-- A cell that was only pushed to holds the samples pushed to it. -/
  pushed : ∀ configuration name,
    (∀ operation ∈ history, operation.target? = some (configuration, name) → operation.isPush) →
    (∃ operation ∈ history, operation.target? = some (configuration, name)) →
    table.cell? configuration name = some (PerMetric.ofFn fun metric =>
      extendSeries none (samplesPushed configuration name metric history))
  /-- A cell that was changed in other ways too is what the operations on it make of it one
  after the other. -/
  changed : ∀ configuration name,
    table.cell? configuration name = history.foldl (Operation.onCell configuration name) none
  /-- A cell on which no operation was made is not there. -/
  untouched : ∀ configuration name,
    (∀ operation ∈ history, operation.target? ≠ some (configuration, name)) →
    table.cell? configuration name = none

/-- A table built from nothing recounts its history, and every further operation leaves all
but its own cell as it was. -/
theorem ofHistory_recounts (history : List (Operation α)) :
    Table.Recounts history (Table.ofHistory history) ∧
      ∀ operation : Operation α, operation.Frames (Table.ofHistory history)
        (Table.ofHistory (history ++ [operation])) := by
  have wellFormed := Table.wellFormed_ofHistory history
  refine ⟨⟨wellFormed.distinct, Table.mem_labels_ofHistory history,
    Table.labels_ofHistory_pairwise history, Table.size_ofHistory history, ?_, ?_, ?_,
    Table.cell?_ofHistory history, ?_⟩, ?_⟩
  · intro entry member
    exact (wellFormed.sorted entry member).imp nameBefore_iff.mp
  · intro configuration name earlier metrics later split pushes
    rw [Table.cell?_of_inserted split, foldl_onCell_of_pushes metrics pushes]
  · intro configuration name pushes somePush
    have nothing : ∀ metric, (Metrics.empty : Metrics (List α)).get metric = none :=
      fun metric => PerMetric.get_ofFn _ metric
    rw [Table.cell?_ofHistory, foldl_onCell_none_of_pushes pushes somePush,
      foldl_onCell_of_pushes _ pushes]
    simp only [nothing]
  · intro configuration name untouched
    rw [Table.cell?_ofHistory, foldl_onCell_of_untouched untouched]
  · intro operation
    rw [Table.ofHistory_concat]
    exact Operation.frames_apply wellFormed operation

end PhaseBench
