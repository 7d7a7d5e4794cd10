import PhaseBench.Proofs.Table.Basic

/-!
# Changing a table

All changes of a table go through `Table.alter` and `Inputs.alter`. A table is well
formed when no configuration occurs twice and the inputs of each stand in the strict
byte order of their names; both kinds of change keep it so (`WellFormed.alter`,
`Inputs.sorted_alter`). What a change does is read off one look-up: it moves no
configuration (`labels_alter`), and it concerns one cell only (`WellFormed.cell?_alter`).
-/

namespace PhaseBench

universe u

variable {α : Type u}

/-! ## Changing inputs -/

namespace Inputs

/-- The inputs stand in the strict byte order of their names. -/
def Sorted (inputs : Inputs α) : Prop := inputs.Pairwise fun a b => nameBefore a.1 b.1

theorem Sorted.distinct {inputs : Inputs α} (sorted : Sorted inputs) :
    (inputs.map (·.1)).Nodup := by
  rw [List.Nodup, List.pairwise_map]
  exact sorted.imp ne_of_nameBefore

theorem get?_cons (name other : String) (cell : Metrics α) (inputs : Inputs α) :
    get? ((name, cell) :: inputs) other = if name = other then some cell else get? inputs other := by
  by_cases here : name = other <;> simp [get?, here]

/-- A name that comes before all inputs is not among them. -/
theorem get?_eq_none_of_before {inputs : Inputs α} {name : String}
    (before : ∀ input ∈ inputs, nameBefore name input.1) : get? inputs name = none := by
  rw [get?, Option.map_eq_none_iff, List.find?_eq_none]
  intro input member same
  have sameName : input.1 = name := by simpa using same
  exact ne_of_nameBefore (before input member) sameName.symm

theorem get?_alter {inputs : Inputs α} (sorted : Sorted inputs) (name other : String)
    (f : Option (Metrics α) → Metrics α) :
    get? (alter name f inputs) other =
      if name = other then some (f (get? inputs name)) else get? inputs other := by
  induction inputs with
  | nil => rw [alter, get?_cons]; rfl
  | cons input inputs ih =>
      obtain ⟨first, cell⟩ := input
      unfold alter
      split
      · next same =>
          subst same
          rw [get?_cons, get?_cons, get?_cons, if_pos rfl]
          by_cases here : first = other <;> simp [here]
      · next different =>
          split
          · next before =>
              -- The name belongs in front, so none of the inputs has it.
              have absent : get? ((first, cell) :: inputs) name = none := by
                apply get?_eq_none_of_before
                intro input member
                rcases List.mem_cons.mp member with rfl | later
                · exact before
                · exact nameBefore_trans before (List.rel_of_pairwise_cons sorted later)
              rw [get?_cons, absent]
          · rw [get?_cons, ih (List.Pairwise.of_cons sorted), get?_cons, get?_cons,
              if_neg different]
            by_cases here : first = other
            · subst here
              simp [Ne.symm different]
            · simp [here]

theorem mem_alter {inputs : Inputs α} {name : String} {f : Option (Metrics α) → Metrics α}
    {input : String × Metrics α} (member : input ∈ alter name f inputs) :
    input.1 = name ∨ input ∈ inputs := by
  induction inputs with
  | nil =>
      rw [alter, List.mem_singleton] at member
      exact .inl (congrArg Prod.fst member)
  | cons first inputs ih =>
      obtain ⟨other, cell⟩ := first
      unfold alter at member
      split at member
      · next same =>
          rcases List.mem_cons.mp member with rfl | later
          · exact .inl same
          · exact .inr (List.mem_cons_of_mem _ later)
      · split at member
        · rcases List.mem_cons.mp member with rfl | later
          · exact .inl rfl
          · exact .inr later
        · rcases List.mem_cons.mp member with rfl | later
          · exact .inr List.mem_cons_self
          · exact (ih later).imp_right (List.mem_cons_of_mem _)

theorem sorted_alter {inputs : Inputs α} (sorted : Sorted inputs) (name : String)
    (f : Option (Metrics α) → Metrics α) : Sorted (alter name f inputs) := by
  induction inputs with
  | nil => exact List.pairwise_singleton _ _
  | cons input inputs ih =>
      obtain ⟨first, cell⟩ := input
      obtain ⟨behind, rest⟩ := List.pairwise_cons.mp sorted
      unfold alter
      split
      · exact List.pairwise_cons.mpr ⟨behind, rest⟩
      · next different =>
          split
          · next before =>
              refine List.pairwise_cons.mpr ⟨?_, sorted⟩
              intro input member
              rcases List.mem_cons.mp member with rfl | later
              · exact before
              · exact nameBefore_trans before (behind input later)
          · next notBefore =>
              refine List.pairwise_cons.mpr ⟨?_, ih rest⟩
              intro input member
              rcases mem_alter member with same | later
              · by_contra notBehind
                rw [same] at notBehind
                exact different (eq_of_not_nameBefore notBehind notBefore)
              · exact behind input later

end Inputs

/-! ## Changing entries -/

namespace Table

/-- The configurations of a table, in order. -/
def labels (table : Table α) : List Configuration := table.entries.map (·.1)

/-- The cell of a configuration and an input. -/
def cell? (table : Table α) (configuration : Configuration) (name : String) :
    Option (Metrics α) :=
  (table.inputs? configuration).bind fun inputs => Inputs.get? inputs name

/-- No configuration occurs twice, and the inputs of each are sorted. -/
structure WellFormed (table : Table α) : Prop where
  distinct : table.labels.Nodup
  sorted : ∀ entry ∈ table.entries, Inputs.Sorted entry.2

theorem labels_alter (table : Table α) (configuration : Configuration)
    (f : Inputs α → Inputs α) :
    (table.alter configuration f).labels =
      if configuration ∈ table.labels then table.labels else table.labels ++ [configuration] := by
  obtain ⟨entries⟩ := table
  simp only [labels, alter]
  induction entries with
  | nil => rfl
  | cons entry entries ih =>
      obtain ⟨other, inputs⟩ := entry
      unfold alterEntries
      split
      · next same => simp [same]
      · next different =>
          rw [List.map_cons, ih]
          by_cases among : configuration ∈ entries.map (·.1) <;>
            simp_all [Ne.symm different]

theorem inputs?_alter (table : Table α) (configuration other : Configuration)
    (f : Inputs α → Inputs α) :
    (table.alter configuration f).inputs? other =
      if configuration = other then some (f ((table.inputs? configuration).getD []))
      else table.inputs? other := by
  obtain ⟨entries⟩ := table
  simp only [inputs?, alter]
  induction entries with
  | nil => by_cases same : configuration = other <;> simp [alterEntries, same]
  | cons entry entries ih =>
      obtain ⟨first, inputs⟩ := entry
      unfold alterEntries
      split
      · next same => by_cases here : configuration = other <;> simp [same, here]
      · next different =>
          by_cases here : first = other
          · subst here
            simp [Ne.symm different]
          · simpa [here, different] using ih

theorem mem_alterEntries {configuration : Configuration} {f : Inputs α → Inputs α}
    {entries : List (Configuration × Inputs α)} {entry : Configuration × Inputs α}
    (member : entry ∈ alterEntries configuration f entries) :
    entry ∈ entries ∨ entry.2 = f [] ∨ ∃ old ∈ entries, entry.2 = f old.2 := by
  induction entries with
  | nil =>
      rw [alterEntries, List.mem_singleton] at member
      exact .inr (.inl (congrArg Prod.snd member))
  | cons first entries ih =>
      obtain ⟨other, inputs⟩ := first
      unfold alterEntries at member
      split at member
      · rcases List.mem_cons.mp member with rfl | later
        · exact .inr (.inr ⟨_, List.mem_cons_self, rfl⟩)
        · exact .inl (List.mem_cons_of_mem _ later)
      · rcases List.mem_cons.mp member with rfl | later
        · exact .inl List.mem_cons_self
        · rcases ih later with old | new | ⟨old, among, eq⟩
          · exact .inl (List.mem_cons_of_mem _ old)
          · exact .inr (.inl new)
          · exact .inr (.inr ⟨old, List.mem_cons_of_mem _ among, eq⟩)

theorem WellFormed.alter {table : Table α} (wellFormed : table.WellFormed)
    (configuration : Configuration) {f : Inputs α → Inputs α}
    (keeps : ∀ inputs, Inputs.Sorted inputs → Inputs.Sorted (f inputs)) :
    (table.alter configuration f).WellFormed := by
  refine ⟨?_, ?_⟩
  · rw [labels_alter]
    split
    · exact wellFormed.distinct
    · next fresh =>
        exact List.nodup_append.mpr ⟨wellFormed.distinct, by simp,
          fun a among b new same => fresh (by simp_all)⟩
  · intro entry member
    rcases mem_alterEntries member with old | new | ⟨old, among, eq⟩
    · exact wellFormed.sorted entry old
    · rw [new]
      exact keeps [] List.Pairwise.nil
    · rw [eq]
      exact keeps old.2 (wellFormed.sorted old among)

theorem WellFormed.sorted_inputs {table : Table α} (wellFormed : table.WellFormed)
    (configuration : Configuration) :
    Inputs.Sorted ((table.inputs? configuration).getD []) := by
  cases found : table.inputs? configuration with
  | none => exact List.Pairwise.nil
  | some inputs =>
      obtain ⟨entry, here, rfl⟩ := Option.map_eq_some_iff.mp found
      exact wellFormed.sorted entry (List.mem_of_find?_eq_some here)

theorem cell?_eq_get? (table : Table α) (configuration : Configuration) (name : String) :
    table.cell? configuration name =
      Inputs.get? ((table.inputs? configuration).getD []) name := by
  unfold cell?
  cases table.inputs? configuration <;> rfl

/-- Mentioning a configuration changes no cell. -/
theorem cell?_touch (table : Table α) (configuration other : Configuration) (name : String) :
    (table.touch configuration).cell? other name = table.cell? other name := by
  rw [cell?_eq_get?, touch, inputs?_alter, cell?_eq_get?]
  split
  · next same => rw [same]; rfl
  · rfl

/-- Changing the cell of an input changes that cell and no other. -/
theorem WellFormed.cell?_alter {table : Table α} (wellFormed : table.WellFormed)
    (configuration other : Configuration) (name input : String)
    (f : Option (Metrics α) → Metrics α) :
    (table.alter configuration (Inputs.alter name f)).cell? other input =
      if configuration = other ∧ name = input then some (f (table.cell? other input))
      else table.cell? other input := by
  rw [cell?_eq_get?, inputs?_alter, cell?_eq_get?]
  by_cases same : configuration = other
  · subst same
    rw [if_pos rfl, Option.getD_some, Inputs.get?_alter (wellFormed.sorted_inputs configuration)]
    by_cases here : name = input
    · subst here
      simp
    · simp [here]
  · simp [same]

end Table

end PhaseBench
