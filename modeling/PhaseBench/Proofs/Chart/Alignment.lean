import PhaseBench.Chart.Basic
import PhaseBench.Proofs.Table.History

/-!
# Charts and cells

A chart lists its bars phase by phase, a table its samples input by input.
`charts_aligned` says that nothing is displaced on the way from the one to the other:
the bar of a phase in a group is the mean of the series in the cell of that group, and
a cell without the phase leaves a bar of height zero in its place.

Replacing every value by its image keeps the keys and their order, so it commutes with
the operations that build a table (`Table.map_touch`, `Table.map_insert`).
-/

namespace PhaseBench

universe u v

variable {α : Type u} {β : Type v}

/-! ## Images of a table -/

/-- The image of the inputs of a configuration. -/
def Inputs.mapValues (f : α → β) (inputs : Inputs α) : Inputs β :=
  inputs.map fun input => (input.1, input.2.map (Option.map f))

theorem Inputs.mapValues_alter (f : α → β) {g : Option (Metrics α) → Metrics α}
    {h : Option (Metrics β) → Metrics β} (name : String)
    (agree : ∀ cell? : Option (Metrics α),
      (g cell?).map (Option.map f) = h (cell?.map fun cell => cell.map (Option.map f)))
    (inputs : Inputs α) :
    mapValues f (alter name g inputs) = alter name h (mapValues f inputs) := by
  induction inputs with
  | nil =>
      show [(name, (g none).map (Option.map f))] = [(name, h none)]
      rw [agree]
      rfl
  | cons input inputs ih =>
      obtain ⟨other, cell⟩ := input
      show mapValues f (alter name g ((other, cell) :: inputs)) =
        alter name h ((other, cell.map (Option.map f)) :: mapValues f inputs)
      unfold alter
      split
      · show (other, (g (some cell)).map (Option.map f)) :: mapValues f inputs = _
        rw [agree]
        rfl
      · split
        · show (name, (g none).map (Option.map f)) :: mapValues f ((other, cell) :: inputs) = _
          rw [agree]
          rfl
        · show (other, cell.map (Option.map f)) :: mapValues f (alter name g inputs) = _
          rw [ih]

namespace Table

theorem map_entries (f : α → β) (table : Table α) :
    (table.map f).entries =
      table.entries.map fun entry => (entry.1, Inputs.mapValues f entry.2) := rfl

theorem map_alter (f : α → β) (table : Table α) (configuration : Configuration)
    {g : Inputs α → Inputs α} {h : Inputs β → Inputs β}
    (agree : ∀ inputs, Inputs.mapValues f (g inputs) = h (Inputs.mapValues f inputs)) :
    (table.alter configuration g).map f = (table.map f).alter configuration h := by
  obtain ⟨entries⟩ := table
  refine congrArg Table.mk ?_
  show (alterEntries configuration g entries).map
      (fun entry => (entry.1, Inputs.mapValues f entry.2)) =
    alterEntries configuration h
      (entries.map fun entry => (entry.1, Inputs.mapValues f entry.2))
  induction entries with
  | nil =>
      show [(configuration, Inputs.mapValues f (g []))] = [(configuration, h [])]
      rw [agree]
      rfl
  | cons entry entries ih =>
      obtain ⟨other, inputs⟩ := entry
      rw [List.map_cons]
      unfold alterEntries
      split
      · rw [List.map_cons, agree]
      · rw [List.map_cons, ih]

/-- Mentioning a configuration before or after replacing the values is the same. -/
theorem map_touch (f : α → β) (table : Table α) (configuration : Configuration) :
    (table.touch configuration).map f = (table.map f).touch configuration :=
  map_alter f table configuration fun _ => rfl

/-- Putting a cell in and then replacing the values is putting its image in. -/
theorem map_insert (f : α → β) (table : Table α) (configuration : Configuration) (name : String)
    (metrics : Metrics α) :
    (table.insert configuration name metrics).map f =
      (table.map f).insert configuration name (metrics.map (Option.map f)) :=
  map_alter f table configuration (Inputs.mapValues_alter f name fun _ => rfl)

/-- The keys of a table in their order: the configurations, each with the names of its
inputs. -/
def keys (table : Table α) : List (Configuration × List String) :=
  table.entries.map fun entry => (entry.1, entry.2.map (·.1))

theorem keys_map (f : α → β) (table : Table α) : (table.map f).keys = table.keys := by
  simp [keys, map_entries, Inputs.mapValues, Function.comp_def]

/-- In a well-formed table the value of a phase is found where it stands. -/
theorem WellFormed.value?_eq {table : Table α} (wellFormed : table.WellFormed)
    {configuration : Configuration} {inputs : Inputs α} {name : String} {cell : Metrics α}
    (entry : (configuration, inputs) ∈ table.entries) (input : (name, cell) ∈ inputs)
    (metric : Metric) : table.value? configuration name metric = cell.get metric := by
  have sorted := wellFormed.sorted _ entry
  rw [value?, inputs?_eq_some wellFormed.distinct entry, Option.bind_some,
    Inputs.get?_eq_some sorted.distinct input, Option.bind_some]

end Table

/-! ## The chart of an entry -/

/-- The height of the bar of a series: its mean, zero where there is none. -/
def barHeight (series? : Option (List Nat)) : Double :=
  match series? with
  | some samples => mean samples
  | none => Double.zero

/-- The chart of an entry of a table shows the cells of that entry, each in its own group. -/
structure Chart.Aligned (table : SampleTable) (entry : Configuration × Inputs (List Nat))
    (chart : Chart) : Prop where
  title_eq : chart.title = if entry.1.label = "" then "No optimizations" else entry.1.label
  /-- The groups are the inputs in their order. -/
  categories_eq : chart.categories = entry.2.map (·.1)
  /-- There is a series for each phase in the order of the phases, whatever the cells hold. -/
  metrics_eq : chart.series.map (·.metric) = Metric.all
  /-- No series has more bars or captions than there are groups. -/
  filled : ∀ series ∈ chart.series,
    series.values.length = entry.2.length ∧ series.captions.length = entry.2.length
  /-- The bar of a group is the mean of the series of its cell. -/
  value_eq : ∀ series ∈ chart.series, ∀ (group : Nat) (name : String),
    chart.categories[group]? = some name →
    series.values[group]? = some (barHeight (table.value? entry.1 name series.metric))
  /-- The caption of a bar is that of its height. -/
  caption_eq : ∀ series ∈ chart.series, ∀ (group : Nat) (name : String),
    chart.categories[group]? = some name →
    series.captions[group]? =
      some (Chart.caption (barHeight (table.value? entry.1 name series.metric)))

theorem barHeight_eq (cell : Metrics (List Nat)) (metric : Metric) :
    ((cell.map (Option.map mean)).get metric).getD Double.zero =
      barHeight (cell.get metric) := by
  rw [PerMetric.get_map]
  -- The sides are rewritten to one text, as comparing them by `rfl` computes the mean.
  cases cell.get metric with
  | none => rw [barHeight, Option.map_none, Option.getD_none]
  | some samples => rw [barHeight, Option.map_some, Option.getD_some]

theorem Chart.values_seriesOf (inputs : Inputs (List Nat)) (metric : Metric) :
    (Chart.seriesOf (Inputs.mapValues mean inputs) metric).values =
      inputs.map fun input => barHeight (input.2.get metric) := by
  simp only [Chart.seriesOf, Inputs.mapValues, List.map_map]
  apply List.map_congr_left
  intro input _
  rw [Function.comp_apply, barHeight_eq]

theorem Table.WellFormed.aligned {table : SampleTable} (wellFormed : Table.WellFormed table)
    {entry : Configuration × Inputs (List Nat)} (member : entry ∈ table.entries) :
    Chart.Aligned table entry (Chart.ofInputs entry.1 (Inputs.mapValues mean entry.2)) := by
  have categories : (Chart.ofInputs entry.1 (Inputs.mapValues mean entry.2)).categories =
      entry.2.map (·.1) := by
    simp [Chart.ofInputs, Inputs.mapValues]
  -- The group of a name is the place of its cell among the inputs.
  have bar : ∀ (metric : Metric) (group : Nat) (name : String),
      (Chart.ofInputs entry.1 (Inputs.mapValues mean entry.2)).categories[group]? = some name →
      (Chart.seriesOf (Inputs.mapValues mean entry.2) metric).values[group]? =
        some (barHeight (table.value? entry.1 name metric)) := by
    intro metric group name named
    rw [categories, List.getElem?_map, Option.map_eq_some_iff] at named
    obtain ⟨input, found, rfl⟩ := named
    rw [Chart.values_seriesOf, List.getElem?_map, found, Option.map_some,
      wellFormed.value?_eq member (List.mem_of_getElem? found)]
  refine ⟨rfl, categories, rfl, ?_, ?_, ?_⟩
  · intro series among
    obtain ⟨metric, -, rfl⟩ := List.mem_map.mp among
    simp [Chart.seriesOf, Inputs.mapValues]
  · intro series among group name named
    obtain ⟨metric, -, rfl⟩ := List.mem_map.mp among
    exact bar metric group name named
  · intro series among group name named
    obtain ⟨metric, -, rfl⟩ := List.mem_map.mp among
    have captions : (Chart.seriesOf (Inputs.mapValues mean entry.2) metric).captions =
        (Chart.seriesOf (Inputs.mapValues mean entry.2) metric).values.map Chart.caption := rfl
    rw [captions, List.getElem?_map, bar metric group name named]
    rfl

/-! ## The charts of a table -/

/-- The charts of any table that operations build show its cells in their places, and taking
means commutes with building. -/
theorem charts_aligned (history : List (Operation Nat)) :
    List.Forall₂ (Chart.Aligned (Table.ofHistory history)) (Table.ofHistory history).entries
        (Chart.ofSummary (SampleTable.summarize (Table.ofHistory history))) ∧
      (SampleTable.summarize (Table.ofHistory history)).keys = (Table.ofHistory history).keys ∧
      (∀ configuration name metrics,
        SampleTable.summarize ((Table.ofHistory history).insert configuration name metrics) =
          (SampleTable.summarize (Table.ofHistory history)).insert configuration name
            (metrics.map (Option.map mean))) ∧
      ∀ configuration, SampleTable.summarize ((Table.ofHistory history).touch configuration) =
        (SampleTable.summarize (Table.ofHistory history)).touch configuration := by
  refine ⟨?_, Table.keys_map mean _, Table.map_insert mean _, Table.map_touch mean _⟩
  rw [Chart.ofSummary, SampleTable.summarize, Table.map_entries, List.map_map,
    List.forall₂_map_right_iff, List.forall₂_same]
  intro entry member
  exact (Table.wellFormed_ofHistory history).aligned member

end PhaseBench
