import PhaseBench.Metric
import PhaseBench.Text.Quoted

/-!
# Tables

A `Table` maps configurations to their inputs and those to metrics. The
configurations stand in the order of their first mention, the inputs of one
configuration in the order of the bytes of their names.
-/

namespace PhaseBench

universe u v

/-- A set of features under benchmark, known by its label. -/
structure Configuration where
  label : String
deriving DecidableEq

namespace Configuration

/-- A configuration as messages show it. -/
def display (configuration : Configuration) : String := Text.quote configuration.label

end Configuration

/-! ## Names in byte order -/

/-- The bytes of a name. -/
def nameBytes (name : String) : List UInt8 := name.toUTF8.toList

/-- Holds when the bytes of one name come before those of another. -/
def nameBefore (a b : String) : Bool := decide (nameBytes a < nameBytes b)

/-! ## Inputs -/

/-- The values of one cell; a phase may have none. -/
abbrev Metrics (α : Type u) := PerMetric (Option α)

/-- No value for any phase. -/
def Metrics.empty {α : Type u} : Metrics α := PerMetric.ofFn fun _ => none

/-- The inputs of a configuration with their cells, in the byte order of the names. -/
abbrev Inputs (α : Type u) := List (String × Metrics α)

namespace Inputs

variable {α : Type u}

/-- The cell of an input. -/
def get? (inputs : Inputs α) (name : String) : Option (Metrics α) :=
  (inputs.find? fun input => input.1 == name).map (·.2)

/-- Changes the cell of an input, putting a new input where its name belongs. -/
def alter (name : String) (f : Option (Metrics α) → Metrics α) : Inputs α → Inputs α
  | [] => [(name, f none)]
  | (other, metrics) :: rest =>
    if other = name then (other, f (some metrics)) :: rest
    else if nameBefore name other then (name, f none) :: (other, metrics) :: rest
    else (other, metrics) :: alter name f rest

end Inputs

/-! ## Tables -/

/-- Configurations in the order of their first mention, each with its inputs. -/
structure Table (α : Type u) where
  entries : List (Configuration × Inputs α)

namespace Table

variable {α : Type u}

/-- The table that mentions nothing. -/
def empty : Table α := ⟨[]⟩

/-- The number of configurations. -/
def size (table : Table α) : Nat := table.entries.length

/-- The inputs of a configuration. -/
def inputs? (table : Table α) (configuration : Configuration) : Option (Inputs α) :=
  (table.entries.find? fun entry => entry.1 == configuration).map (·.2)

/-- Changes the inputs of a configuration, putting a new one at the end. -/
def alterEntries (configuration : Configuration) (f : Inputs α → Inputs α) :
    List (Configuration × Inputs α) → List (Configuration × Inputs α)
  | [] => [(configuration, f [])]
  | (other, inputs) :: rest =>
    if other = configuration then (other, f inputs) :: rest
    else (other, inputs) :: alterEntries configuration f rest

/-- Changes the inputs of a configuration, mentioning it if need be. -/
def alter (table : Table α) (configuration : Configuration) (f : Inputs α → Inputs α) :
    Table α :=
  ⟨alterEntries configuration f table.entries⟩

/-- Mentions a configuration. -/
def touch (table : Table α) (configuration : Configuration) : Table α :=
  table.alter configuration id

/-- Puts a cell into a table in the place of the cell that was there. -/
def insert (table : Table α) (configuration : Configuration) (name : String)
    (metrics : Metrics α) : Table α :=
  table.alter configuration (Inputs.alter name fun _ => metrics)

/-- Adds one sample at the end of a series, making the cell and the series if need be. -/
def push (table : Table (List α)) (configuration : Configuration) (name : String)
    (metric : Metric) (sample : α) : Table (List α) :=
  table.alter configuration <| Inputs.alter name fun cell? =>
    let cell := cell?.getD Metrics.empty
    cell.set metric (some ((cell.get metric).getD [] ++ [sample]))

/-- Applies a function to every value. -/
def map {β : Type v} (f : α → β) (table : Table α) : Table β :=
  ⟨table.entries.map fun (configuration, inputs) =>
    (configuration, inputs.map fun (name, metrics) => (name, metrics.map (·.map f)))⟩

end Table

end PhaseBench
