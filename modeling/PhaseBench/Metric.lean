/-!
# Timing phases

A `Metric` names one phase that the benchmarked program times and reports. The
three phases have a fixed order, which is the order of the bars in a chart, and
`PerMetric` is a value for each of them.
-/

namespace PhaseBench

universe u v

/-- A timing phase reported by the benchmarked program. -/
inductive Metric
  | generating
  | interpreting
  | threaded
deriving DecidableEq

namespace Metric

/-- Every phase, in the order in which bars are drawn. -/
def all : List Metric := [.generating, .interpreting, .threaded]

/-- The words that stand before `took <n>ms` in a report line. -/
def label : Metric → String
  | .generating => "Generating bytecode"
  | .interpreting => "Interpreting"
  | .threaded => "Interpreting (threaded)"

/-- The name shown in tables and legends. -/
def name : Metric → String
  | .generating => "generating"
  | .interpreting => "interpreting"
  | .threaded => "interpreting (threaded)"

/-- The position of a phase in `all`. -/
def index : Metric → Nat
  | .generating => 0
  | .interpreting => 1
  | .threaded => 2

/-- The phase of a given name. -/
def ofName? (name : String) : Option Metric :=
  all.find? fun metric => metric.name == name

theorem mem_all (metric : Metric) : metric ∈ all := by
  cases metric <;> decide

theorem getElem?_all_index (metric : Metric) : all[metric.index]? = some metric := by
  cases metric <;> rfl

theorem ofName?_name (metric : Metric) : ofName? metric.name = some metric := by
  cases metric <;> decide

end Metric

/-- A value for each phase. -/
@[ext]
structure PerMetric (α : Type u) where
  generating : α
  interpreting : α
  threaded : α
deriving DecidableEq

namespace PerMetric

variable {α : Type u} {β : Type v}

/-- The value of one phase. -/
def get (values : PerMetric α) : Metric → α
  | .generating => values.generating
  | .interpreting => values.interpreting
  | .threaded => values.threaded

/-- The values that a function gives to the phases. -/
def ofFn (f : Metric → α) : PerMetric α :=
  ⟨f .generating, f .interpreting, f .threaded⟩

/-- Applies a function to the value of each phase. -/
def map (f : α → β) (values : PerMetric α) : PerMetric β :=
  ofFn fun metric => f (values.get metric)

/-- Replaces the value of one phase. -/
def set (values : PerMetric α) (metric : Metric) (value : α) : PerMetric α :=
  ofFn fun other => if other = metric then value else values.get other

@[simp]
theorem get_ofFn (f : Metric → α) (metric : Metric) : (ofFn f).get metric = f metric := by
  cases metric <;> rfl

@[simp]
theorem get_map (f : α → β) (values : PerMetric α) (metric : Metric) :
    (values.map f).get metric = f (values.get metric) := by
  simp [map]

@[simp]
theorem get_set (values : PerMetric α) (metric other : Metric) (value : α) :
    (values.set metric value).get other = if other = metric then value else values.get other := by
  simp [set]

/-- Values are equal when they agree on every phase. -/
theorem eq_of_get {a b : PerMetric α} (h : ∀ metric, a.get metric = b.get metric) : a = b :=
  PerMetric.ext (h .generating) (h .interpreting) (h .threaded)

end PerMetric

end PhaseBench
