import PhaseBench.Double.Basic
import PhaseBench.Table.Basic

/-!
# Summaries

A summary replaces every series of samples by its mean. The sum of the samples is
exact; it is rounded once to a number and divided by the rounded count.
-/

namespace PhaseBench

/-- The exact sum of the samples. -/
def total (samples : List Nat) : Nat := samples.foldr (· + ·) 0

/-- The arithmetic mean of the samples, not a number when there are none. -/
def mean (samples : List Nat) : Double :=
  Double.ofNat (total samples) / Double.ofNat samples.length

/-- The samples of a matrix run. -/
abbrev SampleTable := Table (List Nat)

/-- The means of a matrix run. -/
abbrev SummaryTable := Table Double

/-- Replaces every series by its mean. -/
def SampleTable.summarize (table : SampleTable) : SummaryTable := table.map mean

end PhaseBench
