import PhaseBench.Metric
import PhaseBench.Text.DecimalDigit
import PhaseBench.Word

/-!
# Reports

The benchmarked program reports a phase by the words `<label> took <n>ms`. A
*match* of a phase at a position is its label, ` took `, a maximal run of decimal
digits that is not empty, and `ms`. The leftmost match alone decides the reading:
its digits when they are ASCII and the number fits in 64 bits, and otherwise the
value of a phase that was not reported.
-/

namespace PhaseBench

namespace Report

/-- The reading of a phase that is not reported, or not legibly. -/
def missing : Nat := 0

/-- Readings lie below this bound. -/
def limit : Nat := Word.count

/-- What follows a given beginning of a text. -/
def after? : List Char → List Char → Option (List Char)
  | [], text => some text
  | _ :: _, [] => none
  | a :: start, b :: text => if a = b then after? start text else none

/-- The words between the beginning of a report and its digits. -/
def opening (metric : Metric) : List Char := (metric.label ++ " took ").toList

/-- The digits of the report of a phase that begins here. -/
def digitsHere? (metric : Metric) (text : List Char) : Option (List Char) :=
  match after? (opening metric) text with
  | none => none
  | some rest =>
    let digits := rest.takeWhile Text.isDecimalDigit
    match after? ['m', 's'] (rest.dropWhile Text.isDecimalDigit) with
    | none => none
    | some _ => if digits.isEmpty then none else some digits

/-- The digits of the leftmost report of a phase. -/
def digits? (metric : Metric) : List Char → Option (List Char)
  | [] => none
  | c :: text =>
    match digitsHere? metric (c :: text) with
    | some digits => some digits
    | none => digits? metric text

/-- The value of a digit string: a number below `limit` in ASCII digits. -/
def valueOf (digits : List Char) : Nat :=
  match Text.decimalValue? digits with
  | some n => if n < limit then n else missing
  | none => missing

/-- The reading of one phase. -/
def reading (text : List Char) (metric : Metric) : Nat :=
  match digits? metric text with
  | some digits => valueOf digits
  | none => missing

/-- The readings of all phases in the output of a run. -/
def extract (output : String) : PerMetric Nat :=
  PerMetric.ofFn (reading output.toList)

/-- The readings recorded for a run that failed. -/
def failed : PerMetric Nat := PerMetric.ofFn fun _ => missing

end Report

end PhaseBench
