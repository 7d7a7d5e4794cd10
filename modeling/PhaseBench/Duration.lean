import PhaseBench.Text.Column

/-!
# Durations

A duration is a number of nanoseconds. Its text is in the greatest unit that
makes it at least one, with as many decimal places as it needs.
-/

namespace PhaseBench

/-- A length of time in nanoseconds. -/
structure Duration where
  nanoseconds : Nat
deriving DecidableEq

namespace Duration

/-- A whole number of seconds. -/
def ofSeconds (n : Nat) : Duration := ⟨n * 1000000000⟩

/-- A part of a unit that has `10 ^ places` parts, as decimal places without zeros at the
end, and nothing when there is no part. -/
def fractionText (places part : Nat) : String :=
  let digits := Nat.toDigits 10 part
  let padded := List.replicate (places - digits.length) '0' ++ digits
  match (padded.reverse.dropWhile (· == '0')).reverse with
  | [] => ""
  | kept => "." ++ String.ofList kept

/-- A number of nanoseconds in a unit of `10 ^ places` nanoseconds. -/
def inUnit (n places : Nat) (unit : String) : String :=
  Text.decimal (n / Nat.pow 10 places) ++ fractionText places (n % Nat.pow 10 places) ++ unit

/-- The text of a duration. -/
def text (duration : Duration) : String :=
  let n := duration.nanoseconds
  if 1000000000 ≤ n then inUnit n 9 "s"
  else if 1000000 ≤ n then inUnit n 6 "ms"
  else if 1000 ≤ n then inUnit n 3 "µs"
  else Text.decimal n ++ "ns"

end Duration

end PhaseBench
