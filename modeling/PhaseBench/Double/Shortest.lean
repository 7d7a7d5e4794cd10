import PhaseBench.Double.Basic
import PhaseBench.Text.Column

/-!
# Shortest decimal text

A coordinate is written with the fewest digits that read back as the same number.
A decimal reads back when it lies between the halfway points to the neighbouring
magnitudes, the ends included when the index is even. For one digit after the
other, the two decimals around the exact value are tried; the nearer one that
reads back is taken, and the greater one when both are equally near.

All quantities are multiples of 10^-400 units: fine enough for the last digit of
the smallest magnitude.
-/

namespace PhaseBench.Double

/-- The number of decimal places that all quantities are scaled by. -/
def fineness : Nat := 400

/-- What a unit is scaled to. -/
def scale : Nat := Nat.pow 10 fineness

/-- A decimal: `digits * 10 ^ (place - fineness)`. -/
structure Decimal where
  digits : Nat
  place : Nat
deriving DecidableEq

/-- Holds when `n` scaled units, doubled, lie within the halfway points of an index. -/
def readsBack (index n : Nat) : Bool :=
  let low := (units (index - 1) + units index) * scale
  let high := (units index + units (index + 1)) * scale
  let doubled := 2 * n
  if index % 2 = 0 then low ≤ doubled && doubled ≤ high
  else low < doubled && doubled < high

/-- The decimal on the grid of a place that reads back as an index, if one of the two
around the exact value does. -/
def decimalAt? (index place : Nat) : Option Decimal :=
  let exact := units index * scale
  let step := Nat.pow 10 place * one
  let below := exact / step
  let okBelow := readsBack index (below * step)
  let okAbove := readsBack index ((below + 1) * step)
  let nearBelow := 2 * (exact - below * step) < step
  if okBelow && (nearBelow || !okAbove) then some ⟨below, place⟩
  else if okAbove then some ⟨below + 1, place⟩
  else none

/-- Tries the grid of a place and then the finer ones. The last grid is fine enough. -/
def searchDecimal (index : Nat) : Nat → Decimal
  | 0 => ⟨units index * scale / one, 0⟩
  | place + 1 =>
    match decimalAt? index (place + 1) with
    | some decimal => decimal
    | none => searchDecimal index place

/-- The shortest decimal that reads back as an index: the search begins at the place of
the leading digit of the exact value, one place above it for a decimal that rounds up
to a power of ten. -/
def shortest (index : Nat) : Decimal :=
  searchDecimal index (Nat.toDigits 10 (units index * scale / one)).length

/-- Drops the zeros at the end of a fraction. -/
def trimZeros (digits : List Char) : List Char :=
  (digits.reverse.dropWhile (· == '0')).reverse

/-- A decimal in positional notation, without a fraction when it is whole. -/
def Decimal.text (decimal : Decimal) : String :=
  let scaled := decimal.digits * Nat.pow 10 decimal.place
  let fraction := Nat.toDigits 10 (scaled % scale)
  let padded := List.replicate (fineness - fraction.length) '0' ++ fraction
  match trimZeros padded with
  | [] => Text.decimal (scaled / scale)
  | places => Text.decimal (scaled / scale) ++ "." ++ String.ofList places

/-- The shortest text of a number that reads back as it. -/
def text : Double → String
  | .finite negative index => (if negative then "-" else "") ++ (shortest index).text
  | .infinite negative => if negative then "-inf" else "inf"
  | .nan => "NaN"

end PhaseBench.Double
