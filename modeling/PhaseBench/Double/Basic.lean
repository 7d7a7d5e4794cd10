/-!
# Binary64 numbers

A finite magnitude of the format is a whole number of units of 2^-1074. The
magnitudes are numbered from zero upwards in increasing order (`units`), which
is also how the format lays them out in bits, so the number of a magnitude
(its *index*) decides order, equality and parity at once.

Every operation is the exact rational result followed by one rounding,
`nearestIndex`, which takes the nearest magnitude and the even index on a tie.
-/

namespace PhaseBench

/-- Divides and takes the nearest whole number, the even one on a tie. -/
def divHalfEven (num den : Nat) : Nat :=
  let q := num / den
  let r := num % den
  if 2 * r < den then q
  else if den < 2 * r then q + 1
  else if q % 2 = 0 then q
  else q + 1

namespace Double

/-- The index that stands for infinity: one more than the greatest finite one. -/
def infinityIndex : Nat := 0x7FF0000000000000

end Double

/-- A binary64 number. All not-a-numbers are one value. -/
inductive Double
  | finite (negative : Bool) (index : Fin Double.infinityIndex)
  | infinite (negative : Bool)
  | nan
deriving DecidableEq

namespace Double

/-! ## Magnitudes -/

/-- The number of magnitudes from a power of two up to the next one. -/
def binade : Nat := Nat.pow 2 52

/-- The magnitude of an index, in units of 2^-1074. -/
def units (index : Nat) : Nat :=
  if index < binade then index
  else (binade + index % binade) * Nat.pow 2 (index / binade - 1)

/-- The number of units in one. -/
def one : Nat := Nat.pow 2 1074

/-- The index of the magnitude nearest to `num / den` units, the even index on a
tie. Numbers beyond the greatest finite magnitude give `infinityIndex` or more. -/
def nearestIndex (num den : Nat) : Nat :=
  let shift := (num / den).log2 - 52
  shift * binade + divHalfEven num (den * Nat.pow 2 shift)

/-- The number of a sign and an index, infinity when the index is too great. -/
def ofIndex (negative : Bool) (index : Nat) : Double :=
  if h : index < infinityIndex then .finite negative ⟨index, h⟩ else .infinite negative

/-- The number of a sign nearest to `num / den` units. -/
def nearest (negative : Bool) (num den : Nat) : Double :=
  ofIndex negative (nearestIndex num den)

/-- The number nearest to a natural number. -/
def ofNat (n : Nat) : Double := nearest false (n * one) 1

/-- The number nearest to a fraction. -/
def ofRatio (num den : Nat) : Double := nearest false (num * one) den

/-- Positive zero. -/
def zero : Double := ofIndex false 0

/-! ## Bits -/

/-- The bit of a negative sign. -/
def signBit : Nat := Nat.pow 2 63

/-- The number with the given bits. -/
def ofBits (bits : Nat) : Double :=
  let negative := signBit ≤ bits
  let index := bits % signBit
  if infinityIndex < index then .nan else ofIndex negative index

/-- The bits of a number, nothing for a not-a-number. -/
def bits? : Double → Option Nat
  | .finite negative index => some ((if negative then signBit else 0) + index)
  | .infinite negative => some ((if negative then signBit else 0) + infinityIndex)
  | .nan => none

/-! ## Arithmetic -/

/-- The number with the opposite sign. -/
def neg : Double → Double
  | .finite negative index => .finite (!negative) index
  | .infinite negative => .infinite (!negative)
  | .nan => .nan

/-- The rounded sum. A sum that is exactly zero is negative only when both terms are. -/
def add : Double → Double → Double
  | .nan, _ => .nan
  | _, .nan => .nan
  | .infinite a, .infinite b => if a = b then .infinite a else .nan
  | .infinite a, .finite _ _ => .infinite a
  | .finite _ _, .infinite b => .infinite b
  | .finite a i, .finite b j =>
    let x := units i
    let y := units j
    if a = b then nearest a (x + y) 1
    else if y < x then nearest a (x - y) 1
    else if x < y then nearest b (y - x) 1
    else zero

/-- The rounded difference. -/
def sub (x y : Double) : Double := add x y.neg

/-- The rounded product. -/
def mul : Double → Double → Double
  | .nan, _ => .nan
  | _, .nan => .nan
  | .infinite a, .infinite b => .infinite (a != b)
  | .infinite a, .finite b j => if j.val = 0 then .nan else .infinite (a != b)
  | .finite a i, .infinite b => if i.val = 0 then .nan else .infinite (a != b)
  | .finite a i, .finite b j => nearest (a != b) (units i * units j) one

/-- The rounded quotient. -/
def div : Double → Double → Double
  | .nan, _ => .nan
  | _, .nan => .nan
  | .infinite _, .infinite _ => .nan
  | .infinite a, .finite b _ => .infinite (a != b)
  | .finite a _, .infinite b => ofIndex (a != b) 0
  | .finite a i, .finite b j =>
    if j.val = 0 then if i.val = 0 then .nan else .infinite (a != b)
    else nearest (a != b) (units i * one) (units j)

instance : Neg Double := ⟨neg⟩
instance : Add Double := ⟨add⟩
instance : Sub Double := ⟨sub⟩
instance : Mul Double := ⟨mul⟩
instance : Div Double := ⟨div⟩

/-! ## Order -/

/-- The place of a number in the order of the format, the same for both zeros;
nothing for a not-a-number. -/
def rank? : Double → Option Int
  | .finite negative index => some (if negative then -(index.val : Int) else index.val)
  | .infinite negative =>
    some (if negative then -(infinityIndex : Int) else infinityIndex)
  | .nan => none

/-- Strictly less, false when a not-a-number is compared. -/
def lt (x y : Double) : Bool :=
  match x.rank?, y.rank? with
  | some a, some b => a < b
  | _, _ => false

/-- Less or equal, false when a not-a-number is compared. -/
def le (x y : Double) : Bool :=
  match x.rank?, y.rank? with
  | some a, some b => a ≤ b
  | _, _ => false

/-- The greater of two numbers; a not-a-number gives way to the other one. -/
def max (x y : Double) : Double :=
  match x, y with
  | .nan, y => y
  | x, .nan => x
  | x, y => if x.lt y then y else x

/-! ## Whole numbers -/

/-- The nearest whole number, a half going away from zero, brought into the range
from zero up: numbers below it and not-a-numbers give zero, and those beyond the
finite ones have no nearest whole number. -/
def roundToNat? : Double → Option Nat
  | .finite false index => some ((2 * units index + one) / (2 * one))
  | .finite true _ => some 0
  | .infinite true => some 0
  | .infinite false => none
  | .nan => some 0

end Double

end PhaseBench
