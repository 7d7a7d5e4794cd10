import PhaseBench.Host.Utility.Escape

/-!
# Real numbers in text

Numerals with a point and an exponent, decimal or hexadecimal, are read as exact
fractions, rounded to a number of binary digits where a machine would, and written
with a number of decimal places or digits.
-/

namespace PhaseBench.Host

/-- A number that is not negative, as far as it is one. -/
inductive Magnitude
  | finite (numerator denominator : Nat)
  | infinite
  | notNumber

namespace Real

/-- The power of two beyond which every number counts as infinite or zero. -/
def beyond : Nat := Nat.pow 2 20000

/-- A number times a power of a base. One that is out of all reach is replaced by another
such number. -/
def scale (base : Nat) (n : Nat) (exponent : Int) : Magnitude :=
  if n = 0 then .finite 0 1
  else if exponent.natAbs > 20000 then
    if exponent < 0 then .finite 1 beyond else .finite beyond 1
  else if exponent < 0 then .finite n (Nat.pow base exponent.natAbs)
  else .finite (n * Nat.pow base exponent.natAbs) 1

/-- Reads an exponent behind one of two letters, if there is one. -/
def readExponent (letter : Char) (text : Octets) : Int × Octets :=
  match text with
  | c :: rest =>
    if c.toLower != letter then (0, text)
    else
      let (negative, digits) := match rest with
        | '-' :: rest => (true, rest)
        | '+' :: rest => (false, rest)
        | rest => (false, rest)
      match Octets.toNat? (digits.takeWhile Char.isDigit) with
      | none => (0, text)
      | some n => (if negative then -(n : Int) else n, digits.dropWhile Char.isDigit)
  | [] => (0, text)

/-- Reads a numeral with a point in a base, given what its digits are, their number and what
an exponent counts. -/
def readNumeral (isDigit : Char → Bool) (value : Octets → Nat) (base perPlace : Nat)
    (exponentBase : Nat) (letter : Char) (text : Octets) : Option (Magnitude × Octets) :=
  let whole := text.takeWhile isDigit
  let behind := text.drop whole.length
  let (places, rest) := match behind with
    | '.' :: more => (more.takeWhile isDigit, more.dropWhile isDigit)
    | rest => ([], rest)
  if whole.isEmpty && places.isEmpty then none
  else
    let (exponent, rest) := readExponent letter rest
    let n := value (whole ++ places)
    let magnitude :=
      if base = exponentBase then scale base n (exponent - places.length)
      else scale exponentBase n (exponent - (perPlace * places.length : Nat))
    some (magnitude, rest)

/-- Reads a number: its sign, its magnitude and what stands behind it. -/
def read? (text : Octets) : Option (Bool × Magnitude × Octets) :=
  let text := text.dropWhile Octets.isSpace
  let (negative, text) := match text with
    | '-' :: rest => (true, rest)
    | '+' :: rest => (false, rest)
    | rest => (false, rest)
  let starts (word : String) : Bool := word.toList.isPrefixOf (text.map Char.toLower)
  let decimal (digits : Octets) : Nat := (Octets.toNat? digits).getD 0
  if starts "infinity" then some (negative, .infinite, text.drop 8)
  else if starts "inf" then some (negative, .infinite, text.drop 3)
  else if starts "nan" then
    let rest := text.drop 3
    let behind := (rest.drop 1).dropWhile fun c => c.isAlphanum || c == '_'
    some (negative, .notNumber, if rest.head? == some '(' && behind.head? == some ')' then
      behind.drop 1 else rest)
  else
    let hex? := if starts "0x" then
        readNumeral Escape.isHex Escape.hexValue 16 4 2 'p' (text.drop 2)
      else none
    match hex? with
    | some (magnitude, rest) => some (negative, magnitude, rest)
    | none =>
      (readNumeral Char.isDigit decimal 10 1 10 'e' text).map fun (magnitude, rest) =>
        (negative, magnitude, rest)

/-- The quotient of two numbers, a half going to the even neighbour. -/
def roundDiv (n d : Nat) : Nat :=
  let quotient := n / d
  let twice := 2 * (n % d)
  if twice < d || (twice = d && quotient % 2 = 0) then quotient else quotient + 1

/-- How numbers are held: the binary digits of one, and the power of two that none reaches. -/
structure Precision where
  bits : Nat
  reach : Nat

/-- The precision of a double. -/
def Precision.double : Precision := ⟨53, 1024⟩

/-- The precision of an extended double. -/
def Precision.extended : Precision := ⟨64, 16384⟩

/-- A fraction times a power of two. -/
def timesPower (n d : Nat) (exponent : Int) : Nat × Nat :=
  if exponent < 0 then (n, d * Nat.pow 2 exponent.natAbs)
  else (n * Nat.pow 2 exponent.natAbs, d)

/-- The greatest exponent of a power of two that is not above a fraction. -/
def binaryExponent (n d : Nat) : Int :=
  let guess := (Nat.log2 n : Int) - Nat.log2 d
  let (n, d) := timesPower n d (-guess)
  if d ≤ n then guess else guess - 1

/-- A fraction as it is held, and whether it is out of range: too large, or so small that
digits are lost. -/
def round (precision : Precision) (n d : Nat) : Magnitude × Bool :=
  if n = 0 then (.finite 0 1, false)
  else
    let places := (precision.bits : Int) - 1 - binaryExponent n d
    let most : Int := precision.reach + precision.bits - 3
    let (n, d) := timesPower n d (min places most)
    let mantissa := roundDiv n d
    let (held, scale) := timesPower mantissa 1 (-(min places most))
    if Nat.pow 2 precision.reach * scale ≤ held then (.infinite, true)
    else (.finite held scale, most < places && mantissa * d ≠ n)

/-- A fraction with a number of decimal places. -/
def fixed (places n d : Nat) (point : Bool) : Octets :=
  let digits := Octets.ofNat (roundDiv (n * Nat.pow 10 places) d)
  let digits := List.replicate (places + 1 - digits.length) '0' ++ digits
  let whole := digits.take (digits.length - places)
  if places = 0 then whole ++ (if point then ['.'] else [])
  else whole ++ '.' :: digits.drop (digits.length - places)

/-- The digits and the exponent of a fraction in a number of digits. -/
def scientificDigits (places n d : Nat) : Octets × Int :=
  if n = 0 then (List.replicate (places + 1) '0', 0)
  else
    let guess : Int := ((Octets.ofNat n).length : Int) - (Octets.ofNat d).length
    let scaled (exponent : Int) : Nat :=
      let shift := (places : Int) - exponent
      if shift < 0 then roundDiv n (d * Nat.pow 10 shift.natAbs)
      else roundDiv (n * Nat.pow 10 shift.natAbs) d
    let atLeast (exponent : Int) : Bool :=
      if exponent < 0 then d ≤ n * Nat.pow 10 exponent.natAbs
      else d * Nat.pow 10 exponent.natAbs ≤ n
    let exponent := if atLeast guess then guess else guess - 1
    let digits := Octets.ofNat (scaled exponent)
    if digits.length > places + 1 then (digits.take (places + 1), exponent + 1)
    else (digits, exponent)

/-- A fraction with an exponent. -/
def scientific (places n d : Nat) (point : Bool) (letter : Char) : Octets :=
  let (digits, exponent) := scientificDigits places n d
  let power := Octets.ofNat exponent.natAbs
  let power := List.replicate (2 - power.length) '0' ++ power
  digits.take 1 ++ (if places = 0 then (if point then ['.'] else []) else '.' :: digits.drop 1) ++
    [letter, if exponent < 0 then '-' else '+'] ++ power

/-- A text without the zeros behind its point, and without a point that stands at its end. -/
def withoutZeros (text : Octets) : Octets :=
  if text.contains '.' then
    let kept := text.reverse.dropWhile (· == '0')
    (match kept with
      | '.' :: rest => rest
      | rest => rest).reverse
  else text

/-- A fraction in a number of digits, with an exponent only where it is far from one. -/
def general (digits n d : Nat) (keepZeros : Bool) (letter : Char) : Octets :=
  let digits := max digits 1
  let (_, exponent) := scientificDigits (digits - 1) n d
  if -4 ≤ exponent && exponent < digits then
    let text := fixed ((digits : Int) - 1 - exponent).toNat n d keepZeros
    if keepZeros then text else withoutZeros text
  else
    let text := scientific (digits - 1) n d keepZeros letter
    if keepZeros then text
    else
      let mantissa := text.takeWhile (· != letter)
      withoutZeros mantissa ++ text.drop mantissa.length

/-- A fraction that is held exactly in hexadecimal digits with an exponent of two, all of
them where no number of places is given. -/
def hexadecimal (precision : Precision) (places? : Option Nat) (n d : Nat) (point upper : Bool) :
    Octets :=
  let held := (precision.bits - 1) / 4
  let least : Int := 2 - (precision.reach : Int)
  let exponent := if n = 0 then 0 else max least (binaryExponent n d)
  let (n, d) := timesPower n d ((precision.bits : Int) - 1 - exponent)
  let spare : Int := (precision.bits - 1 - 4 * held : Nat)
  let exponent := if n = 0 then 0 else exponent - spare
  let places := min (places?.getD held) held
  let rounded := roundDiv (n / d) (Nat.pow 16 (held - places))
  let unit := Nat.pow 16 places
  let (leading, exponent) := if rounded / unit = 16 then (1, exponent + 4)
    else (rounded / unit, exponent)
  let digits := if places = 0 then [] else Nat.toDigits 16 (rounded % unit)
  let digits := List.replicate (places - digits.length) '0' ++ digits
  let digits := match places? with
    | none => (digits.reverse.dropWhile (· == '0')).reverse
    | some places => digits ++ List.replicate (places - digits.length) '0'
  let text := Nat.toDigits 16 leading ++ (if digits.isEmpty && !point then [] else '.' :: digits) ++
    ['p', if exponent < 0 then '-' else '+'] ++ Octets.ofNat exponent.natAbs
  if upper then text.map Char.toUpper else text

end Real

end PhaseBench.Host
