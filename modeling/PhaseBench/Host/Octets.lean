import PhaseBench.Text.Utf8

/-!
# Octet strings

Processes pass bytes to each other, not characters. An octet string is a list of
characters below U+0100, each standing for the byte of its number, so that bytes
can be compared with character literals.
-/

namespace PhaseBench.Host

/-- Bytes, each written as the character of its number. -/
abbrev Octets := List Char

namespace Octets

/-- The octets of a byte array. -/
def ofBytes (bytes : ByteArray) : Octets := bytes.toList.map fun b => Char.ofNat b.toNat

/-- The byte array of octets. -/
def toBytes (octets : Octets) : ByteArray :=
  octets.foldl (fun bytes c => bytes.push c.toNat.toUInt8) ByteArray.empty

/-- The octets of a text in UTF-8. -/
def ofText (text : String) : Octets := ofBytes text.toUTF8

/-- The text that octets are the UTF-8 form of. -/
def toText (octets : Octets) : String := Text.textOfBytes octets.toBytes

/-- The decimal numeral of a number. -/
def ofNat (n : Nat) : Octets := Nat.toDigits 10 n

/-- The decimal numeral of an integer. -/
def ofInt : Int → Octets
  | .ofNat n => ofNat n
  | .negSucc n => '-' :: ofNat (n + 1)

/-- The number of octal digits. -/
def octalValue (digits : Octets) : Nat :=
  digits.foldl (fun n c => 8 * n + (c.toNat - 48)) 0

/-- Holds for the octal digits. -/
def isOctal (c : Char) : Bool := '0' ≤ c && c ≤ '7'

/-- Holds for blanks and line breaks. -/
def isSpace (c : Char) : Bool := c == ' ' || (9 ≤ c.toNat && c.toNat ≤ 13)

/-- An optional sign and decimal digits, blanks around them left out. -/
def toInt? (octets : Octets) : Option Int :=
  let trimmed := ((octets.dropWhile isSpace).reverse.dropWhile isSpace).reverse
  let (negative, digits) := match trimmed with
    | '-' :: rest => (true, rest)
    | '+' :: rest => (false, rest)
    | all => (false, all)
  if digits.isEmpty || !digits.all Char.isDigit then none
  else
    let n : Int := digits.foldl (fun n c => 10 * n + (c.toNat - 48)) (0 : Nat)
    some (if negative then -n else n)

/-- Decimal digits. -/
def toNat? (octets : Octets) : Option Nat :=
  if octets.isEmpty || !octets.all Char.isDigit then none
  else some (octets.foldl (fun n c => 10 * n + (c.toNat - 48)) 0)

/-- Joins octet strings with a separator between them. -/
def intercalate (separator : Octets) (parts : List Octets) : Octets :=
  (parts.intersperse separator).flatten

end Octets

end PhaseBench.Host
