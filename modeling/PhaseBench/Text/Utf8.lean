/-!
# Reading bytes as text

Captured output is bytes and need not be well-formed UTF-8. `decodeLossy` reads
the well-formed characters and puts one replacement character in the place of
each maximal ill-formed part: the longest piece that begins some character, or a
single byte that begins none.
-/

namespace PhaseBench.Text

/-- The character that stands for an ill-formed part. -/
def replacement : Char := '\uFFFD'

/-- Holds for the bytes that continue a character. -/
def isContinuation (b : UInt8) : Bool := 0x80 ≤ b && b ≤ 0xBF

/-- Holds for the bytes that may follow `lead` in a character of three bytes. -/
def secondOfThree (lead b : UInt8) : Bool :=
  if lead = 0xE0 then 0xA0 ≤ b && b ≤ 0xBF
  else if lead = 0xED then 0x80 ≤ b && b ≤ 0x9F
  else isContinuation b

/-- Holds for the bytes that may follow `lead` in a character of four bytes. -/
def secondOfFour (lead b : UInt8) : Bool :=
  if lead = 0xF0 then 0x90 ≤ b && b ≤ 0xBF
  else if lead = 0xF4 then 0x80 ≤ b && b ≤ 0x8F
  else isContinuation b

/-- The low six bits of a continuation byte. -/
def payload (b : UInt8) : Nat := b.toNat % 64

/-- The characters of a byte sequence, each maximal ill-formed part replaced. -/
def decodeLossy : List UInt8 → List Char
  | [] => []
  | a :: rest =>
    if a < 0x80 then
      Char.ofNat a.toNat :: decodeLossy rest
    else if 0xC2 ≤ a && a ≤ 0xDF then
      match rest with
      | b :: rest₂ =>
        if isContinuation b then
          Char.ofNat (a.toNat % 32 * 64 + payload b) :: decodeLossy rest₂
        else replacement :: decodeLossy (b :: rest₂)
      | [] => [replacement]
    else if 0xE0 ≤ a && a ≤ 0xEF then
      match rest with
      | b :: c :: rest₃ =>
        if !secondOfThree a b then replacement :: decodeLossy (b :: c :: rest₃)
        else if isContinuation c then
          Char.ofNat ((a.toNat % 16 * 64 + payload b) * 64 + payload c) :: decodeLossy rest₃
        else replacement :: decodeLossy (c :: rest₃)
      | [b] =>
        if secondOfThree a b then [replacement] else replacement :: decodeLossy [b]
      | [] => [replacement]
    else if 0xF0 ≤ a && a ≤ 0xF4 then
      match rest with
      | b :: c :: d :: rest₄ =>
        if !secondOfFour a b then replacement :: decodeLossy (b :: c :: d :: rest₄)
        else if !isContinuation c then replacement :: decodeLossy (c :: d :: rest₄)
        else if isContinuation d then
          Char.ofNat (((a.toNat % 8 * 64 + payload b) * 64 + payload c) * 64 + payload d)
            :: decodeLossy rest₄
        else replacement :: decodeLossy (d :: rest₄)
      | [b, c] =>
        if !secondOfFour a b then replacement :: decodeLossy [b, c]
        else if isContinuation c then [replacement]
        else replacement :: decodeLossy [c]
      | [b] =>
        if secondOfFour a b then [replacement] else replacement :: decodeLossy [b]
      | [] => [replacement]
    else
      replacement :: decodeLossy rest
termination_by bytes => bytes.length

/-- The text of a byte sequence, each maximal ill-formed part replaced. -/
def textOfBytes (bytes : ByteArray) : String :=
  match String.fromUTF8? bytes with
  | some text => text
  | none => String.ofList (decodeLossy bytes.toList)

end PhaseBench.Text
