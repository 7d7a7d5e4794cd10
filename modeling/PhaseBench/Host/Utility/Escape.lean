import PhaseBench.Host.Octets

/-!
# Backslash escapes

The escapes that `echo` and `printf` know. A shell has these commands built in and
knows fewer escapes than the programs of the same name; `\c` ends the output.
-/

namespace PhaseBench.Host

/-- Who reads an escape. -/
inductive Dialect
  /-- A command built into the shell. -/
  | shell
  /-- A program of its own. -/
  | program
deriving DecidableEq

/-- Octets, and whether and why nothing is to be written behind them. -/
structure Resolved where
  octets : Octets
  stopped : Bool := false
  /-- What is said about an escape that cannot be read. -/
  fault? : Option Octets := none

namespace Escape

/-- Where escapes are read. -/
inductive Place
  /-- The operands of `echo`. -/
  | operands
  /-- The format of `printf`. -/
  | format
  /-- An argument of `printf`. -/
  | argument
deriving DecidableEq

/-- What an escape stands for, and what is left behind it. -/
inductive Meaning
  | octets (octets rest : Octets)
  /-- The output ends. -/
  | stop
  | fault (message : Octets)

/-- The escapes of one letter. -/
def letter? (c : Char) : Option Char :=
  match c with
  | 'a' => some '\x07'
  | 'b' => some '\x08'
  | 'f' => some '\x0c'
  | 'n' => some '\n'
  | 'r' => some '\r'
  | 't' => some '\t'
  | 'v' => some '\x0b'
  | '\\' => some '\\'
  | 'e' => some '\x1b'
  | _ => none

/-- Up to `count` octal digits as one octet. -/
def octal (count : Nat) (text : Octets) : Char × Octets :=
  let digits := (text.take count).takeWhile Octets.isOctal
  (Char.ofNat (Octets.octalValue digits % 256), text.drop digits.length)

/-- Holds for the hexadecimal digits. -/
def isHex (c : Char) : Bool :=
  c.isDigit || ('a' ≤ c && c ≤ 'f') || ('A' ≤ c && c ≤ 'F')

/-- The number of hexadecimal digits. -/
def hexValue (digits : Octets) : Nat :=
  digits.foldl (fun n c =>
    16 * n + (if c.isDigit then c.toNat - 48 else if 'a' ≤ c then c.toNat - 87 else c.toNat - 55)) 0

/-- A character given by the number of its code in a number of digits. Characters of the
basic set cannot be given so, apart from three of them; the others are shown by their
number. -/
def universal (letter : Char) (width : Nat) (text : Octets) : Meaning :=
  let digits := (text.take width).takeWhile isHex
  let code := hexValue digits
  let shown (width : Nat) : Octets :=
    let upper := (Nat.toDigits 16 code).map Char.toUpper
    List.replicate (width - upper.length) '0' ++ upper
  if digits.length < width then .fault "missing hexadecimal number in escape".toList
  else if code = 0x24 || code = 0x40 || code = 0x60 then
    .octets [Char.ofNat code] (text.drop width)
  else if code ≤ 0x9f || (0xd800 ≤ code && code ≤ 0xdfff) then
    .fault ("invalid universal character name \\".toList ++ letter :: digits.map Char.toLower)
  else if code < 0x10000 then .octets ('\\' :: 'u' :: shown 4) (text.drop width)
  else .octets ('\\' :: 'U' :: shown 8) (text.drop width)

/-- The escapes that only the programs know, behind their first letter. -/
def readFurther (place : Place) (c : Char) (rest : Octets) : Meaning :=
  let digits := (rest.take 2).takeWhile isHex
  if c == 'x' && !digits.isEmpty then
    .octets [Char.ofNat (hexValue digits)] (rest.drop digits.length)
  else if place = .operands then .octets ['\\', c] rest
  else
    match c with
    | 'x' => .fault "missing hexadecimal number in escape".toList
    | '"' => .octets ['"'] rest
    | 'u' => universal c 4 rest
    | 'U' => universal c 8 rest
    | _ => .octets ['\\', c] rest

/-- Reads an escape behind its backslash. Octal escapes begin with a zero, as in `echo`, or
need none, as in the format of `printf`. -/
def read (dialect : Dialect) (place : Place) : Octets → Meaning
  | [] => .octets ['\\'] []
  | c :: rest =>
    if c == 'c' && (place ≠ .format || dialect = .program) then .stop
    else
      match letter? c with
      | some octet => .octets [octet] rest
      | none =>
        if Octets.isOctal c then
          let (octet, rest) := octal 3 (if c == '0' && place ≠ .format then rest else c :: rest)
          .octets [octet] rest
        else
          match dialect with
          | .shell => .octets ['\\'] (c :: rest)
          | .program => readFurther place c rest

/-- Resolves the escapes of a text, what was written before being in reverse. -/
def resolveFrom (dialect : Dialect) (place : Place) : Nat → Octets → Octets → Resolved
  | 0, done, _ => ⟨done.reverse, false, none⟩
  | _ + 1, done, [] => ⟨done.reverse, false, none⟩
  | fuel + 1, done, '\\' :: rest =>
    match read dialect place rest with
    | .octets octets rest => resolveFrom dialect place fuel (octets.reverse ++ done) rest
    | .stop => ⟨done.reverse, true, none⟩
    | .fault message => ⟨done.reverse, true, some message⟩
  | fuel + 1, done, c :: rest => resolveFrom dialect place fuel (c :: done) rest

/-- Resolves the escapes of a text. -/
def resolve (dialect : Dialect) (place : Place) (text : Octets) : Resolved :=
  resolveFrom dialect place (text.length + 1) [] text

end Escape

/-- The output of `echo`. -/
def echo (dialect : Dialect) (arguments : List Octets) : Octets :=
  let line (escapes newline : Bool) (arguments : List Octets) : Octets :=
    let text := Octets.intercalate [' '] arguments
    if escapes then
      let resolved := Escape.resolve dialect .operands text
      if resolved.stopped || !newline then resolved.octets else resolved.octets ++ ['\n']
    else if newline then text ++ ['\n'] else text
  match dialect with
  | .shell =>
    match arguments with
    | ['-', 'n'] :: rest => line true false rest
    | all => line true true all
  | .program =>
    let isOption (argument : Octets) : Bool :=
      match argument with
      | '-' :: letters => !letters.isEmpty && letters.all fun c => c == 'n' || c == 'e' || c == 'E'
      | _ => false
    let letters := (arguments.takeWhile isOption).flatten
    let escapes := (letters.filter fun c => c == 'e' || c == 'E').getLast? == some 'e'
    line escapes (!letters.contains 'n') (arguments.dropWhile isOption)

end PhaseBench.Host
