import PhaseBench.Host.Utility.Quoting
import PhaseBench.Host.Utility.Real
import PhaseBench.Word

/-!
# Formatted output

The command `printf`: a format with conversions, which is used again as long as
arguments are left. What is wrong with an argument is said where it is met; a program
writes first what it has by then, a shell writes everything at the end.
-/

namespace PhaseBench.Host

namespace Format

/-- A width or a precision: given, or taken from the next argument. -/
inductive Size
  | given (size : Nat)
  | taken

/-- A conversion: flags, least width, precision and letter. -/
structure Conversion where
  flags : Octets
  width : Nat
  precision : Option Nat
  letter : Char

/-- A conversion as the format writes it. -/
structure Written where
  flags : Octets
  width : Size
  precision : Option Size
  letter : Char

/-- An element of a format. -/
inductive Element
  | text (octets : Octets)
  | stop
  | conversion (conversion : Written)
  /-- A conversion that is none, with the message about it. -/
  | broken (conversion : Written) (message : Octets)
  /-- An escape that is none, with the message about it. -/
  | fault (message : Octets)

/-- Reads a width or a precision. -/
def readSize : Octets → Size × Octets
  | '*' :: rest => (.taken, rest)
  | text =>
    (.given ((Octets.toNat? (text.takeWhile Char.isDigit)).getD 0), text.dropWhile Char.isDigit)

/-- Holds for the flags that a conversion may have. -/
def isFlag (dialect : Dialect) (c : Char) : Bool :=
  "-+ #0".toList.contains c || (dialect = .program && (c == 'I' || c == '\x27'))

/-- Holds for a letter that can end a conversion. A program refuses the combinations that
mean nothing. -/
def admits (dialect : Dialect) (flags : Octets) (precise : Bool) (letter : Char) : Bool :=
  match dialect with
  | .shell => "diouxXcsbaAeEfFgG".toList.contains letter
  | .program =>
    let refused (flag : Char) : String :=
      match flag with
      | 'I' | '\x27' => "aAceEosxX"
      | '#' => "cdisu"
      | '0' => "cs"
      | _ => ""
    "aAcdeEfFgGiosuxX".toList.contains letter && !(precise && letter == 'c') &&
      flags.all fun flag => !(refused flag).toList.contains letter

/-- Reads a conversion behind its percent sign, to the element and what is left. -/
def readConversion (dialect : Dialect) (text : Octets) : Element × Octets :=
  let flags := text.takeWhile (isFlag dialect)
  let (width, rest) := readSize (text.dropWhile (isFlag dialect))
  let (precision, rest) := match rest with
    | '.' :: rest =>
      let (size, rest) := readSize rest
      (some size, rest)
    | rest => (none, rest)
  let rest := match dialect with
    | .shell => rest
    | .program => rest.dropWhile "lLhjtz".toList.contains
  let letter := rest.head?.getD ' '
  let conversion : Written := ⟨flags, width, precision, letter⟩
  let source := '%' :: text.take (text.length - rest.tail.length)
  if admits dialect flags precision.isSome letter then (.conversion conversion, rest.tail)
  else
    let message := match dialect with
      | .program => source ++ ": invalid conversion specification".toList
      | .shell =>
        if rest.isEmpty then "missing format character".toList
        else source ++ ": invalid directive".toList
    (.broken conversion message, rest.tail)

/-- The conversions that a program knows only without flags and sizes: of text with escapes,
and of text that a shell is to read. -/
def plain? (dialect : Dialect) (text : Octets) : Option (Element × Octets) :=
  match dialect, text with
  | .program, 'b' :: rest => some (.conversion ⟨[], .given 0, none, 'b'⟩, rest)
  | .program, 'q' :: rest => some (.conversion ⟨[], .given 0, none, 'q'⟩, rest)
  | _, _ => none

/-- Cuts a format into its elements. -/
def elements (dialect : Dialect) : Nat → Octets → List Element
  | 0, _ => []
  | _ + 1, [] => []
  | fuel + 1, '%' :: '%' :: rest => .text ['%'] :: elements dialect fuel rest
  | fuel + 1, '%' :: rest =>
    let (element, rest) := (plain? dialect rest).getD (readConversion dialect rest)
    element :: elements dialect fuel rest
  | fuel + 1, '\\' :: rest =>
    match Escape.read dialect .format rest with
    | .octets octets rest => .text octets :: elements dialect fuel rest
    | .stop => [.stop]
    | .fault message => [.fault message]
  | fuel + 1, c :: rest => .text [c] :: elements dialect fuel rest

/-- Puts a text into a field. -/
def field (conversion : Conversion) (text : Octets) : Octets :=
  let gap := List.replicate (conversion.width - text.length) ' '
  if conversion.flags.contains '-' then text ++ gap else gap ++ text

/-- The digits of a number in the base of a conversion. -/
def digits (letter : Char) (n : Nat) : Octets :=
  match letter with
  | 'o' => Nat.toDigits 8 n
  | 'x' => Nat.toDigits 16 n
  | 'X' => (Nat.toDigits 16 n).map Char.toUpper
  | _ => Nat.toDigits 10 n

/-- Puts a sign and digits into a field, with zeros between them where that is asked for. -/
def signedField (conversion : Conversion) (zeros : Bool) (sign digits : Octets) : Octets :=
  if zeros && conversion.flags.contains '0' && !conversion.flags.contains '-' then
    sign ++ List.replicate (conversion.width - sign.length - digits.length) '0' ++ digits
  else field conversion (sign ++ digits)

/-- The sign of a number. -/
def signOf (conversion : Conversion) (negative : Bool) : Octets :=
  if negative then ['-']
  else if conversion.flags.contains '+' then ['+']
  else if conversion.flags.contains ' ' then [' ']
  else []

/-- Puts an integer into a field. -/
def numberField (conversion : Conversion) (n : Int) : Octets :=
  let letter := conversion.letter
  let shown := digits letter n.natAbs
  let shown := if n = 0 && conversion.precision = some 0 then [] else shown
  let shown := match conversion.precision with
    | some p => List.replicate (p - shown.length) '0' ++ shown
    | none => shown
  let alternative := conversion.flags.contains '#'
  let shown := if letter == 'o' && alternative && shown.head? != some '0' then '0' :: shown
    else shown
  let sign :=
    if letter == 'd' || letter == 'i' then signOf conversion (n < 0)
    else if alternative && n ≠ 0 && (letter == 'x' || letter == 'X') then ['0', letter]
    else []
  signedField conversion conversion.precision.isNone sign shown

/-- The precision in which real numbers are held. -/
def precisionOf : Dialect → Real.Precision
  | .shell => .double
  | .program => .extended

/-- Puts a real number into a field. -/
def realField (dialect : Dialect) (conversion : Conversion) (negative : Bool)
    (magnitude : Magnitude) : Octets :=
  let upper := conversion.letter.isUpper
  let cased (text : String) : Octets := if upper then text.toList.map Char.toUpper else text.toList
  let sign := signOf conversion negative
  let places := conversion.precision.getD 6
  let point := conversion.flags.contains '#'
  let exponentLetter := if upper then 'E' else 'e'
  match magnitude with
  | .infinite => field conversion (sign ++ cased "inf")
  | .notNumber => field conversion (sign ++ cased "nan")
  | .finite n d =>
    match conversion.letter.toLower with
    | 'a' =>
      signedField conversion true (sign ++ cased "0x")
        (Real.hexadecimal (precisionOf dialect) conversion.precision n d point upper)
    | 'f' => signedField conversion true sign (Real.fixed places n d point)
    | 'e' => signedField conversion true sign (Real.scientific places n d point exponentLetter)
    | _ => signedField conversion true sign (Real.general places n d point exponentLetter)

/-- How well an argument could be read as a number. -/
inductive Legibility
  | whole
  | none
  | part
  | outOfRange
  /-- A character with something behind it. -/
  | ignoring (rest : Octets)

/-- How well an argument could be read of which a part is left. A number that is out of range
comes before a rest for a program, behind it for a shell. -/
def legibility (dialect : Dialect) (argument rest : Octets) (outOfRange : Bool) : Legibility :=
  if outOfRange && (dialect = .program || rest.isEmpty) then .outOfRange
  else if rest.isEmpty then .whole
  else if rest.length = argument.length then .none
  else .part

/-- The code of a character that an argument gives behind a quote. A quote alone gives zero
in a shell, and means nothing to a program. -/
def characterCode? (dialect : Dialect) (argument : Octets) : Option (Nat × Legibility) :=
  match argument with
  | quote :: text =>
    if quote != '\x27' && quote != '"' then none
    else
      match dialect, text with
      | .shell, [] => some (0, .whole)
      | .shell, c :: _ => some (c.toNat, .whole)
      | .program, [] => none
      | .program, [c] => some (c.toNat, .whole)
      | .program, c :: rest => some (c.toNat, .ignoring rest)
  | [] => none

/-- The integer that an argument gives, and how well it could be read. -/
def integer (dialect : Dialect) (signed : Bool) (argument : Octets) : Int × Legibility :=
  let half := Int.ofNat Word.half
  let count := Int.ofNat Word.count
  match characterCode? dialect argument with
  | some (code, legibility) => (code, legibility)
  | none =>
    let (negative, text) := match argument.dropWhile Octets.isSpace with
      | '-' :: rest => (true, rest)
      | '+' :: rest => (false, rest)
      | rest => (false, rest)
    let hex := match text with
      | '0' :: x :: rest => (x == 'x' || x == 'X') && (rest.head?.map Escape.isHex).getD false
      | _ => false
    let (digits, value) :=
      if hex then
        let digits := (text.drop 2).takeWhile Escape.isHex
        (text.take (digits.length + 2), Escape.hexValue digits)
      else if text.head? == some '0' then
        let digits := text.takeWhile Octets.isOctal
        (digits, Octets.octalValue digits)
      else
        let digits := text.takeWhile Char.isDigit
        (digits, (Octets.toNat? digits).getD 0)
    let rest := if digits.isEmpty then argument else text.drop digits.length
    let number : Int := if negative then -(value : Int) else value
    let bounded := if signed then max (-half) (min number (half - 1))
      else if count ≤ number.natAbs then count - 1
      else number % count
    let outOfRange := if signed then bounded != number else count ≤ number.natAbs
    (bounded, legibility dialect argument rest outOfRange)

/-- The real number that an argument gives, rounded as numbers are held, and how well it
could be read. -/
def real (dialect : Dialect) (argument : Octets) : Bool × Magnitude × Legibility :=
  match characterCode? dialect argument with
  | some (code, legibility) => (false, .finite code 1, legibility)
  | none =>
    match Real.read? argument with
    | none => (false, .finite 0 1, legibility dialect argument argument false)
    | some (negative, .finite n d, rest) =>
      let (magnitude, outOfRange) := Real.round (precisionOf dialect) n d
      (negative, magnitude, legibility dialect argument rest outOfRange)
    | some (negative, magnitude, rest) =>
      (negative, magnitude, legibility dialect argument rest false)

/-- What is said about an argument that is no number. -/
def complaint? (dialect : Dialect) (argument : Octets) (legibility : Legibility) :
    Option Octets :=
  let shown := match dialect with
    | .shell => argument
    | .program => quotedText argument
  let said (shell program : String) : Option Octets :=
    some (shown ++ ": ".toList ++ (if dialect = .shell then shell else program).toList)
  match legibility with
  | .whole => none
  | .none => said "expected numeric value" "expected a numeric value"
  | .part => said "not completely converted" "value not completely converted"
  | .outOfRange => said "Numerical result out of range" "Numerical result out of range"
  | .ignoring rest =>
    some ("warning: ".toList ++ rest ++
      ": character(s) following character constant have been ignored".toList)

/-- Holds if an argument that could be read so makes the command fail. -/
def Legibility.fails : Legibility → Bool
  | .whole => false
  | .ignoring _ => false
  | _ => true

/-- What has been written so far, and how the command fares. -/
structure Progress where
  /-- What was written since the last message. -/
  output : Octets := []
  /-- The messages, the last one first, each with what was written before it. -/
  messages : List (Octets × Octets) := []
  stopped : Bool := false
  /-- An argument was no number. -/
  failed : Bool := false
  /-- The format holds a conversion or an escape that is none. -/
  broken : Bool := false
  /-- The arguments that are left. -/
  arguments : List Octets
  /-- Some conversion took an argument. -/
  consumed : Bool := false

namespace Progress

/-- Takes the next argument, an empty one when none is left. -/
def take (progress : Progress) : Octets × Progress :=
  (progress.arguments.head?.getD [],
    { progress with arguments := progress.arguments.tail, consumed := !progress.arguments.isEmpty
        || progress.consumed })

/-- Adds output. -/
def write (progress : Progress) (octets : Octets) : Progress :=
  { progress with output := progress.output ++ octets }

/-- Says something about what was written. -/
def say (progress : Progress) (message : Octets) : Progress :=
  { progress with output := [], messages := (progress.output, message) :: progress.messages }

/-- Notes how well an argument could be read. -/
def note (dialect : Dialect) (progress : Progress) (argument : Octets)
    (legibility : Legibility) : Progress :=
  match complaint? dialect argument legibility with
  | none => progress
  | some message =>
    { progress.say message with failed := progress.failed || legibility.fails }

/-- Gives up. -/
def fail (progress : Progress) (message : Octets) : Progress :=
  { progress.say message with stopped := true, broken := true }

/-- The number that a size stands for, which has to fit into a short word: a shell cuts it
off, a program gives up. -/
def size (dialect : Dialect) (progress : Progress) (kind : String) : Size → Int × Progress
  | .given size => (size, progress)
  | .taken =>
    let (argument, progress) := progress.take
    let (value, legibility) := integer dialect true argument
    let progress := progress.note dialect argument legibility
    let short := Int.bmod value 4294967296
    match dialect with
    | .shell => (short, progress)
    | .program =>
      if short = value || (value < 0 && kind == "precision") then (value, progress)
      else (0, progress.fail (("invalid " ++ kind ++ ": ").toList ++ quotedText argument))

/-- The conversion with its sizes taken from the arguments. A negative width asks for the
left side, a negative precision for none. -/
def settle (dialect : Dialect) (progress : Progress) (written : Written) :
    Conversion × Progress :=
  let (width, progress) := progress.size dialect "field width" written.width
  let (precision, progress) := match written.precision with
    | none => (none, progress)
    | some size =>
      let (value, progress) := progress.size dialect "precision" size
      (if value < 0 then none else some value.toNat, progress)
  let flags := if width < 0 then '-' :: written.flags else written.flags
  (⟨flags, width.natAbs, precision, written.letter⟩, progress)

end Progress

/-- Writes one element. -/
def writeElement (dialect : Dialect) (progress : Progress) (element : Element) : Progress :=
  if progress.stopped then progress
  else
    match element with
    | .text octets => progress.write octets
    | .stop => { progress with stopped := true }
    | .fault message => progress.fail message
    | .broken written message =>
      let (_, progress) := progress.settle dialect written
      if progress.broken then progress else progress.fail message
    | .conversion written =>
      let (conversion, progress) := progress.settle dialect written
      let present := !progress.arguments.isEmpty
      let (argument, progress) := progress.take
      if progress.broken then progress
      else match conversion.letter with
      | 's' =>
        let text := match conversion.precision with
          | some p => argument.take p
          | none => argument
        progress.write (field conversion text)
      | 'c' => progress.write (field conversion [argument.head?.getD '\x00'])
      | 'b' =>
        let resolved := Escape.resolve dialect .argument argument
        let text := match conversion.precision with
          | some p => resolved.octets.take p
          | none => resolved.octets
        let progress := { progress.write (field conversion text) with stopped := resolved.stopped }
        match resolved.fault? with
        | none => progress
        | some message => progress.fail message
      | 'q' => progress.write (if present then shownName argument else [])
      | letter =>
        if "aAeEfFgG".toList.contains letter then
          let (negative, magnitude, legibility) := real dialect argument
          (progress.note dialect argument legibility).write
            (realField dialect conversion negative magnitude)
        else
          let (value, legibility) := integer dialect (letter == 'd' || letter == 'i') argument
          (progress.note dialect argument legibility).write (numberField conversion value)

/-- Uses a format until no argument is left. -/
def writeAll (dialect : Dialect) (elements : List Element) : Nat → Progress → Progress
  | 0, progress => progress
  | fuel + 1, progress =>
    let progress := elements.foldl (writeElement dialect) { progress with consumed := false }
    if progress.stopped || !progress.consumed || progress.arguments.isEmpty then progress
    else writeAll dialect elements fuel progress

end Format

/-- What `printf` writes, what it says, and how it ends. -/
structure Printed where
  /-- The messages, each with what was written before it. -/
  messages : List (Octets × Octets)
  /-- What was written behind the last message. -/
  output : Octets
  code : Nat
  /-- The format or the use of the command was wrong. -/
  broken : Bool

/-- The outcome of `printf` with a format and arguments. -/
def printf (dialect : Dialect) (format : Octets) (arguments : List Octets) : Printed :=
  let elements := Format.elements dialect (format.length + 1) format
  let progress := Format.writeAll dialect elements (arguments.length + 1) { arguments }
  let progress := match dialect, progress.stopped, progress.arguments with
    | .program, false, argument :: _ => progress.say
      ("warning: ignoring excess arguments, starting with ".toList ++ quotedText argument)
    | _, _, _ => progress
  { messages := progress.messages.reverse
    output := progress.output
    code := if progress.broken then (if dialect = .shell then 2 else 1)
      else if progress.failed && !(dialect = .program && progress.stopped) then 1 else 0
    broken := progress.broken }

end PhaseBench.Host
