import PhaseBench.Host.Task
import PhaseBench.Host.Utility.Quoting

/-!
# Arguments of programs

Options are single letters behind a dash or long names behind two, which may be
shortened as long as they stay unique. They may stand anywhere among the operands,
up to an argument of two dashes; some programs take them only before the operands.
-/

namespace PhaseBench.Host

/-- An option of a program. -/
structure ProgramOption where
  letter : Char
  name : String
  takesValue : Bool := false

/-- The arguments of a program: options with their values, and operands. -/
structure Arguments where
  options : List (Char × Octets) := []
  operands : List Octets := []

namespace Arguments

/-- Holds when an option was given. -/
def has (arguments : Arguments) (letter : Char) : Bool :=
  arguments.options.any (·.1 == letter)

/-- Adds an option. -/
def withOption (arguments : Arguments) (letter : Char) (value : Octets) : Arguments :=
  { arguments with options := arguments.options ++ [(letter, value)] }

/-- Reads the letters of an argument; the last one may take its value from the next
argument. -/
def readLetters (known : List ProgramOption) :
    Arguments → Octets → List Octets → Except String (Arguments × List Octets)
  | arguments, [], rest => .ok (arguments, rest)
  | arguments, letter :: letters, rest =>
    match known.find? (·.letter == letter) with
    | none => .error ("invalid option -- \x27" ++ String.singleton letter ++ "\x27")
    | some option =>
      if !option.takesValue then readLetters known (arguments.withOption letter []) letters rest
      else if !letters.isEmpty then .ok (arguments.withOption letter letters, rest)
      else
        match rest with
        | value :: rest => .ok (arguments.withOption letter value, rest)
        | [] => .error ("option requires an argument -- \x27" ++ String.singleton letter ++ "\x27")

/-- Reads a long name, which may bring its value along behind an equals sign. -/
def readName (known : List ProgramOption) (arguments : Arguments) (text : Octets)
    (rest : List Octets) : Except String (Arguments × List Octets) :=
  let name := text.takeWhile (· != '=')
  let value? := match text.dropWhile (· != '=') with
    | _ :: value => some value
    | [] => none
  let shown (name : String) : String := "\x27--" ++ name ++ "\x27"
  let fitting := known.filter fun option => name.isPrefixOf option.name.toList
  let exact := fitting.filter fun option => option.name.toList == name
  match (if exact.isEmpty then fitting else exact) with
  | [] => .error ("unrecognized option " ++ shown (String.ofList text))
  | [option] =>
    match option.takesValue, value? with
    | false, none => .ok (arguments.withOption option.letter [], rest)
    | false, some _ => .error ("option " ++ shown option.name ++ " doesn\x27t allow an argument")
    | true, some value => .ok (arguments.withOption option.letter value, rest)
    | true, none =>
      match rest with
      | value :: rest => .ok (arguments.withOption option.letter value, rest)
      | [] => .error ("option " ++ shown option.name ++ " requires an argument")
  | several =>
    .error ("option " ++ shown (String.ofList text) ++ " is ambiguous; possibilities:" ++
      String.join (several.map fun option => " " ++ shown option.name))

/-- Reads arguments behind those that were read before. -/
def readFrom (known : List ProgramOption) (anywhere : Bool) :
    Nat → Arguments → List Octets → Except String Arguments
  | 0, arguments, _ => .ok arguments
  | _ + 1, arguments, [] => .ok arguments
  | fuel + 1, arguments, argument :: rest =>
    match argument with
    | ['-', '-'] => .ok { arguments with operands := arguments.operands ++ rest }
    | '-' :: '-' :: text =>
      match readName known arguments text rest with
      | .ok (arguments, rest) => readFrom known anywhere fuel arguments rest
      | .error message => .error message
    | '-' :: letter :: letters =>
      match readLetters known arguments (letter :: letters) rest with
      | .ok (arguments, rest) => readFrom known anywhere fuel arguments rest
      | .error message => .error message
    | operand =>
      if !anywhere then .ok { arguments with operands := operand :: rest }
      else readFrom known anywhere fuel { arguments with operands := arguments.operands ++ [operand] } rest

/-- Reads the arguments of a program that takes options anywhere. -/
def read (known : List ProgramOption) (arguments : List Octets) : Except String Arguments :=
  readFrom known true (arguments.length + 1) {} arguments

/-- Reads the arguments of a program that takes options only before operands. -/
def readInOrder (known : List ProgramOption) (arguments : List Octets) :
    Except String Arguments :=
  readFrom known false (arguments.length + 1) {} arguments

end Arguments

namespace Act

/-- Writes a message of a program. -/
def complain (program : Octets) (message : Octets) : Act Unit :=
  tell 2 (program ++ ": ".toList ++ message ++ ['\n'])

/-- Ends a program that was used wrongly. -/
def misuse (program : Octets) (message : Octets) : Act Nat := do
  tell 2 (program ++ ": ".toList ++ message ++ "\nTry \x27".toList ++ program ++
    " --help\x27 for more information.\n".toList)
  return 1

/-- Writes to standard output and, where that fails, says so. -/
def print (program : Octets) (octets : Octets) : Act Bool := do
  match ← write 1 octets with
  | .ok () => return true
  | .error error =>
    complain program (Octets.ofText ("write error: " ++ error.description.1))
    return false

end Act

end PhaseBench.Host
