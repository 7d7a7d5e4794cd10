import PhaseBench.Host.Utility.Format
import PhaseBench.Host.Utility.Options

/-!
# Small programs

The programs `echo`, `printf`, `sleep` and `yes`.
-/

namespace PhaseBench.Host

/-- The program `echo`. -/
def echoProgram (program : Octets) (arguments : List Octets) : Act Nat := do
  let good ← Act.print program (echo .program arguments)
  return if good then 0 else 1

/-- Writes texts and the messages behind them. -/
def Act.printAll (program : Octets) : List (Octets × Octets) → Act Unit
  | [] => return
  | (output, message) :: rest => do
    Act.tell 1 output
    Act.complain program message
    printAll program rest

/-- The program `printf`. -/
def printfProgram (program : Octets) (arguments : List Octets) : Act Nat := do
  let arguments := match arguments with
    | ['-', '-'] :: rest => rest
    | all => all
  match arguments with
  | [] => Act.misuse program "missing operand".toList
  | format :: arguments =>
    let printed := printf .program format arguments
    Act.printAll program printed.messages
    let good ← Act.print program printed.output
    return if good then printed.code else 1

/-- The nanoseconds of an argument of `sleep`: a number with a unit. Nothing inside stands
for a time without end. -/
def sleepTime? (argument : Octets) : Option (Option Nat) :=
  match Real.read? argument with
  | some (false, magnitude, rest) =>
    let unit? : Option Nat := match rest with
      | [] => some 1
      | ['s'] => some 1
      | ['m'] => some 60
      | ['h'] => some 3600
      | ['d'] => some 86400
      | _ => none
    match magnitude, unit? with
    | .finite n d, some unit => some (some (unit * n * 1000000000 / d))
    | .infinite, some _ => some none
    | _, _ => none
  | _ => none

/-- The program `sleep`. -/
def sleep (program : Octets) (arguments : List Octets) : Act Nat := do
  match Arguments.read [] arguments with
  | .error message => Act.misuse program message.toList
  | .ok arguments =>
    let wrong := arguments.operands.filter fun operand => (sleepTime? operand).isNone
    match wrong, arguments.operands with
    | _, [] => Act.misuse program "missing operand".toList
    | [], operands =>
      let times := operands.filterMap sleepTime?
      if times.any (·.isNone) then Act.hang
      else
        Act.ask (.pass (times.foldr (fun time sum => time.getD 0 + sum) 0))
        return 0
    | wrong, _ =>
      Act.misuse program (Octets.intercalate ('\n' :: program ++ ": ".toList)
        (wrong.map fun operand => "invalid time interval ".toList ++ quotedText operand))

/-- Writes the same bytes again and again. -/
def repeatBytes (program : Octets) (bytes : ByteArray) : Nat → Act Nat
  | 0 => Act.hang
  | fuel + 1 => do
    match ← Act.writeBytes 1 (bytes.size + 1) bytes with
    | .ok () =>
      Act.ask (.pass 10000)
      repeatBytes program bytes fuel
    | .error error =>
      Act.complain program (Octets.ofText ("standard output: " ++ error.description.1))
      return 1

/-- The program `yes`. -/
def yes (fuel : Nat) (program : Octets) (arguments : List Octets) : Act Nat := do
  match Arguments.readInOrder [] arguments with
  | .error message => Act.misuse program message.toList
  | .ok arguments =>
    let words := if arguments.operands.isEmpty then [['y']] else arguments.operands
    let line := Octets.intercalate [' '] words ++ ['\n']
    let times := max 1 (8192 / line.length)
    repeatBytes program (Octets.toBytes (List.replicate times line).flatten) fuel

end PhaseBench.Host
