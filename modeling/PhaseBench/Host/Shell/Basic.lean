import PhaseBench.Host.Script.Grammar
import PhaseBench.Host.Task

/-!
# Shells

A `Shell` is what a shell knows besides what the kernel keeps for it. A part of a run
of a shell is a `Run`: it asks the kernel, changes the shell, and either goes on or
breaks off with a `Flow`.
-/

namespace PhaseBench.Host

/-- A variable. It may be marked before it has a value. -/
structure Variable where
  value : Option Octets := none
  exported : Bool := false
  /-- It must not be changed. -/
  isFixed : Bool := false

/-- The variables by name. -/
abbrev Bindings := List (Octets × Variable)

/-- The processes of a command, with their endings as far as they are known. -/
structure Job where
  processes : List (Nat × Option Ending) := []
  /-- Somebody has asked for its ending. -/
  waited : Bool := false

namespace Job

/-- Holds when all processes have ended. -/
def isDone (job : Job) : Bool := job.processes.all (·.2.isSome)

/-- The exit code of an ending, as a shell sees it. -/
def statusOf : Ending → Nat
  | .exit code => code
  | .signal number _ => 128 + number

/-- The exit code of a job: that of its last process. -/
def status (job : Job) : Nat :=
  match job.processes.getLast? with
  | some (_, some ending) => statusOf ending
  | _ => 0

end Job

/-- What belongs to one shell process. -/
structure Shell where
  bindings : Bindings := []
  /-- The name by which the shell was started. -/
  name : Octets := []
  positional : List Octets := []
  functions : List (Octets × Script) := []
  aliases : List (Octets × Octets) := []
  /-- The programs that have been looked for and found, the last one first. -/
  tracked : List Octets := []
  /-- What is run on a signal; zero stands for the end of the shell. -/
  traps : List (Nat × Octets) := []
  /-- The signals that were ignored when the shell was started, and stay so. -/
  deaf : List Nat := []
  /-- The letters of the options that are set. -/
  options : List Char := []
  /-- The number of the process that the script is run by. -/
  process : Nat := 0
  /-- The working directory, as it was gone to. -/
  directory : Octets := []
  /-- The jobs by number, from one on. -/
  jobs : List (Option Job) := []
  lastBackground : Option Nat := none
  /-- The permissions that new files lack. -/
  mask : Nat := 18
  /-- The exit code of the last command. -/
  status : Nat := 0
  /-- The exit code of the last command substitution of the current command. -/
  substitution : Nat := 0
  /-- The exit code with which the shell is about to end, or the one before a signal. -/
  savedStatus : Option Nat := none
  /-- The number of loops around the current command. -/
  loops : Nat := 0
  /-- The number of functions around the current command. -/
  calls : Nat := 0
  /-- The line of the current command. -/
  line : Nat := 1
  /-- The built-in command that messages are about. -/
  command : Option Octets := none
  /-- The bindings that come back at the end of the functions around the current command. -/
  locals : List (List (Octets × Option Variable)) := []
  /-- The descriptors that come back at the end of the redirections around the current
  command: where each was kept, if it was open. -/
  kept : List (List (Nat × Option Nat)) := []
  /-- The texts of the script that redirections lead to, by number. -/
  texts : List (Nat × Word) := []
  nextText : Nat := 0
  /-- The argument that `getopts` reads next, and the place inside the one before. -/
  optionIndex : Nat := 1
  optionPlace : Option Nat := none

/-- Why the next command is not run. -/
inductive Flow
  /-- The shell is to end. -/
  | exit
  /-- The shell is to end, the exit code being that of the last command. -/
  | over
  /-- Something is wrong. The shell ends unless a built-in command of no special kind was
  at fault. -/
  | failure
  /-- Some loops are left. -/
  | leave (levels : Nat)
  /-- Some loops are left and the next one goes on with its next round. -/
  | again (levels : Nat)
  /-- A function or a script file is left. -/
  | back
deriving DecidableEq

/-- A part of a run of a shell. -/
abbrev Run := ExceptT Flow (StateT Shell Act)

/-- How a command is run. -/
structure Mode where
  /-- It may fail without ending the shell. -/
  tested : Bool := false
  /-- The shell ends behind it. -/
  last : Bool := false

/-- What the parts of a shell need of the whole. -/
structure Engine where
  /-- Runs a command and gives its exit code. -/
  eval : Mode → Script → Run Nat
  /-- The task of a program with its name, its arguments, the first being what it is called,
  and the variables that it sees. -/
  image : String → List Octets → Bindings → Task
  /-- A bound on repetitions. -/
  fuel : Nat

namespace Run

/-- Asks the kernel for something. -/
def ask (request : Request) : Run request.Reply :=
  ExceptT.lift (StateT.lift (Act.ask request))

/-- Does an act that does not concern the shell. -/
def act {α : Type} (act : Act α) : Run α := ExceptT.lift (StateT.lift act)

/-- Goes on with a task of another program. -/
def replace {α : Type} (task : Task) : Run α := act fun _ => task

/-- Sets the exit code of the last command. -/
def setStatus (status : Nat) : Run Unit := modify fun shell => { shell with status }

/-- Runs something and tells how it broke off, if it did. -/
def attempt {α : Type} (run : Run α) : Run (Except Flow α) :=
  tryCatch (do return .ok (← run)) fun flow => return .error flow

/-- Goes on as an attempt ended. -/
def resume {α : Type} : Except Flow α → Run α
  | .ok value => return value
  | .error flow => throw flow

/-- Writes a message of the shell about the current line. -/
def warn (message : Octets) : Run Unit := do
  let shell ← get
  let about := match shell.command with
    | some command => command ++ ": ".toList
    | none => []
  act (Act.tell 2 (shell.name ++ ": ".toList ++ Octets.ofNat shell.line ++ ": ".toList ++ about ++
    message ++ ['\n']))

/-- Breaks off with a message of the shell. -/
def fail {α : Type} (message : Octets) : Run α := do
  setStatus 2
  warn message
  throw .failure

/-- Breaks off because a text is no number. -/
def badNumber {α : Type} (text : Octets) : Run α := fail ("Illegal number: ".toList ++ text)

/-- The number of a text, which must not be negative. -/
def number (text : Octets) : Run Nat := do
  match Octets.toInt? text with
  | some n => if 0 ≤ n && n < 2147483648 then return n.toNat else badNumber text
  | none => badNumber text

end Run

/-! ## Variables -/

namespace Shell

/-- A variable by name. -/
def binding? (shell : Shell) (name : Octets) : Option Variable :=
  (shell.bindings.find? (·.1 == name)).map (·.2)

/-- The value of a variable. -/
def value? (shell : Shell) (name : Octets) : Option Octets :=
  (shell.binding? name).bind (·.value)

/-- Holds for an option that is set. -/
def has (shell : Shell) (option : Char) : Bool := shell.options.contains option

/-- Puts a variable in the place of the one of its name. -/
def bind (shell : Shell) (name : Octets) (entry : Variable) : Shell :=
  { shell with bindings := (name, entry) :: shell.bindings.filter (·.1 != name) }

/-- Takes away a variable. -/
def unbind (shell : Shell) (name : Octets) : Shell :=
  { shell with bindings := shell.bindings.filter (·.1 != name) }

/-- The variables that programs see. -/
def environment (shell : Shell) : Bindings :=
  shell.bindings.filter fun entry => entry.2.exported && entry.2.value.isSome

/-- The characters that separate fields. -/
def separators (shell : Shell) : Octets := (shell.value? "IFS".toList).getD [' ', '\t', '\n']

/-- The options by name and letter, in the order in which they are shown. -/
def optionNames : List (String × Char) :=
  [("errexit", 'e'), ("noglob", 'f'), ("ignoreeof", 'I'), ("interactive", 'i'), ("monitor", 'm'),
    ("noexec", 'n'), ("stdin", 's'), ("xtrace", 'x'), ("verbose", 'v'), ("vi", 'V'),
    ("emacs", 'E'), ("noclobber", 'C'), ("allexport", 'a'), ("notify", 'b'), ("nounset", 'u'),
    ("privileged", 'p')]

/-- The letters of options. -/
def optionLetters : List Char := optionNames.map (·.2)

/-- The value of a parameter, all positional ones apart. -/
def parameter? (shell : Shell) (name : Octets) : Option Octets :=
  match name with
  | ['#'] => some (Octets.ofNat shell.positional.length)
  | ['?'] => some (Octets.ofNat shell.status)
  | ['$'] => some (Octets.ofNat shell.process)
  | ['!'] => shell.lastBackground.map Octets.ofNat
  | ['-'] => some (optionLetters.filter shell.has)
  | name =>
    match Octets.toNat? name with
    | some 0 => some shell.name
    | some n => shell.positional[n - 1]?
    | none => shell.value? name

end Shell

namespace Run

/-- Gives a variable a value, unless it must not be changed. -/
def assign (name value : Octets) : Run Unit := do
  let shell ← get
  let before := (shell.binding? name).getD {}
  if before.isFixed then fail (name ++ ": is read only".toList)
  else
    set (shell.bind name { before with
      value := some value, exported := before.exported || shell.has 'a' })
    if name == "OPTIND".toList then
      modify fun shell => { shell with
        optionIndex := max 1 ((Octets.toNat? value).getD 1), optionPlace := none }

/-- Takes away a variable, unless it must not be changed. -/
def unset (name : Octets) : Run Unit := do
  let shell ← get
  if ((shell.binding? name).getD {}).isFixed then fail (name ++ ": is read only".toList)
  else set (shell.unbind name)

/-- Remembers a variable, which comes back at the end of the innermost function. -/
def remember (name : Octets) : Run Unit :=
  modify fun shell =>
    match shell.locals with
    | frame :: outer =>
      if frame.any (·.1 == name) then shell
      else { shell with locals := ((name, shell.binding? name) :: frame) :: outer }
    | [] => shell

/-- Runs something and then brings back the variables that were remembered meanwhile. -/
def withLocals {α : Type} (run : Run α) : Run α := do
  modify fun shell => { shell with locals := [] :: shell.locals }
  let result ← attempt run
  modify fun shell =>
    match shell.locals with
    | frame :: outer =>
      let shell := frame.foldl (fun shell (name, entry?) =>
        match entry? with
        | some entry => shell.bind name entry
        | none => shell.unbind name) shell
      { shell with locals := outer }
    | [] => shell
  resume result

end Run

end PhaseBench.Host
