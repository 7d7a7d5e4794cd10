import PhaseBench.Settings.Basic

/-!
# Reading the command line

The command line names a command and its options. An option takes its value from
the same argument (`--runs=3`, `-n3`, `-n=3`) or from the next one. A value in
the next argument is looked at only when the following known option, or the end
of the command line, is reached; so an argument that nothing knows is reported
before a value that is wrong.
-/

namespace PhaseBench

namespace Settings

/-- The options that take a value. -/
inductive Key
  | dir
  | features
  | runs
  | command
  | timeout
  | onFailure
  | svgDir
deriving DecidableEq

/-- The options that take none. -/
inductive Switch
  | svg
  | noWait
  | help
deriving DecidableEq

/-- The options by their long names. -/
def longName? : String → Option (Key ⊕ Switch)
  | "dir" => some (.inl .dir)
  | "features" => some (.inl .features)
  | "runs" => some (.inl .runs)
  | "command" => some (.inl .command)
  | "timeout" => some (.inl .timeout)
  | "on-failure" => some (.inl .onFailure)
  | "svg-dir" => some (.inl .svgDir)
  | "svg" => some (.inr .svg)
  | "no-wait" => some (.inr .noWait)
  | "help" => some (.inr .help)
  | _ => none

/-- The options by their short names. -/
def shortName? : Char → Option (Key ⊕ Switch)
  | 'f' => some (.inl .features)
  | 'n' => some (.inl .runs)
  | 'h' => some (.inr .help)
  | _ => none

/-! ## Arguments -/

/-- The forms of an argument. -/
inductive Argument
  /-- `--`, behind which nothing is an option. -/
  | terminator
  | long (name : String) (value : Option String)
  /-- A short option with what follows its letter. -/
  | short (letter : Char) (rest : List Char)
  | plain
deriving DecidableEq

/-- The parts of a text before and behind the first equals sign. -/
def splitEquals (cs : List Char) : List Char × Option (List Char) :=
  match cs.dropWhile (· != '=') with
  | [] => (cs, none)
  | _ :: value => (cs.takeWhile (· != '='), some value)

/-- The form of an argument. -/
def Argument.ofText (argument : String) : Argument :=
  match argument.toList with
  | ['-', '-'] => .terminator
  | '-' :: '-' :: rest =>
    let (name, value) := splitEquals rest
    .long (String.ofList name) (value.map String.ofList)
  | '-' :: letter :: rest => .short letter rest
  | _ => .plain

/-- The value that is attached to a short option, an equals sign before it left out. -/
def attached? : List Char → Option String
  | [] => none
  | '=' :: value => some (String.ofList value)
  | value => some (String.ofList value)

/-! ## Values -/

/-- The settings read so far, without those that were not given. -/
structure Draft where
  dir : Option String := none
  features : List String := []
  runs : Option Nat := none
  command : Option String := none
  timeout : Option Nat := none
  onFailure : Option FailurePolicy := none
  svg : Bool := false
  svgDir : Option String := none
  noWait : Bool := false

/-- The settings of a draft, completed by standard values. -/
def Draft.settings (draft : Draft) : Settings :=
  { dir := draft.dir.getD Plan.standardDir
    features := draft.features
    runs := draft.runs.getD Plan.standardRuns
    command := draft.command
    timeout := draft.timeout
    onFailure := draft.onFailure.getD .abort
    svg := draft.svg
    svgDir := draft.svgDir
    noWait := draft.noWait }

/-- A number below 2^64, in digits with or without a plus sign. -/
def number (text : String) : Except UsageError Nat :=
  let digits := match text.toList with
    | '+' :: rest => rest
    | all => all
  if digits.isEmpty then .error .notNumber
  else
    match Text.decimalValue? digits with
    | some n => if n < Word.count then .ok n else .error .notNumber
    | none => .error .notNumber

/-- A path, which must not be empty. -/
def path (text : String) : Except UsageError String :=
  if text = "" then .error .invalidValue else .ok text

/-- A policy by its name. -/
def policy (text : String) : Except UsageError FailurePolicy :=
  if text = "abort" then .ok .abort
  else if text = "zero" then .ok .zero
  else .error .invalidValue

/-- The value of an option that may be given once. -/
def once {α : Type} (previous : Option α) (value : Except UsageError α) :
    Except UsageError (Option α) :=
  match previous with
  | some _ => .error .givenTwice
  | none => value.map some

/-- Gives a value to an option. -/
def Draft.assign (draft : Draft) (key : Key) (value : String) : Except UsageError Draft :=
  match key with
  | .dir => (once draft.dir (path value)).map fun dir => { draft with dir }
  | .features => .ok { draft with features := draft.features ++ [value] }
  | .runs => (once draft.runs (number value)).map fun runs => { draft with runs }
  | .command => (once draft.command (.ok value)).map fun command => { draft with command }
  | .timeout => (once draft.timeout (number value)).map fun timeout => { draft with timeout }
  | .onFailure => (once draft.onFailure (policy value)).map fun onFailure => { draft with onFailure }
  | .svgDir => (once draft.svgDir (path value)).map fun svgDir => { draft with svgDir }

/-- Turns a switch on. -/
def Draft.turnOn (draft : Draft) : Switch → Except UsageError Draft
  | .svg => if draft.svg then .error .givenTwice else .ok { draft with svg := true }
  | .noWait => if draft.noWait then .error .givenTwice else .ok { draft with noWait := true }
  | .help => .error .help

/-! ## Command lines -/

/-- An option whose value stands in an argument of its own, with that value once it was
met. -/
abbrev Pending := Option (Key × Option String)

/-- Gives the pending option its value. -/
def Draft.settle (draft : Draft) : Pending → Except UsageError Draft
  | none => .ok draft
  | some (_, none) => .error .invalidValue
  | some (key, some value) => draft.assign key value

/-- Reads an option with the value attached to it, if there is one. -/
def Draft.meet (draft : Draft) (pending : Pending) (option : Key ⊕ Switch)
    (value : Option String) : Except UsageError (Draft × Pending) :=
  match option, value with
  | .inl key, some value => do
    let draft ← draft.settle pending
    let draft ← draft.assign key value
    return (draft, none)
  | .inl key, none => do
    let draft ← draft.settle pending
    return (draft, some (key, none))
  | .inr _, some _ => .error .valueForSwitch
  | .inr switch, none => do
    let draft ← draft.settle pending
    let draft ← draft.turnOn switch
    return (draft, none)

/-- Reads one argument. -/
def Draft.step (draft : Draft) (pending : Pending) (argument : String) :
    Except UsageError (Draft × Pending) :=
  match Argument.ofText argument with
  | .long name value =>
    match longName? name with
    | some option => draft.meet pending option value
    | none => .error .unknownArgument
  | .short letter rest =>
    match shortName? letter with
    | some (.inl key) => draft.meet pending (.inl key) (attached? rest)
    | some (.inr switch) => draft.meet pending (.inr switch) none
    | none => .error .unknownArgument
  | _ =>
    match pending with
    | some (key, none) => .ok (draft, some (key, some argument))
    | _ => .error .unknownArgument

/-- Reads the arguments behind the name of the command. -/
def readOptions (draft : Draft) (pending : Pending) : List String → Except UsageError Draft
  | [] => draft.settle pending
  | argument :: rest =>
    if argument = "--" then
      if rest.isEmpty then draft.settle pending else .error .unknownArgument
    else
      match draft.step pending argument with
      | .ok (draft, pending) => readOptions draft pending rest
      | .error error => .error error

/-- Reads the arguments behind `help`: a path of commands, below which there are none. -/
def readHelp : List String → UsageError
  | [] => .help
  | ["bench"] => .help
  | ["help"] => .help
  | _ => .unknownCommand

/-- Reads the arguments behind a `--` that stands first, where the name of a command is out
of place and anything else is taken for the name of one. -/
def readTerminated : List String → UsageError
  | [] => .nothingGiven
  | name :: _ => if name = "bench" ∨ name = "help" then .unknownArgument else .unknownCommand

/-- Reads the arguments of the program. -/
def parse : List String → Except UsageError Settings
  | [] => .error .nothingGiven
  | "bench" :: rest => (readOptions {} none rest).map Draft.settings
  | "help" :: rest => .error (readHelp rest)
  | first :: rest =>
    match Argument.ofText first with
    | .terminator => .error (readTerminated rest)
    | .long "help" none => .error .help
    | .long "help" (some _) => .error .valueForSwitch
    | .short 'h' _ => .error .help
    | .plain => .error .unknownCommand
    | _ => .error .unknownArgument

end Settings

end PhaseBench
