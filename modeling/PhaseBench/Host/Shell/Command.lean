import PhaseBench.Host.Shell.Builtin

/-!
# Simple commands

A simple command is run in this order: its words are expanded, then the words of its
redirections; descriptors are redirected; variables are assigned; and then what its
first word stands for is run. Variables that are assigned for a command, other than
one whose failure ends the shell, get back their values behind it.
-/

namespace PhaseBench.Host

/-- A simple command whose words have been expanded. -/
structure Call where
  words : List Octets := []
  meaning? : Option Meaning := none
  /-- A failure ends the shell. -/
  special : Bool := false
  /-- The directories in which a program is looked for, where they are not those of `PATH`. -/
  path? : Option Octets := none

namespace Call

/-- Assigned variables get back their values. -/
def assignsLocally (call : Call) : Bool := call.meaning?.isSome && !call.special

/-- Holds for the command `exec`, whose redirections stay. -/
def isExec (call : Call) : Bool :=
  match call.meaning? with
  | some (.builtin name) => name == "exec"
  | _ => false

end Call

namespace Run

/-! ## Words -/

/-- Expands words until there is another field. -/
def moreFields (engine : Engine) (fields : List Octets) : List Word →
    Run (List Octets × List Word)
  | [] => return (fields, [])
  | word :: words => do
    match ← expandFields (substitute engine) word with
    | [] => moreFields engine fields words
    | more => return (fields ++ more, words)

/-- What stands behind the word `command` and its options: the fields of the command that is
to be run, and whether the standard directories are searched. Nothing is run where there are
other options. -/
def behindCommand (engine : Engine) : Nat → Bool → List Octets → List Word →
    Run (Option (Bool × List Octets) × List Octets × List Word)
  | 0, _, fields, words => return (none, fields, words)
  | fuel + 1, standard, fields, words => do
    let (fields, words) ← if fields.isEmpty then moreFields engine [] words
      else pure (fields, words)
    match fields with
    | [] => return (none, [], words)
    | ['-', '-'] :: rest =>
      let (rest, words) ← if rest.isEmpty then moreFields engine [] words else pure (rest, words)
      if rest.isEmpty then return (none, fields, words)
      else return (some (standard, rest), rest, words)
    | ('-' :: c :: letters) :: rest =>
      if (c :: letters).all (· == 'p') then
        let (found?, more, words) ← behindCommand engine fuel true rest words
        return (found?, ('-' :: c :: letters) :: more, words)
      else return (none, fields, words)
    | fields => return (some (standard, fields), fields, words)

/-- Finds out what the first field stands for, seeing through the word `command`. Without
`outer?` it is the first command; otherwise that tells whether the first one was special. -/
def resolveCall (engine : Engine) : Nat → Option Bool → Option Octets → List Octets →
    List Word → Run (Call × List Word)
  | 0, _, _, words, rest => return ({ words }, rest)
  | fuel + 1, outer?, path?, fields, rest => do
    match fields with
    | [] => return ({}, rest)
    | name :: arguments =>
      let meaning := (← get).meaning outer?.isSome name
      match meaning with
      | .builtin text =>
        let special := outer?.getD (specialCommands.contains text)
        let call : Call := { words := fields, meaning? := some meaning, special, path? }
        if text = "command" then
          let (found?, seen, rest) ← behindCommand engine (rest.length + arguments.length + 1) false
            arguments rest
          match found? with
          | some (standard, fields) =>
            resolveCall engine fuel (some special) (if standard then some standardPath else path?)
              fields rest
          | none => return ({ call with words := name :: seen }, rest)
        else return (call, rest)
      | _ => return ({ words := fields, meaning? := some meaning, path? }, rest)

/-- Holds for the commands whose arguments may be assignments. -/
def takesAssignments (call : Call) : Bool :=
  match call.meaning? with
  | some (.builtin name) => ["export", "readonly", "local", "alias"].contains name
  | _ => false

/-- Expands the words behind the first field of a command. -/
def expandArguments (engine : Engine) (assignments : Bool) : List Word → Run (List Octets)
  | [] => return []
  | word :: words => do
    let assignment? := if assignments then Word.assignment? word else none
    let first ← match assignment? with
      | some (name, value) =>
        pure [name ++ '=' :: (← expandText (substitute engine) true value)]
      | none => expandFields (substitute engine) word
    return first ++ (← expandArguments engine assignments words)

/-- Expands the words of a command. -/
def expandCall (engine : Engine) (words : List Word) : Run Call := do
  let (fields, rest) ← moreFields engine [] words
  let (call, rest) ← resolveCall engine (words.length + fields.length + 1) none none fields rest
  return { call with words := call.words ++ (← expandArguments engine (takesAssignments call) rest) }

/-! ## Assignments -/

/-- Makes the assignments of a command, and gives them as text. -/
def assignAll (engine : Engine) (call : Call) : List (Octets × Word) → Run (List Octets)
  | [] => return []
  | (name, word) :: rest => do
    let value ← expandText (substitute engine) true word
    if call.assignsLocally then remember name
    assign name value
    if call.assignsLocally || (call.isExec && 1 < call.words.length) then
      modify fun shell =>
        shell.bind name { (shell.binding? name).getD {} with exported := true }
    return (name ++ '=' :: value) :: (← assignAll engine call rest)

/-- Shows a command before it is run, if that is asked for, where errors went before its own
redirections. -/
def trace (redirected : Bool) (texts : List Octets) : Run Unit := do
  let shell ← get
  if shell.has 'x' then
    let frame := if redirected then shell.kept.head?.getD [] else []
    let descriptor := ((frame.find? (·.1 == 2)).bind (·.2)).getD 2
    act (Act.tell descriptor
      ((shell.value? "PS4".toList).getD [] ++ Octets.intercalate [' '] texts ++ ['\n']))

/-! ## Functions -/

/-- The number of functions that can be run inside each other. -/
def callLimit : Nat := 1000

/-- Runs a function. -/
def runFunction (engine : Engine) (mode : Mode) (body : Script) (arguments : List Octets) :
    Run Nat := do
  let before ← get
  if callLimit ≤ before.calls then
    fail ("Maximum function recursion depth (".toList ++ Octets.ofNat callLimit ++
      ") reached".toList)
  set { before with
    positional := arguments, loops := 0, calls := before.calls + 1
    optionIndex := 1, optionPlace := none }
  let result ← attempt (engine.eval { tested := mode.tested } body)
  modify fun shell => { shell with
    positional := before.positional, loops := before.loops, calls := before.calls
    optionIndex := before.optionIndex, optionPlace := before.optionPlace }
  match result with
  | .error .back => return (← get).status
  | result => resume result

/-! ## Programs -/

/-- Why a program is not found in the directories of a search path. -/
def searchError (tree : Tree) : OsError → List Octets → Option OsError
  | error, [] => some error
  | error, path :: paths =>
    match tree.resolve path.toText with
    | .ok (_, node) => if node.isRegular then none else searchError tree .noAccess paths
    | .error .noEntry => searchError tree error paths
    | .error .notDirectory => searchError tree error paths
    | .error other => searchError tree other paths

/-- Runs a program as a child, or in the place of the shell when that ends behind it. -/
def runProgram (engine : Engine) (mode : Mode) (path : Octets) (words : List Octets) :
    Run Nat := do
  let name := words.head?.getD []
  let missing? ← if name.contains '/' then pure none
    else pure (searchError (← ask .look) .noEntry (candidates path name))
  match missing? with
  | some error =>
    warn (name ++ ": ".toList ++ (startMessage error).toList)
    return 127
  | none =>
    if !name.contains '/' && !(← get).tracked.contains name then
      modify fun shell => { shell with tracked := name :: shell.tracked }
    if mode.last && !hasTraps (← get) then become engine path words
    else
      let place ← addJob
      let child : Run Unit := do
        enterChild false false
        become engine path words
      let id ← fork do
        let _ ← attempt child
      joinJob place id
      awaitJob place engine.fuel

/-! ## Simple commands -/

/-- Runs what a command stands for. -/
def perform (engine : Engine) (mode : Mode) (call : Call) : Run Nat := do
  match call.meaning? with
  | none => return (← get).substitution
  | some (.function body) => runFunction engine mode body call.words.tail
  | some (.builtin name) =>
    match ← attempt (runBuiltin engine mode name call.words.tail) with
    | .error .failure =>
      if call.special then throw .failure else return (← get).status
    | result => resume result
  | some .program =>
    let path ← match call.path? with
      | some path => pure path
      | none => pathValue
    runProgram engine mode path call.words

/-- Redirects and assigns for a command, and runs it. -/
def performRedirected (engine : Engine) (mode : Mode) (call : Call)
    (assignments : List (Octets × Word)) (redirects : List Redirect) : Run Nat := do
  let targets ← expandTargets engine redirects
  let run : Run Nat := do
    if ← redirectSafely engine targets then
      let assigned ← assignAll engine call assignments
      trace (!redirects.isEmpty) (assigned ++ call.words)
      perform engine mode call
    else
      setStatus 2
      if call.special then throw .failure else return 2
  if redirects.isEmpty then run else withFrame call.isExec run

/-- Runs a simple command. -/
def runSimple (engine : Engine) (mode : Mode) (line : Nat) (assignments : List (Octets × Word))
    (words : List Word) (redirects : List Redirect) : Run Nat := do
  ask (.pass commandCost)
  modify fun shell => { shell with line, substitution := 0 }
  let call ← expandCall engine words
  let run := performRedirected engine mode call assignments redirects
  let status ← if call.assignsLocally then withLocals run else run
  match call.meaning? with
  | some .program => pure ()
  | _ => reapJobs
  return status

end Run

end PhaseBench.Host
