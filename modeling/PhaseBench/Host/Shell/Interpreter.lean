import PhaseBench.Host.Shell.Command

/-!
# Running commands

How commands are combined: sequences and conditions, loops, pipelines, subshells and
commands in the background. Before and behind each command the shell looks for signals.
A command that fails ends the shell when that is asked for and nobody tests it.
-/

namespace PhaseBench.Host

namespace Run

/-! ## Combinations -/

/-- Runs commands one after the other. -/
def runSequence (engine : Engine) (mode : Mode) : List Script → Run Nat
  | [] => return 0
  | [script] => engine.eval mode script
  | script :: scripts => do
    let _ ← engine.eval { tested := mode.tested } script
    runSequence engine mode scripts

/-- Runs something inside of a loop. -/
def inLoop {α : Type} (run : Run α) : Run α := do
  modify fun shell => { shell with loops := shell.loops + 1 }
  let result ← attempt run
  modify fun shell => { shell with loops := shell.loops - 1 }
  resume result

/-- What a loop does behind a part of a round: it goes on with the exit code of that part,
begins the next round, or is left. -/
inductive Turn
  | onward (status : Nat)
  | next
  | left

/-- Runs a part of a round of a loop. -/
def runRound (run : Run Nat) : Run Turn := do
  match ← attempt run with
  | .ok status => return .onward status
  | .error (.leave (levels + 2)) => throw (.leave (levels + 1))
  | .error (.leave _) => return .left
  | .error (.again (levels + 2)) => throw (.again (levels + 1))
  | .error (.again _) => return .next
  | .error flow => throw flow

/-- Runs the rounds of a loop; `status` is the exit code of the last one. -/
def runLoop (engine : Engine) (mode : Mode) (untilTrue : Bool) (condition body : Script) :
    Nat → Nat → Run Nat
  | 0, _ => act Act.hang
  | fuel + 1, status => do
    match ← runRound (engine.eval { tested := true } condition) with
    | .left => return status
    | .next => runLoop engine mode untilTrue condition body fuel status
    | .onward code =>
      if (code = 0) = untilTrue then return status
      else
        match ← runRound (engine.eval mode body) with
        | .left => return (← get).status
        | .next => runLoop engine mode untilTrue condition body fuel (← get).status
        | .onward status => runLoop engine mode untilTrue condition body fuel status

/-- Runs a body for each of several values of a variable. -/
def runEach (engine : Engine) (mode : Mode) (name : Octets) (body : Script) :
    List Octets → Nat → Run Nat
  | [], status => return status
  | value :: values, _ => do
    assign name value
    match ← runRound (engine.eval mode body) with
    | .left => return (← get).status
    | .next => runEach engine mode name body values (← get).status
    | .onward status => runEach engine mode name body values status

/-- Tells whether one of several patterns accepts a text. -/
def anyAccepts (engine : Engine) (text : Octets) : List Word → Run Bool
  | [] => return false
  | pattern :: patterns => do
    if Glob.accepts (← expandPattern (substitute engine) pattern) text then return true
    else anyAccepts engine text patterns

/-- Runs the first arm with a pattern that accepts a text. -/
def runArms (engine : Engine) (mode : Mode) (text : Octets) :
    List (List Word × Option Script) → Run Nat
  | [] => return 0
  | (patterns, body?) :: arms => do
    if ← anyAccepts engine text patterns then
      match body? with
      | some body => engine.eval mode body
      | none => return 0
    else runArms engine mode text arms

/-! ## Children -/

/-- Starts the stages of a pipeline, each reading what the one before writes. -/
def startStages (engine : Engine) (mode : Mode) (background : Bool) (place : Nat) :
    Bool → Option Nat → List Script → Run Unit
  | _, _, [] => return
  | first, input?, stage :: stages => do
    let pipe? : Option (Nat × Nat) ← if stages.isEmpty then pure none else some <$> ask .pipe
    let id ← forkShell engine background first do
      match pipe? with
      | some (source, _) => ask (.close source)
      | none => pure ()
      match input? with
      | some input =>
        if input != 0 then
          let _ ← ask (.redirect input 0)
          ask (.close input)
      | none => pure ()
      match pipe? with
      | some (_, sink) =>
        if 1 < sink then
          let _ ← ask (.redirect sink 1)
          ask (.close sink)
      | none => pure ()
      let _ ← engine.eval { mode with last := true } stage
    joinJob place id
    if background then modify fun shell => { shell with lastBackground := some id }
    match input? with
    | some input => ask (.close input)
    | none => pure ()
    match pipe? with
    | some (_, sink) => ask (.close sink)
    | none => pure ()
    startStages engine mode background place false (pipe?.map (·.1)) stages

/-- Runs a pipeline. -/
def runPipe (engine : Engine) (mode : Mode) (background : Bool) (stages : List Script) :
    Run Nat := do
  let place ← addJob
  startStages engine mode background place true none stages
  if background then return 0 else awaitJob place engine.fuel

/-- Runs a command as a child, with its redirections. -/
def runSubshell (engine : Engine) (mode : Mode) (background : Bool) (line : Nat) (body : Script)
    (redirects : List Redirect) : Run Nat := do
  modify fun shell => { shell with line }
  let targets ← expandTargets engine redirects
  let inside (mode : Mode) : Run Unit := do
    redirectAll engine false targets
    let _ ← engine.eval { mode with last := true } body
  if !background && mode.last && !hasTraps (← get) then
    inside mode
    throw .over
  else
    let place ← addJob
    let id ← forkShell engine background true
      (inside { mode with tested := mode.tested && !background })
    joinJob place id
    if background then
      modify fun shell => { shell with lastBackground := some id }
      return 0
    else awaitJob place engine.fuel

/-- Runs a command with redirections. -/
def runRedirected (engine : Engine) (mode : Mode) (line : Nat) (body : Script)
    (redirects : List Redirect) : Run Nat := do
  modify fun shell => { shell with line }
  let targets ← expandTargets engine redirects
  withFrame false do
    if ← redirectSafely engine targets then engine.eval { tested := mode.tested } body
    else return 2

/-! ## Commands -/

/-- Holds for the commands whose failure may end the shell. -/
def isChecked : Script → Bool
  | .simple .. => true
  | .pipe .. => true
  | .background .. => true
  | .subshell .. => true
  | _ => false

/-- Runs a command, whatever its exit code means for the shell. -/
def runScript (engine : Engine) (mode : Mode) (script : Script) : Run Nat := do
  let tested : Mode := { tested := true }
  match script with
  | .simple line assignments words redirects =>
    runSimple engine mode line assignments words redirects
  | .pipe stages background => runPipe engine mode background stages
  | .negate body => return if (← engine.eval tested body) = 0 then 1 else 0
  | .both left right =>
    let status ← engine.eval tested left
    if status = 0 then engine.eval mode right else return status
  | .either left right =>
    let status ← engine.eval tested left
    if status = 0 then return status else engine.eval mode right
  | .sequence parts => runSequence engine mode parts
  | .background line body redirects => runSubshell engine mode true line body redirects
  | .subshell line body redirects => runSubshell engine mode false line body redirects
  | .conditional condition body otherwise? =>
    if (← engine.eval tested condition) = 0 then engine.eval mode body
    else
      match otherwise? with
      | some otherwise => engine.eval mode otherwise
      | none => return 0
  | .loop untilTrue condition body =>
    inLoop (runLoop engine { tested := mode.tested } untilTrue condition body engine.fuel 0)
  | .forEach line name items body =>
    modify fun shell => { shell with line }
    let values ← expandAll (substitute engine) items
    inLoop (runEach engine { tested := mode.tested } name body values 0)
  | .choose line subject arms =>
    modify fun shell => { shell with line }
    let text ← expandText (substitute engine) false subject
    runArms engine mode text arms
  | .define name body =>
    modify fun shell => { shell with
      functions := (name, body) :: shell.functions.filter (·.1 != name) }
    return 0
  | .redirected line body redirects => runRedirected engine mode line body redirects

/-- Runs a command. A failure that nobody tests ends the shell when that is asked for, and so
does the last command. -/
def eval (engine : Engine) (mode : Mode) (script : Script) : Run Nat := do
  if (← get).has 'n' then
    if mode.last then throw .over else return (← get).status
  else
    runTraps engine
    let status ← runScript engine mode script
    setStatus status
    runTraps engine
    if isChecked script && status != 0 && !mode.tested && (← get).has 'e' then throw .over
    if mode.last then throw .over
    return (← get).status

end Run

end PhaseBench.Host
