import PhaseBench.Host.Shell.Expansion

/-!
# Processes of a shell

How a shell runs the text of scripts, starts processes and waits for them, what it
does on signals and at its end, and how it becomes another program.
-/

namespace PhaseBench.Host

namespace Run

/-- The time that a command takes by itself, in nanoseconds. -/
def commandCost : Nat := 1000

/-! ## Texts -/

/-- Reads the next complete command of a script. -/
def nextCommand (source : Source) : Run (Option Script × Source) := do
  let shell ← get
  match { source with texts := [], nextText := shell.nextText }.next with
  | (.ok script?, source) =>
    set { shell with texts := source.texts ++ shell.texts, nextText := source.nextText }
    return (script?, source)
  | (.error error, _) =>
    set { shell with line := error.line }
    fail error.message

/-- Runs the commands of a script one by one, for a number of them at most. The exit code is
that of the last one, or the one given. -/
def runSource (engine : Engine) (mode : Mode) : Nat → Source → Nat → Run Nat
  | 0, _, _ => act Act.hang
  | fuel + 1, source, status => do
    let (script?, source) ← nextCommand source
    let status ← match script? with
      | some script => engine.eval { mode with last := mode.last && source.isOver } script
      | none => pure status
    if source.isOver then return status else runSource engine mode fuel source status

/-- Runs a text. -/
def runText (engine : Engine) (mode : Mode) (text : Octets) : Run Nat :=
  runSource engine mode engine.fuel { rest := text } 0

/-! ## Signals -/

/-- What is run on a signal. -/
def trapOf? (shell : Shell) (signal : Nat) : Option Octets :=
  (shell.traps.find? (·.1 == signal)).map (·.2)

/-- Holds for a shell that has something to run on a signal or at its end. -/
def hasTraps (shell : Shell) : Bool := shell.traps.any fun trap => !trap.2.isEmpty

/-- Makes the kernel treat a signal as the shell does. -/
def settleSignal (signal : Nat) : Run Unit := do
  let shell ← get
  if signal = 0 || shell.deaf.contains signal then return
  else
    match trapOf? shell signal with
    | none => ask (.dispose signal .customary)
    | some action => ask (.dispose signal (if action.isEmpty then .ignored else .caught))

/-- Runs what is to be run on the given signals, with a given exit code before each. -/
def runActions (engine : Engine) (status : Nat) : List Nat → Run Unit
  | [] => return
  | signal :: signals => do
    match trapOf? (← get) signal with
    | none => runActions engine status signals
    | some action =>
      let _ ← runText engine {} action
      setStatus status
      runActions engine status signals

/-- Runs what is to be run on the signals that have come. -/
def runTraps (engine : Engine) : Run Unit := do
  let shell ← get
  if shell.traps.any fun trap => trap.1 != 0 && !trap.2.isEmpty then
    match ← ask .takeSignals with
    | [] => return
    | signals =>
      let status := shell.savedStatus.getD shell.status
      set { shell with savedStatus := some status }
      let signals := (List.range Signal.limit).filter signals.contains
      match ← attempt (runActions engine status signals) with
      | .ok () => modify fun after => { after with savedStatus := shell.savedStatus }
      | .error flow =>
        if flow matches .exit | .over | .failure then throw flow
        else
          modify fun after => { after with savedStatus := shell.savedStatus }
          throw flow

/-! ## The end of a shell -/

/-- Takes over the exit code that a shell was to end with. -/
def settleStatus (flow? : Option Flow) : Run Unit :=
  modify fun shell =>
    match shell.savedStatus with
    | some status =>
      { shell with
        status := if flow? = some .exit then status else shell.status, savedStatus := none }
    | none => shell

/-- Runs something as the last thing that a shell does; the exit code is the status of the
shell behind it. -/
def finishing (engine : Engine) (run : Run Unit) : Run Unit := do
  let flow? : Option Flow ← match ← attempt run with
    | .ok () => pure none
    | .error flow => pure (some flow)
  settleStatus flow?
  let shell ← get
  set { shell with savedStatus := some shell.status, loops := 0 }
  match trapOf? shell 0 with
  | none => return
  | some action =>
    modify fun shell => { shell with traps := shell.traps.filter (·.1 != 0) }
    match ← attempt (runText engine {} action) with
    | .error .over => return
    | .error .failure => return
    | _ => settleStatus (some .exit)

/-! ## Children -/

/-- Starts a child that runs something and ends with its status. -/
def fork (child : Run Unit) : Run Nat := fun shell next =>
  .fork (child shell fun (_, shell) => .ended shell.status) fun id => next (.ok id, shell)

/-- What a shell forgets as a child of another one. A child in the background reads nothing,
if it is the first of its command, and takes no notice of the keyboard. -/
def enterChild (background first : Bool) : Run Unit := do
  modify fun shell => { shell with
    traps := shell.traps.filter (·.2.isEmpty), jobs := [], kept := [] }
  if background then
    ask (.dispose Signal.interrupt .ignored)
    ask (.dispose Signal.quit .ignored)
    modify fun shell => { shell with deaf := Signal.interrupt :: Signal.quit :: shell.deaf }
    if first then
      ask (.close 0)
      let _ ← ask (.openFile "/dev/null" { reads := true })

/-- Starts a shell as a child, to run something. -/
def forkShell (engine : Engine) (background first : Bool) (run : Run Unit) : Run Nat :=
  fork (finishing engine do
    enterChild background first
    run)

/-! ## Jobs -/

/-- Makes a place for a job and gives its number. -/
def addJob : Run Nat := do
  let shell ← get
  let isFree (job? : Option Job) : Bool :=
    match job? with
    | none => true
    | some job => job.isDone && job.waited
  match shell.jobs.findIdx? isFree with
  | some place =>
    set { shell with jobs := shell.jobs.set place (some ({} : Job)) }
    return place
  | none =>
    set { shell with jobs := shell.jobs ++ [some ({} : Job)] }
    return shell.jobs.length

/-- Changes a job. -/
def changeJob (place : Nat) (f : Job → Option Job) : Run Unit :=
  modify fun shell => { shell with
    jobs := shell.jobs.modify place fun job? => job?.bind f }

/-- Adds a process to a job. -/
def joinJob (place id : Nat) : Run Unit :=
  changeJob place fun job => some { job with processes := job.processes ++ [(id, none)] }

/-- Notes how a process ended. -/
def noteEnding (id : Nat) (ending : Ending) : Run Unit :=
  modify fun shell => { shell with
    jobs := shell.jobs.map fun job? => job?.map fun job =>
      { job with processes := job.processes.map fun entry =>
          if entry.1 == id && entry.2.isNone then (id, some ending) else entry } }

/-- A job by number. -/
def job? (place : Nat) : Run (Option Job) := return ((← get).jobs[place]?).join

/-- Says that a signal ended a process, if that is worth saying. -/
def announce (ending : Ending) : Run Unit :=
  match ending with
  | .signal signal _ =>
    if signal = Signal.interrupt || signal = Signal.brokenPipe then return
    else act (Act.tell 2 (Signal.description signal ++ ['\n']))
  | .exit _ => return

/-- Waits for all processes of a job, whatever other processes end meanwhile. -/
def awaitJob (place : Nat) : Nat → Run Nat
  | 0 => act Act.hang
  | fuel + 1 => do
    match ← job? place with
    | none => return 0
    | some job =>
      if job.isDone then
        changeJob place fun _ => none
        return job.status
      else
        match ← ask (.await false) with
        | .child id ending =>
          noteEnding id ending
          if job.processes.any (·.1 == id) then announce ending
          awaitJob place fuel
        | .noChild =>
          changeJob place fun _ => none
          return job.status
        | .interrupted _ => awaitJob place fuel

/-! ## Command substitution -/

/-- Reads all that comes from a descriptor. -/
def readAll (descriptor : Nat) : Nat → ByteArray → Run ByteArray
  | 0, _ => act Act.hang
  | fuel + 1, before => do
    match ← ask (.read descriptor 65536) with
    | .ok bytes => if bytes.isEmpty then return before else readAll descriptor fuel (before ++ bytes)
    | .error .interrupted =>
      ask (.pass 1000)
      readAll descriptor fuel before
    | .error _ => return before

/-- The output of a command, without line breaks at its end. -/
def substitute (engine : Engine) (body? : Option Script) : Run Octets := do
  match body? with
  | none => return []
  | some body =>
    let (source, sink) ← ask .pipe
    let place ← addJob
    let id ← forkShell engine false false do
      ask (.close source)
      unless sink = 1 do
        let _ ← ask (.redirect sink 1)
        ask (.close sink)
      let _ ← engine.eval { last := true } body
    joinJob place id
    ask (.close sink)
    let bytes ← readAll source engine.fuel ByteArray.empty
    ask (.close source)
    let status ← awaitJob place engine.fuel
    modify fun shell => { shell with substitution := status }
    let octets := (Octets.ofBytes bytes).filter (· != '\x00')
    return (octets.reverse.dropWhile (· == '\n')).reverse

/-! ## Programs -/

/-- The directories of a search path. -/
def searchPath (path : Octets) : List Octets :=
  path.foldr (fun c parts =>
    if c == ':' then [] :: parts
    else match parts with
      | [] => [[c]]
      | part :: rest => (c :: part) :: rest) [[]]

/-- The paths that a name of a program may stand for. -/
def candidates (path name : Octets) : List Octets :=
  if name.contains '/' then [name]
  else (searchPath path).map fun dir => if dir.isEmpty then name else dir ++ '/' :: name

/-- The first path of several that leads to a regular file. -/
def regularPath? (tree : Tree) (paths : List Octets) : Option Octets :=
  paths.find? fun path => tree.isRegular path.toText

/-- The program that a path leads to. -/
def programAt (tree : Tree) (path : Octets) : Except OsError String :=
  match tree.resolve path.toText with
  | .ok (_, .program name) => .ok name
  | .ok _ => .error .noAccess
  | .error error => .error error

/-- The first program that one of several paths leads to. Of the errors the last one counts
that says more than that nothing is there. -/
def findProgram (tree : Tree) : OsError → List Octets → Except OsError String
  | error, [] => .error error
  | error, path :: paths =>
    match programAt tree path with
    | .ok name => .ok name
    | .error .noEntry => findProgram tree error paths
    | .error .notDirectory => findProgram tree error paths
    | .error other => findProgram tree other paths

/-- What a shell says about a program that cannot be started. -/
def startMessage : OsError → String
  | .noEntry => "not found"
  | .notDirectory => "not found"
  | error => error.description.1

/-- The length in octets that no single argument reaches. -/
def argumentLimit : Nat := 131072

/-- Becomes another program, which is looked for in the directories of a search path. -/
def become {α : Type} (engine : Engine) (path : Octets) (words : List Octets) : Run α := do
  let shell ← get
  let tree ← ask .look
  let name := words.head?.getD []
  let environment := shell.environment
  let found : Except OsError String :=
    match findProgram tree .noEntry (candidates path name) with
    | .ok program =>
      let tooLong := words.any (fun word => argumentLimit ≤ word.length) ||
        environment.any fun (name, entry) =>
          argumentLimit ≤ name.length + 1 + (entry.value.getD []).length
      if tooLong then .error .argumentsTooLong else .ok program
    | .error error => .error error
  match found with
  | .ok program =>
    ask .become
    replace (engine.image program words environment)
  | .error error =>
    let absent := [OsError.noEntry, .notDirectory, .tooManyLinks, .nameTooLong].contains error
    setStatus (if absent then 127 else 126)
    warn (name ++ ": ".toList ++ (startMessage error).toList)
    throw .over

end Run

end PhaseBench.Host
