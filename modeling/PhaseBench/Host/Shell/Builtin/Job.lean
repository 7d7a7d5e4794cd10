import PhaseBench.Host.Shell.Builtin.Basic

/-!
# Commands about processes

The built-in commands that send and catch signals and that wait for and show jobs.
-/

namespace PhaseBench.Host.Run

/-! ## Signals -/

/-- The command `trap` shows what is run on signals. -/
def shownTraps (shell : Shell) : Octets :=
  (List.range Signal.limit).flatMap fun signal =>
    match trapOf? shell signal with
    | some action =>
      "trap -- ".toList ++ singleQuoted action ++ ' ' :: Signal.name signal ++ ['\n']
    | none => []

/-- Sets what is run on signals, or takes it back. Stops at what is no signal. -/
def setTraps (action? : Option Octets) : List Octets → Run Nat
  | [] => return 0
  | word :: words => do
    match Signal.ofText? 0 word with
    | none =>
      act (Act.tell 2 ("trap: ".toList ++ word ++ ": bad trap\n".toList))
      return 1
    | some signal =>
      modify fun shell =>
        let others := shell.traps.filter (·.1 != signal)
        { shell with traps := match action? with
          | some action => (signal, action) :: others
          | none => others }
      settleSignal signal
      setTraps action? words

/-- The command `trap`. -/
def trapCommand (arguments : List Octets) : Run Yield := do
  match ← operands arguments with
  | [] => return { output := shownTraps (← get) }
  | [word] => return { status := ← setTraps none [word] }
  | action :: words =>
    if (Signal.ofNumber? action).isSome then
      return { status := ← setTraps none (action :: words) }
    else return { status := ← setTraps (if action = ['-'] then none else some action) words }

/-! ## Jobs -/

/-- The place of the job that a word names. -/
def jobOf (word : Octets) : Run Nat := do
  let jobs := (← get).jobs
  let places := (List.range jobs.length).reverse.filter fun place =>
    match jobs[place]? with
    | some (some _) => true
    | _ => false
  let current (place? : Option Nat) (which : String) : Run Nat :=
    match place? with
    | some place => return place
    | none => fail ("No ".toList ++ which.toList ++ " job".toList)
  match word with
  | ['%'] => current places[0]? "current"
  | ['%', '%'] => current places[0]? "current"
  | ['%', '+'] => current places[0]? "current"
  | ['%', '-'] => current places[1]? "previous"
  | _ =>
    match Octets.toNat? word.tail with
    | some (place + 1) =>
      if places.contains place then return place else fail ("No such job: ".toList ++ word)
    | _ => fail ("No such job: ".toList ++ word)

/-- Notes the children that have ended. -/
def reapAll : Nat → Run Unit
  | 0 => return
  | fuel + 1 => do
    match ← ask .reap with
    | some (id, ending) =>
      noteEnding id ending
      reapAll fuel
    | none => return

/-- The number of processes of all jobs that are not known to have ended. -/
def runningCount (shell : Shell) : Nat :=
  (shell.jobs.map fun job? => match job? with
    | some job => job.processes.countP (·.2.isNone)
    | none => 0).foldr (· + ·) 0

/-- Notes the children that have ended, if there may be some. -/
def reapJobs : Run Unit := do
  let count := runningCount (← get)
  if count != 0 then reapAll (count + 1)

/-- The state of a job as it is shown. -/
def shownState (job : Job) : Octets :=
  if !job.isDone then "Running".toList
  else
    match job.processes.getLast? with
    | some (_, some (.signal signal _)) => Signal.description signal
    | some (_, some (.exit (code + 1))) =>
      "Done(".toList ++ Octets.ofNat (code + 1) ++ [')']
    | _ => "Done".toList

/-- A job as it is shown. -/
def shownJob (place : Nat) (mark : Char) (withIds : Bool) (job : Job) : Octets :=
  let ids := job.processes.map (·.1)
  let title := '[' :: Octets.ofNat (place + 1) ++ [']', ' ', mark, ' ']
  let start := title ++ (if withIds then Octets.ofNat (ids.head?.getD 0) ++ [' '] else []) ++
    shownState job
  let blanks (width : Nat) : Octets := List.replicate (max 1 (33 - width)) ' '
  start ++ blanks start.length ++
    (if withIds then
      ids.tail.flatMap fun id =>
        let line := List.replicate title.length ' ' ++ Octets.ofNat id ++ [' ']
        " |\n".toList ++ line ++ blanks line.length
    else ids.tail.flatMap fun _ => " | ".toList) ++ ['\n']

/-- The command `jobs`. -/
def jobsCommand (arguments : List Octets) : Run Yield := do
  let (options, words) ← options "lp" "" arguments
  reapJobs
  let jobs := (← get).jobs
  let places := (List.range jobs.length).reverse.filter fun place =>
    match jobs[place]? with
    | some (some _) => true
    | _ => false
  let chosen ← if words.isEmpty then pure places else words.mapM jobOf
  let shown := chosen.flatMap fun place =>
    match jobs[place]? with
    | some (some job) =>
      if options.any (·.1 == 'p') then
        Octets.ofNat ((job.processes.head?.map (·.1)).getD 0) ++ ['\n']
      else
        let mark := if places[0]? == some place then '+'
          else if places[1]? == some place then '-' else ' '
        shownJob place mark (options.any (·.1 == 'l')) job
    | _ => []
  unless options.any (·.1 == 'p') do
    modify fun shell => { shell with
      jobs := shell.jobs.zipIdx.map fun (job?, place) =>
        match job? with
        | some job => if job.isDone && chosen.contains place then none else some job
        | none => none }
  return { output := shown }

/-! ## Waiting -/

/-- Waits until no job of some is running. Gives the signal that came before that. -/
def awaitJobs (places : Shell → List Nat) (single : Bool) : Nat → Run (Option Nat)
  | 0 => act Act.hang
  | fuel + 1 => do
    let shell ← get
    let runs (place : Nat) : Bool := match shell.jobs[place]? with
      | some (some job) => !job.isDone
      | _ => false
    if !(places shell).any runs then return none
    else
      match ← ask (.await true) with
      | .child id ending =>
        noteEnding id ending
        let own := (places shell).any fun place => match shell.jobs[place]? with
          | some (some job) => job.processes.any (·.1 == id)
          | _ => false
        if single && own then announce ending
        awaitJobs places single fuel
      | .noChild => return none
      | .interrupted signal => return some signal

/-- Waits for the jobs that words name, one after the other. -/
def awaitEach (engine : Engine) (status : Nat) : List Octets → Run Nat
  | [] => return status
  | word :: words => do
    let place? ← if word.head? == some '%' then some <$> jobOf word
      else
        let id ← number word
        pure ((← get).jobs.findIdx? fun job? => match job? with
          | some job => job.processes.getLast?.map (·.1) == some id
          | none => false)
    match place? with
    | none => awaitEach engine status words
    | some place =>
      match ← awaitJobs (fun _ => [place]) true engine.fuel with
      | some signal => return 128 + signal
      | none =>
        let job? ← job? place
        changeJob place fun job => some { job with waited := true }
        awaitEach engine ((job?.map (·.status)).getD status) words

/-- The command `wait`. -/
def waitCommand (engine : Engine) (arguments : List Octets) : Run Yield := do
  match ← operands arguments with
  | [] =>
    match ← awaitJobs (fun shell => List.range shell.jobs.length) false engine.fuel with
    | some signal => return { status := 128 + signal }
    | none =>
      modify fun shell => { shell with
        jobs := shell.jobs.map fun job? => job?.map fun job => { job with waited := true } }
      return {}
  | words => return { status := ← awaitEach engine 127 words }

/-! ## Sending signals -/

/-- Breaks off because the command `kill` was used wrongly. -/
def killUsage {α : Type} : Run α :=
  fail ("Usage: kill [-s sigspec | -signum | -sigspec] [pid | job]... or\n" ++
    "kill -l [exitstatus]").toList

/-- Sends a signal to several targets. -/
def sendAll (signal : Nat) (status : Nat) : List Octets → Run Nat
  | [] => return status
  | word :: words => do
    let target : Int ← match word with
      | '%' :: _ =>
        let job? ← job? (← jobOf word)
        pure (-(Int.ofNat (((job?.bind (·.processes.head?)).map (·.1)).getD 0)))
      | '-' :: digits => pure (-(Int.ofNat (← number digits)))
      | digits => Int.ofNat <$> number digits
    match ← ask (.send target signal) with
    | .ok () => sendAll signal status words
    | .error error =>
      warn (error.description.1.toList ++ ['\n'])
      sendAll signal 1 words

/-- The names of signals, all or that of a given one. -/
def listSignals (words : List Octets) : Run Yield := do
  match words with
  | [] =>
    return { output := "0\n".toList ++ ((List.range Signal.limit).drop 1).flatMap fun signal =>
      Signal.name signal ++ ['\n'] }
  | word :: _ =>
    let code ← number word
    let signal := if 128 < code then code - 128 else code
    if signal = 0 || Signal.limit ≤ signal then
      fail ("invalid signal number or exit status: ".toList ++ word)
    else return { output := Signal.name signal ++ ['\n'] }

/-- The command `kill`. -/
def killCommand (arguments : List Octets) : Run Yield := do
  let direct? := match arguments with
    | ('-' :: word) :: _ => Signal.ofText? 1 word
    | _ => none
  match direct?, arguments with
  | _, [] => killUsage
  | some signal, _ :: words =>
    if words.isEmpty then killUsage else return { status := ← sendAll signal 0 words }
  | none, arguments =>
    let (options, words) ←
      if (arguments.head?.bind (·.head?)) == some '-' then options "l" "s" arguments
      else pure ([], arguments)
    let signal? ← options.foldlM (fun signal? (letter, value) =>
      if letter == 's' then
        match Signal.ofText? 1 value with
        | some signal => pure (some signal)
        | none => fail ("invalid signal number or name: ".toList ++ value)
      else pure signal?) (none : Option Nat)
    if options.any (·.1 == 'l') then
      if signal?.isSome then killUsage else listSignals words
    else if words.isEmpty then killUsage
    else return { status := ← sendAll (signal?.getD Signal.terminate) 0 words }

end PhaseBench.Host.Run
