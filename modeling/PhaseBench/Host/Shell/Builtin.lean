import PhaseBench.Host.Condition
import PhaseBench.Host.Shell.Builtin.Job
import PhaseBench.Host.Shell.Builtin.Line
import PhaseBench.Host.Shell.Builtin.Place
import PhaseBench.Host.Shell.Builtin.Variable
import PhaseBench.Host.Utility.Format

/-!
# The commands built into the shell

How a built-in command is run by name: it does its work, then what it yields is
written, and where that fails the command fails as well.
-/

namespace PhaseBench.Host.Run

/-! ## Control -/

/-- The command `exit`. -/
def exitCommand (arguments : List Octets) : Run Yield := do
  match arguments with
  | [] => throw .exit
  | word :: _ =>
    let status ← number word
    modify fun shell => { shell with savedStatus := some status }
    throw .exit

/-- The command `return`. -/
def returnCommand (arguments : List Octets) : Run Yield := do
  match arguments with
  | [] => throw .back
  | word :: _ =>
    setStatus (← number word)
    throw .back

/-- The commands `break` and `continue`: some loops are left, as many as there are at most. -/
def leaveCommand (flow : Nat → Flow) (arguments : List Octets) : Run Yield := do
  let levels ← match arguments with
    | [] => pure 1
    | word :: _ =>
      let levels ← number word
      if levels = 0 then badNumber word else pure levels
  setStatus 0
  match min levels (← get).loops with
  | 0 => return {}
  | levels => throw (flow levels)

/-- The command `eval`. -/
def evalCommand (engine : Engine) (mode : Mode) (arguments : List Octets) : Run Yield := do
  if arguments.isEmpty then return {}
  else
    let text := Octets.intercalate [' '] arguments
    return { status := ← runText engine { tested := mode.tested } text }

/-- The command `exec`. -/
def execCommand (engine : Engine) (arguments : List Octets) : Run Yield := do
  if arguments.isEmpty then return {} else become engine (← pathValue) arguments

/-! ## Script files -/

/-- Reads the next complete command of a script that comes from a descriptor, reading on as
long as the command may go on. Tells whether the script has been read to its end. -/
def nextFrom (descriptor : Nat) : Nat → Bool → Source → Run (Option Script × Source × Bool)
  | 0, _, _ => act Act.hang
  | fuel + 1, ended, source => do
    let shell ← get
    let (_, after) := { source with texts := [], nextText := shell.nextText }.next
    if after.dry && !ended then
      match ← ask (.read descriptor 8192) with
      | .ok bytes =>
        if bytes.isEmpty then nextFrom descriptor fuel true source
        else
          let rest := source.rest ++ (Octets.ofBytes bytes).filter (· != '\x00')
          nextFrom descriptor fuel false { source with rest }
      | .error .interrupted =>
        ask (.pass 1000)
        nextFrom descriptor fuel ended source
      | .error _ => nextFrom descriptor fuel true source
    else
      let (script?, source) ← nextCommand source
      return (script?, source, ended)

/-- Runs a script that comes from a descriptor. -/
def runFile (engine : Engine) (descriptor : Nat) : Nat → Bool → Source → Nat → Run Nat
  | 0, _, _, _ => act Act.hang
  | fuel + 1, ended, source, status => do
    let (script?, source, ended) ← nextFrom descriptor engine.fuel ended source
    let status ← match script? with
      | some script => engine.eval {} script
      | none => pure status
    if source.isOver then return status else runFile engine descriptor fuel ended source status

/-- Opens a script file at a descriptor that no program sees. -/
def openScript (path : Octets) : Run Nat := do
  let descriptor ← openIn { reads := true } path
  match ← ask (.keep descriptor 10) with
  | .ok kept =>
    ask (.close descriptor)
    return kept
  | .error _ => return descriptor

/-- The command `.`, which runs a script file. -/
def dotCommand (engine : Engine) (arguments : List Octets) : Run Yield := do
  match ← operands arguments with
  | [] => return {}
  | name :: _ =>
    let path ← if name.contains '/' then pure name
      else
        match regularPath? (← ask .look) (candidates (← pathValue) name) with
        | some path => pure path
        | none => fail (name ++ ": not found".toList)
    let descriptor ← openScript path
    modify fun shell => { shell with command := some path }
    let result ← attempt (runFile engine descriptor engine.fuel false { rest := [] } 0)
    ask (.close descriptor)
    match result with
    | .error .back => return { status := (← get).status }
    | result => return { status := ← resume result }

/-! ## Texts and conditions -/

/-- Writes messages of the shell. -/
def warnAll : List Octets → Run Unit
  | [] => return
  | message :: messages => do
    warn message
    warnAll messages

/-- The command `printf`. -/
def printfCommand (arguments : List Octets) : Run Yield := do
  match ← operands arguments with
  | [] => fail "usage: printf format [arg ...]".toList
  | format :: arguments =>
    let printed := printf .shell format arguments
    let output := printed.messages.flatMap Prod.fst ++ printed.output
    warnAll (printed.messages.map Prod.snd)
    if printed.broken then
      act (Act.tell 1 output)
      setStatus 2
      throw .failure
    else return { output, status := printed.code }

/-- The commands `test` and, with a bracket at its end, `[`. -/
def testCommand (bracket : Bool) (arguments : List Octets) : Run Yield := do
  if bracket && arguments.getLast? != some [']'] then fail "missing ]".toList
  else
    let words := if bracket then arguments.dropLast else arguments
    match testAnswer (← ask .look) words with
    | .ok holds => return { status := if holds then 0 else 1 }
    | .error message => fail message.toList

/-! ## All commands -/

/-- Does the work of a built-in command. -/
def work (engine : Engine) (mode : Mode) (name : String) (arguments : List Octets) :
    Run Yield := do
  match name with
  | ":" => return {}
  | "true" => return {}
  | "false" => return { status := 1 }
  | "." => dotCommand engine arguments
  | "[" => testCommand true arguments
  | "alias" => aliasCommand arguments
  | "bg" => fail "No current job".toList
  | "break" => leaveCommand .leave arguments
  | "cd" => cdCommand arguments
  | "chdir" => cdCommand arguments
  | "command" => commandCommand arguments
  | "continue" => leaveCommand .again arguments
  | "echo" => return { output := echo .shell arguments }
  | "eval" => evalCommand engine mode arguments
  | "exec" => execCommand engine arguments
  | "exit" => exitCommand arguments
  | "export" => markCommand name (fun entry => { entry with exported := true }) (·.exported) arguments
  | "fg" => fail "No current job".toList
  | "getopts" => getoptsCommand arguments
  | "hash" => hashCommand arguments
  | "jobs" => jobsCommand arguments
  | "kill" => killCommand arguments
  | "local" => localCommand arguments
  | "printf" => printfCommand arguments
  | "pwd" => pwdCommand arguments
  | "read" => readCommand engine arguments
  | "readonly" =>
    markCommand name (fun entry => { entry with isFixed := true }) (·.isFixed) arguments
  | "return" => returnCommand arguments
  | "set" => setCommand arguments
  | "shift" => shiftCommand arguments
  | "test" => testCommand false arguments
  | "times" =>
    return { output := "0m0.000000s 0m0.000000s\n0m0.000000s 0m0.000000s\n".toList }
  | "trap" => trapCommand arguments
  | "type" => typeCommand arguments
  | "ulimit" => ulimitCommand arguments
  | "umask" => umaskCommand arguments
  | "unalias" => unaliasCommand arguments
  | "unset" => unsetCommand arguments
  | "wait" => waitCommand engine arguments
  | _ => return {}

/-- Runs a built-in command: messages are about it, and what it yields is written. -/
def runBuiltin (engine : Engine) (mode : Mode) (name : String) (arguments : List Octets) :
    Run Nat := do
  let outer := (← get).command
  modify fun shell => { shell with command := some name.toList }
  let result ← attempt do
    let yield ← work engine mode name arguments
    if yield.output.isEmpty then return yield.status
    else
      match ← act (Act.write 1 yield.output) with
      | .ok () => return yield.status
      | .error _ =>
        warn (name.toList ++ ": I/O error".toList)
        return yield.status ||| 1
  modify fun shell => { shell with command := outer }
  resume result

end PhaseBench.Host.Run
