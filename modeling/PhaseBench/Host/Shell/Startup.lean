import PhaseBench.Host.Shell.Builtin.Place
import PhaseBench.Host.Shell.Interpreter

/-!
# Starting a shell

A shell takes over the variables it is given, reads its options, and runs a script:
its argument, a file or its standard input.
-/

namespace PhaseBench.Host

/-- The variables of a shell that starts, before those it is given. -/
def firstBindings : Bindings :=
  [("PATH", standardPath), ("PS1", "# ".toList), ("PS2", "> ".toList), ("PS4", "+ ".toList)].map
    fun (name, value) => (name.toList, { value := some value })

/-- The variables of a shell that starts and that are not given. -/
def ownBindings : Bindings :=
  [("IFS", [' ', '\t', '\n']), ("OPTIND", ['1']), ("PPID", ['1'])].map
    fun (name, value) => (name.toList, { value := some value })

namespace Shell

/-- A shell with the variables that it is given. -/
def ofEnvironment (name : Octets) (environment : Bindings) : Shell :=
  let given := environment.filter fun entry => isName entry.1
  (firstBindings ++ given ++ ownBindings).foldl (fun shell (name, entry) => shell.bind name entry)
    { name, line := 0 }

end Shell

namespace Run

/-- Finds out about the process: its number, the signals that it ignores, and where it is. -/
def settle : Run Unit := do
  let process ← ask .self
  let deaf ← ask .ignoredSignals
  let tree ← ask .look
  let here := tree.home
  let directory := match (← get).value? "PWD".toList with
    | some path =>
      match path.head?, tree.resolve path.toText with
      | some '/', .ok (location, _) => if location == here then path else pathOf here
      | _, _ => pathOf here
    | none => pathOf here
  modify fun shell => { shell with process, deaf, directory }
  publish "PWD".toList directory

/-- Runs the script that the arguments of a shell name. -/
def runArguments (engine : Engine) (arguments : List Octets) : Run Unit := do
  settle
  match OptionReading.read true (arguments.length + 1) arguments { options := [] } with
  | .error message => fail message
  | .ok reading =>
    modify fun shell => { shell with options := reading.options }
    let input : Run Unit := do
      let _ ← runFile engine 0 engine.fuel false { rest := [] } 0
    let hasInput := reading.options.contains 's'
    match reading.rest with
    | [] =>
      if reading.asCommand then fail "-c requires an argument".toList
      modify fun shell => { shell with options := 's' :: shell.options.filter (· != 's') }
      input
    | first :: rest =>
      if reading.asCommand then
        modify fun shell => { shell with
          line := 1, name := rest.head?.getD shell.name, positional := rest.tail }
        let _ ← runText engine { last := !hasInput } first
        if hasInput then input
      else if hasInput then
        modify fun shell => { shell with positional := first :: rest }
        input
      else
        let descriptor ← openScript first
        modify fun shell => { shell with name := first, positional := rest }
        let _ ← runFile engine descriptor engine.fuel false { rest := [] } 0

/-- The task of a shell that is called by a name with arguments. -/
def shellTask (engine : Engine) (name : Octets) (arguments : List Octets)
    (environment : Bindings) : Task :=
  finishing engine (runArguments engine arguments) (Shell.ofEnvironment name environment)
    fun (_, shell) => .ended shell.status

end Run

end PhaseBench.Host
