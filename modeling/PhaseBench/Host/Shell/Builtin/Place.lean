import PhaseBench.Host.Shell.Builtin.Basic

/-!
# Commands about directories and names

The built-in commands that change and show the working directory, and those that
tell what a name stands for.
-/

namespace PhaseBench.Host

/-! ## Directories -/

/-- The parts of a path between its slashes. -/
def pathParts (path : Octets) : List Octets :=
  (path.foldr (fun c parts =>
    if c == '/' then [] :: parts
    else match parts with
      | [] => [[c]]
      | part :: rest => (c :: part) :: rest) [[]]).filter (!·.isEmpty)

/-- The slashes that a path from the root begins with; two of them are kept. -/
def rootOf : Octets → Octets
  | '/' :: '/' :: '/' :: _ => ['/']
  | '/' :: '/' :: _ => ['/', '/']
  | _ => ['/']

/-- The path of a directory that is given from another one, without its dots. -/
def pathFrom (directory path : Octets) : Octets :=
  let isAbsolute := path.head? == some '/'
  let base := if isAbsolute then [] else pathParts directory
  let parts := (pathParts path).foldl (fun parts part =>
    if part = ['.'] then parts
    else if part = ['.', '.'] then parts.dropLast
    else parts ++ [part]) base
  rootOf (if isAbsolute then path else directory) ++ Octets.intercalate ['/'] parts

/-- The path of a location. -/
def pathOf (location : Location) : Octets :=
  Octets.ofText ("/" ++ "/".intercalate location)

namespace Run

/-- Sets a variable that programs see. -/
def publish (name value : Octets) : Run Unit :=
  modify fun shell =>
    shell.bind name { (shell.binding? name).getD {} with value := some value, exported := true }

/-- Goes to a directory, and tells whether that was possible. -/
def goTo (physical : Bool) (path : Octets) : Run Bool := do
  let shell ← get
  let logical := pathFrom shell.directory path
  let tree ← ask .look
  match tree.resolve (if physical then path else logical).toText with
  | .ok (location, .directory) =>
    ask (.enter location)
    let directory := if physical then pathOf location else logical
    modify fun shell => { shell with directory }
    publish "OLDPWD".toList shell.directory
    publish "PWD".toList directory
    return true
  | _ => return false

/-- Holds for a path that begins with a dot as a part of its own, or two. -/
def beginsWithDots (path : Octets) : Bool :=
  match pathParts path with
  | part :: _ => path.head? != some '/' && (part = ['.'] || part = ['.', '.'])
  | [] => false

/-- The command `cd`. -/
def cdCommand (arguments : List Octets) : Run Yield := do
  let (options, words) ← options "LP" "" arguments
  let physical := options.getLast?.map (·.1) == some 'P'
  let shell ← get
  let back := words.head? == some ['-']
  let wanted := match words with
    | [] => (shell.value? "HOME".toList).getD []
    | word :: _ => if back then (shell.value? "OLDPWD".toList).getD [] else word
  let target := if wanted.isEmpty then ['.'] else wanted
  let tree ← ask .look
  let search := if wanted.head? == some '/' || beginsWithDots wanted then []
    else searchPath ((shell.value? "CDPATH".toList).getD [])
  let inSearch := search.find? fun dir =>
    tree.isDirectory (Octets.toText (if dir.isEmpty then target else dir ++ '/' :: target))
  let (path, shows) := match inSearch with
    | some dir => if dir.isEmpty then (target, false) else (dir ++ '/' :: target, true)
    | none => (target, false)
  if ← goTo physical path then
    let directory := (← get).directory
    return { output := if back || shows then directory ++ ['\n'] else [] }
  else fail ("can\x27t cd to ".toList ++ wanted)

/-- The command `pwd`. -/
def pwdCommand (arguments : List Octets) : Run Yield := do
  let (options, _) ← options "LP" "" arguments
  if options.getLast?.map (·.1) == some 'P' then
    return { output := pathOf (← ask .look).home ++ ['\n'] }
  else return { output := (← get).directory ++ ['\n'] }

/-! ## Permissions and limits -/

/-- A mask as the permissions that it leaves. -/
def shownMask (mask : Nat) : Octets :=
  let rights (bits : Nat) : Octets :=
    (if bits / 4 % 2 = 0 then ['r'] else []) ++ (if bits / 2 % 2 = 0 then ['w'] else []) ++
      if bits % 2 = 0 then ['x'] else []
  "u=".toList ++ rights (mask / 64 % 8) ++ ",g=".toList ++ rights (mask / 8 % 8) ++
    ",o=".toList ++ rights (mask % 8)

/-- The command `umask`. -/
def umaskCommand (arguments : List Octets) : Run Yield := do
  let (options, words) ← options "S" "" arguments
  match words with
  | [] =>
    let mask := (← get).mask
    let digits := Nat.toDigits 8 mask
    return { output :=
      (if options.isEmpty then List.replicate (4 - digits.length) '0' ++ digits
        else shownMask mask) ++ ['\n'] }
  | word :: _ =>
    if word.head?.any Char.isDigit then
      if !word.all Octets.isOctal then badNumber word
      modify fun shell => { shell with mask := Octets.octalValue word % 512 }
      return {}
    else fail ("Illegal mode: ".toList ++ word)

/-- The command `ulimit`, which knows no limits. -/
def ulimitCommand (arguments : List Octets) : Run Yield := do
  let (_, words) ← options "HSatfdscmlpnvwr" "" arguments
  return { output := if words.isEmpty then "unlimited\n".toList else [] }

/-! ## Names -/

end Run

/-- The commands built into the shell whose failure does not end the shell. -/
def plainCommands : List String :=
  ["[", "alias", "bg", "cd", "chdir", "command", "echo", "false", "fg", "getopts", "hash", "jobs",
    "kill", "printf", "pwd", "read", "test", "true", "type", "ulimit", "umask", "unalias", "wait"]

/-- What a name of a command stands for. -/
inductive Meaning
  | function (body : Script)
  | builtin (name : String)
  /-- A program, to be looked for in directories unless its name is a path. -/
  | program

/-- What a name of a command stands for, functions being left out where `bypass` says so. -/
def Shell.meaning (shell : Shell) (bypass : Bool) (name : Octets) : Meaning :=
  let function? := if bypass then none else shell.functions.find? (·.1 == name)
  match function? with
  | some (_, body) => .function body
  | none =>
    let text := String.ofList name
    if specialCommands.contains text || plainCommands.contains text then .builtin text
    else .program

/-- The directories in which programs are looked for when nothing else is said. -/
def standardPath : Octets :=
  "/usr/local/sbin:/usr/local/bin:/usr/sbin:/usr/bin:/sbin:/bin".toList

namespace Run

/-- Tells what a name stands for: in words, or as briefly as possible. -/
def describe (path : Octets) (wordy : Bool) (name : Octets) : Run Yield := do
  let shell ← get
  let told (words : String) : Yield :=
    { output := (if wordy then name ++ words.toList else name) ++ ['\n'] }
  if reservedWords.contains (String.ofList name) then return told " is a shell keyword"
  else
    match shell.aliases.find? (·.1 == name) with
    | some (_, text) =>
      return { output :=
        if wordy then name ++ " is an alias for ".toList ++ text ++ ['\n']
        else "alias ".toList ++ name ++ '=' :: singleQuoted text ++ ['\n'] }
    | none =>
      match shell.meaning false name with
      | .function _ => return told " is a shell function"
      | .builtin text =>
        return told (if specialCommands.contains text then " is a special shell builtin"
          else " is a shell builtin")
      | .program =>
        let tree ← ask .look
        let found? :=
          if name.contains '/' then
            if (tree.resolve name.toText).toOption.isSome then some name else none
          else regularPath? tree (candidates path name)
        match found? with
        | some found =>
          let tracked := shell.tracked.contains name
          return { output := (if wordy then
              name ++ (if tracked then " is a tracked alias for " else " is ").toList ++ found
            else found) ++ ['\n'] }
        | none =>
          return { output := if wordy then name ++ ": not found\n".toList else [], status := 127 }

/-- Tells what names stand for. -/
def describeAll (path : Octets) : List Octets → Run Yield
  | [] => return {}
  | name :: names => do
    let first ← describe path true name
    let rest ← describeAll path names
    return { output := first.output ++ rest.output, status := max first.status rest.status }

/-- The value of `PATH`. -/
def pathValue : Run Octets := return ((← get).value? "PATH".toList).getD []

/-- The command `type`. -/
def typeCommand (arguments : List Octets) : Run Yield := do describeAll (← pathValue) arguments

/-- The command `command` where it does not run one. -/
def commandCommand (arguments : List Octets) : Run Yield := do
  let (options, words) ← options "pvV" "" arguments
  let path ← if options.any (·.1 == 'p') then pure standardPath else pathValue
  match words, options.any (·.1 != 'p') with
  | name :: _, true => describe path (options.any (·.1 == 'V')) name
  | _, _ => return {}

/-- Looks for programs, so that they are known. -/
def track : List Octets → Run Nat
  | [] => return 0
  | name :: names => do
    let shell ← get
    let status ← match shell.meaning false name with
      | .program =>
        if name.contains '/' then pure 0
        else if (regularPath? (← ask .look) (candidates (← pathValue) name)).isSome then
          set { shell with tracked := name :: shell.tracked.filter (· != name) }
          pure 0
        else
          warn (name ++ ": not found".toList)
          pure 1
      | _ => pure 0
    return max status (← track names)

/-- The command `hash`. -/
def hashCommand (arguments : List Octets) : Run Yield := do
  let (options, words) ← options "r" "" arguments
  if !options.isEmpty then
    modify fun shell => { shell with tracked := [] }
    return {}
  else if words.isEmpty then
    let tree ← ask .look
    let path ← pathValue
    return { output := (← get).tracked.reverse.flatMap fun name =>
      match regularPath? tree (candidates path name) with
      | some found => found ++ ['\n']
      | none => [] }
  else return { status := ← track words }

/-! ## Aliases -/

/-- Defines or shows aliases. -/
def aliasAll : List Octets → Run Yield
  | [] => return {}
  | word :: words => do
    let name := word.takeWhile (· != '=')
    let first : Yield ← match word.drop name.length with
      | _ :: text =>
        modify fun shell => { shell with
          aliases := (name, text) :: shell.aliases.filter (·.1 != name) }
        pure {}
      | [] =>
        match (← get).aliases.find? (·.1 == name) with
        | some (_, text) => pure { output := name ++ '=' :: singleQuoted text ++ ['\n'] }
        | none =>
          act (Act.tell 2 ("alias: ".toList ++ name ++ " not found\n".toList))
          pure { status := 1 }
    let rest ← aliasAll words
    return { output := first.output ++ rest.output, status := max first.status rest.status }

/-- The command `alias`. -/
def aliasCommand (arguments : List Octets) : Run Yield := do
  if arguments.isEmpty then
    return { output := (← get).aliases.reverse.flatMap fun (name, text) =>
      name ++ '=' :: singleQuoted text ++ ['\n'] }
  else aliasAll arguments

/-- Takes away aliases. -/
def unaliasAll : List Octets → Run Nat
  | [] => return 0
  | name :: names => do
    let shell ← get
    let status ← if shell.aliases.any (·.1 == name) then pure 0
      else
        act (Act.tell 2 ("unalias: ".toList ++ name ++ " not found\n".toList))
        pure 1
    set { shell with aliases := shell.aliases.filter (·.1 != name) }
    return max status (← unaliasAll names)

/-- The command `unalias`. -/
def unaliasCommand (arguments : List Octets) : Run Yield := do
  let (options, names) ← options "a" "" arguments
  if options.isEmpty then return { status := ← unaliasAll names }
  else
    modify fun shell => { shell with aliases := [] }
    return {}

end Run

end PhaseBench.Host
