import PhaseBench.Host.Shell.Builtin.Basic

/-!
# Commands about variables

The built-in commands that set, mark, show and take away variables, positional
parameters and options.
-/

namespace PhaseBench.Host

/-! ## Marks -/

/-- The name and the value of an argument that may be an assignment. -/
def cutAssignment (argument : Octets) : Octets × Option Octets :=
  let name := argument.takeWhile (· != '=')
  match argument.drop name.length with
  | _ :: value => (name, some value)
  | [] => (name, none)

/-- Variables as the shell shows them, in the order of their names. -/
def shownBindings (word : Octets) (bindings : Bindings) : Octets :=
  let sorted := bindings.mergeSort fun a b => !(decide (b.1 < a.1))
  sorted.flatMap fun (name, entry) =>
    word ++ (if word.isEmpty then [] else [' ']) ++ name ++
      (match entry.value with
        | some value => '=' :: singleQuoted value
        | none => []) ++ ['\n']

namespace Run

/-- Gives variables values and marks them. -/
def declare (mark : Variable → Variable) : List Octets → Run Unit
  | [] => return
  | argument :: rest => do
    let (name, value?) := cutAssignment argument
    if !isName name then badName name
    match value? with
    | some value => assign name value
    | none => pure ()
    let shell ← get
    set (shell.bind name (mark ((shell.binding? name).getD {})))
    declare mark rest

/-- The commands `export` and `readonly`. -/
def markCommand (word : String) (mark : Variable → Variable) (marked : Variable → Bool)
    (arguments : List Octets) : Run Yield := do
  let (options, names) ← options "p" "" arguments
  if options.isEmpty && !names.isEmpty then
    declare mark names
    return {}
  else
    return { output := shownBindings word.toList ((← get).bindings.filter (marked ·.2)) }

/-- Gives variables values that last as long as the innermost function. -/
def declareLocal : List Octets → Run Unit
  | [] => return
  | argument :: rest => do
    let (name, value?) := cutAssignment argument
    if !isName name then badName name
    remember name
    match value? with
    | some value => assign name value
    | none =>
      let shell ← get
      if (shell.binding? name).isNone then set (shell.bind name {})
    declareLocal rest

/-- The command `local`. -/
def localCommand (arguments : List Octets) : Run Yield := do
  if (← get).locals.isEmpty then fail "not in a function".toList
  declareLocal arguments
  return {}

/-- Takes away variables. -/
def unsetAll : List Octets → Run Unit
  | [] => return
  | name :: rest => do
    if !isName name then badName name
    unset name
    unsetAll rest

/-- The command `unset`. -/
def unsetCommand (arguments : List Octets) : Run Yield := do
  let (options, names) ← options "vf" "" arguments
  if options.getLast?.map (·.1) == some 'f' then
    modify fun shell => { shell with
      functions := shell.functions.filter fun entry => !names.contains entry.1 }
  else unsetAll names
  return {}

/-! ## Positional parameters and options -/

/-- The command `shift`. -/
def shiftCommand (arguments : List Octets) : Run Yield := do
  let count ← match arguments with
    | [] => pure 1
    | text :: _ => number text
  let shell ← get
  if shell.positional.length < count then fail "can\x27t shift that many".toList
  set { shell with
    positional := shell.positional.drop count, optionIndex := 1, optionPlace := none }
  return {}

end Run

/-- The options of a shell as they are being read. -/
structure OptionReading where
  options : List Char
  /-- The script is the first argument. -/
  asCommand : Bool := false
  /-- What the options are asked to be shown as. -/
  listing : Octets := []
  /-- The positional parameters are to be taken away. -/
  clears : Bool := false
  rest : List Octets := []

namespace OptionReading

/-- Sets or takes back an option. -/
def put (reading : OptionReading) (letter : Char) (on : Bool) : OptionReading :=
  let others := reading.options.filter (· != letter)
  { reading with options := if on then letter :: others else others }

/-- The options as they are shown: to be read, or to be run. -/
def list (options : List Char) (toRead : Bool) : Octets :=
  let entries := Shell.optionNames.map fun (name, letter) => (name, options.contains letter)
  let entries := entries ++ [("nolog", false), ("debug", false)]
  if toRead then
    "Current option settings\n".toList ++ entries.flatMap fun (name, on) =>
      name.toList ++ List.replicate (16 - name.length) ' ' ++
        (if on then "on\n" else "off\n").toList
  else
    entries.flatMap fun (name, on) =>
      (if on then "set -o " else "set +o ").toList ++ name.toList ++ ['\n']

/-- Reads the letters of a word; a letter may take the next argument. -/
def readLetters (start on : Bool) : Octets → List Octets → OptionReading →
    Except Octets (OptionReading × List Octets)
  | [], arguments, reading => .ok (reading, arguments)
  | c :: letters, arguments, reading =>
    if start && c == 'c' then readLetters start on letters arguments { reading with asCommand := true }
    else if start && c == 'l' then readLetters start on letters arguments reading
    else if c == 'o' then
      match arguments with
      | [] => readLetters start on letters []
          { reading with listing := reading.listing ++ list reading.options on }
      | name :: arguments =>
        let name := String.ofList name
        if name = "nolog" || name = "debug" then readLetters start on letters arguments reading
        else
          match Shell.optionNames.find? (·.1 == name) with
          | some (_, letter) => readLetters start on letters arguments (reading.put letter on)
          | none => .error ("Illegal option -o ".toList ++ name.toList)
    else if Shell.optionLetters.contains c then
      readLetters start on letters arguments (reading.put c on)
    else .error ("Illegal option -".toList ++ [c])

/-- Reads arguments as long as they are options, of a shell that starts or of the command
`set`. -/
def read (start : Bool) : Nat → List Octets → OptionReading → Except Octets OptionReading
  | 0, rest, reading => .ok { reading with rest }
  | fuel + 1, arguments, reading =>
    match arguments with
    | ['-'] :: rest =>
      .ok (if start then { reading with rest }
        else { (reading.put 'x' false).put 'v' false with rest })
    | ['-', '-'] :: rest => .ok { reading with rest, clears := rest.isEmpty }
    | ('-' :: letters) :: rest =>
      match readLetters start true letters rest reading with
      | .ok (reading, rest) => read start fuel rest reading
      | .error message => .error message
    | ('+' :: letters) :: rest =>
      match readLetters start false letters rest reading with
      | .ok (reading, rest) => read start fuel rest reading
      | .error message => .error message
    | rest => .ok { reading with rest }

end OptionReading

namespace Run

/-- The command `set`. -/
def setCommand (arguments : List Octets) : Run Yield := do
  let shell ← get
  if arguments.isEmpty then
    return { output := shownBindings [] (shell.bindings.filter (·.2.value.isSome)) }
  else
    match OptionReading.read false (arguments.length + 1) arguments { options := shell.options } with
    | .error message => fail message
    | .ok reading =>
      set { shell with options := reading.options }
      if !reading.rest.isEmpty || reading.clears then
        modify fun shell => { shell with
          positional := reading.rest, optionIndex := 1, optionPlace := none }
      return { output := reading.listing }

/-! ## Options of scripts -/

/-- Whether a letter is an option, and whether it takes a value. -/
def optionKind? (letter : Char) : Octets → Option Bool
  | [] => none
  | c :: ':' :: rest => if c == letter then some true else optionKind? letter rest
  | c :: rest => if c == letter then some false else optionKind? letter rest

/-- Sets a variable, or takes it away. -/
def assign? (name : Octets) : Option Octets → Run Unit
  | some value => assign name value
  | none => unset name

/-- The command `getopts`. -/
def getoptsCommand (arguments : List Octets) : Run Yield := do
  match ← operands arguments with
  | letters :: name :: given =>
    let shell ← get
    let words := if given.isEmpty then shell.positional else given
    let fresh := words.length + 1 < shell.optionIndex
    let index := if fresh then 1 else shell.optionIndex
    let place? := if fresh then none else shell.optionPlace
    -- What is left of the argument before, then the next argument.
    let left : Octets := match place? with
      | some place => if index ≤ 1 then [] else ((words[index - 2]?).getD []).drop place
      | none => []
    let settle (option : Char) (index : Nat) (place? : Option Nat) (status : Nat) : Run Yield := do
      modify fun shell => shell.bind "OPTIND".toList { value := some (Octets.ofNat index) }
      if !isName name then badName name
      assign name [option]
      modify fun shell => { shell with optionIndex := index, optionPlace := place? }
      return { status }
    let silent := letters.head? == some ':'
    -- An option with what follows it in its argument, which ends before the given index.
    let handle (option : Char) (behind : Octets) (index : Nat) : Run Yield := do
      let whole := (words[index - 2]?).getD []
      let place? := some (whole.length - behind.length)
      let complain (message : String) : Run Unit := do
        if silent then assign "OPTARG".toList [option]
        else
          act (Act.tell 2 message.toList)
          unset "OPTARG".toList
      match optionKind? option letters with
      | none =>
        complain ("Illegal option -" ++ String.ofList [option] ++ "\n")
        settle '?' index place? 0
      | some false =>
        assign "OPTARG".toList []
        settle option index place? 0
      | some true =>
        match behind, words[index - 1]? with
        | [], none =>
          complain ("No arg for -" ++ String.ofList [option] ++ " option\n")
          settle (if silent then ':' else '?') index none 0
        | [], some value =>
          assign "OPTARG".toList value
          settle option (index + 1) none 0
        | value, _ =>
          assign "OPTARG".toList value
          settle option index none 0
    match left with
    | option :: behind => handle option behind index
    | [] =>
      match words[index - 1]? with
      | some ['-', '-'] => settle '?' (index + 1) none 1
      | some ('-' :: option :: behind) => handle option behind (index + 1)
      | _ => settle '?' index none 1
  | _ => fail "Usage: getopts optstring var [arg...]".toList

end Run

end PhaseBench.Host
