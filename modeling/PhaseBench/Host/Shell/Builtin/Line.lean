import PhaseBench.Host.Shell.Builtin.Basic

/-!
# Reading lines

The built-in command `read` takes a line and gives its fields to variables, the last
of them all that is left. An octet behind a backslash separates no fields.
-/

namespace PhaseBench.Host

/-! ## Fields of a line -/

/-- A line being cut into a number of fields at most. -/
structure LineCutting where
  /-- The finished fields in reverse. -/
  fields : List Octets := []
  /-- The current field in reverse. -/
  current : Octets := []
  /-- The current field without what would be dropped if the line ended here. -/
  kept? : Option Octets := none
  /-- A blank has just ended a field. -/
  afterBlank : Bool := false
  /-- The number of fields that may still begin. -/
  remaining : Nat

namespace LineCutting

/-- Adds an octet; `escaped` tells that a backslash stood before it. -/
def add (separators : Octets) (cutting : LineCutting) (octet : Char × Bool) : LineCutting :=
  let (c, escaped) := octet
  if escaped then { cutting with current := c :: cutting.current, afterBlank := false }
  else
    let separates := separators.contains c
    let blank := separates && (c == ' ' || c == '\t' || c == '\n')
    if cutting.remaining = 0 then
      if blank then
        { cutting with
          kept? := cutting.kept?.or (some cutting.current), current := c :: cutting.current }
      else
        { cutting with
          kept? := if separates && cutting.afterBlank then cutting.kept? else none
          current := c :: cutting.current, afterBlank := false }
    else if cutting.afterBlank then
      { cutting with current := if separates then [] else [c], afterBlank := blank }
    else if separates then
      if blank && cutting.current.isEmpty then cutting
      else if cutting.remaining = 1 then
        { cutting with
          remaining := 0, kept? := some cutting.current
          current := c :: cutting.current, afterBlank := blank }
      else
        { cutting with
          fields := cutting.current.reverse :: cutting.fields, current := []
          remaining := cutting.remaining - 1, afterBlank := blank }
    else { cutting with current := c :: cutting.current }

/-- The fields when the line has ended. -/
def finish (cutting : LineCutting) : List Octets :=
  let last := (cutting.kept?.getD cutting.current).reverse
  (if last.isEmpty then cutting.fields else last :: cutting.fields).reverse

end LineCutting

/-- Cuts a line into a number of fields at most. -/
def cutLine (separators : Octets) (count : Nat) (line : List (Char × Bool)) : List Octets :=
  (line.foldl (LineCutting.add separators) { remaining := count }).finish

/-! ## Lines -/

/-- A line as far as it has been read: in reverse, whether a backslash came last, and whether
its end has come. -/
structure LineReading where
  octets : List (Char × Bool) := []
  escape : Bool := false
  ended : Bool := false

/-- Adds an octet to a line. -/
def LineReading.add (raw : Bool) (reading : LineReading) (c : Char) : LineReading :=
  if c == '\x00' then reading
  else if reading.escape then
    { reading with
      octets := if c == '\n' then reading.octets else (c, true) :: reading.octets
      escape := false }
  else if !raw && c == '\\' then { reading with escape := true }
  else if c == '\n' then { reading with ended := true }
  else { reading with octets := (c, false) :: reading.octets }

namespace Run

/-- Reads a line from standard input and tells whether its end came. -/
def readLine (raw : Bool) : Nat → LineReading → Run (List (Char × Bool) × Bool)
  | 0, _ => act Act.hang
  | fuel + 1, reading => do
    match ← ask (.readLine 0) with
    | .ok bytes =>
      if bytes.isEmpty then return (reading.octets.reverse, false)
      else
        let reading := (Octets.ofBytes bytes).foldl (LineReading.add raw) reading
        if reading.ended then return (reading.octets.reverse, true) else readLine raw fuel reading
    | .error _ => return (reading.octets.reverse, false)

/-- Gives variables the fields of a line, empty ones where there are no more. -/
def assignFields : List Octets → List Octets → Run Unit
  | [], _ => return
  | name :: names, fields => do
    if !isName name then badName name
    assign name (fields.head?.getD [])
    assignFields names fields.tail

/-- The command `read`. -/
def readCommand (engine : Engine) (arguments : List Octets) : Run Yield := do
  let (options, names) ← options "r" "p" arguments
  if names.isEmpty then fail "arg count".toList
  let (line, ended) ← readLine (options.any (·.1 == 'r')) engine.fuel {}
  assignFields names (cutLine (← get).separators names.length line)
  return { status := if ended then 0 else 1 }

end Run

end PhaseBench.Host
