import PhaseBench.Host.Arithmetic
import PhaseBench.Host.Field
import PhaseBench.Host.Shell.Basic

/-!
# Expansion

What becomes of the words of a command: parameters, arithmetic expressions and
commands in them are replaced by what they stand for, and the result is cut into
fields or taken as one text or pattern.
-/

namespace PhaseBench.Host

/-- How a word is expanded. -/
structure Manner where
  /-- The result is cut into fields. -/
  splits : Bool
  /-- The word stands inside of an expansion, so that its own text is cut too. -/
  inside : Bool := false
  /-- The word is the value of an assignment, in which a tilde may follow a colon. -/
  assigned : Bool := false

/-! ## Home directories -/

/-- The directory of a user, the current one for an empty name. -/
def homeOf? (shell : Shell) (user : Octets) : Option Octets :=
  if user.isEmpty then shell.value? "HOME".toList
  else if user == "root".toList then some "/root".toList
  else none

/-- The glyphs of a text at whose beginning a tilde is replaced. Behind the name of a user must
come a slash or the end of the word, or in an assignment a colon. -/
def tildeGlyphs (shell : Shell) (manner : Manner) (more : Bool) (text : Octets) : List Glyph :=
  let plain := Glyph.literal manner.inside false text
  match text with
  | '~' :: rest =>
    let ends (c : Char) : Bool := c == '/' || (manner.assigned && c == ':')
    let user := rest.takeWhile fun c => !ends c
    let behind := rest.drop user.length
    if more && behind.isEmpty then plain
    else
      match homeOf? shell user with
      | some home =>
        Glyph.literal manner.inside true home ++ Glyph.literal manner.inside false behind
      | none => plain
  | _ => plain

/-- Cuts an unquoted text of an assignment before each colon. -/
def cutColons (text : Octets) : List Octets :=
  text.foldr (fun c parts =>
    if c == ':' then [] :: match parts with
      | [] => [[c]]
      | part :: rest => (c :: part) :: rest
    else match parts with
      | [] => [[c]]
      | part :: rest => (c :: part) :: rest) [[]]

/-- The glyphs of an unquoted text, its tildes being replaced: one at the beginning of the word,
and in an assignment those behind colons. -/
def plainGlyphs (shell : Shell) (manner : Manner) (start more : Bool) (text : Octets) :
    List Glyph :=
  if !text.contains '~' then Glyph.literal manner.inside false text
  else
    let first (text : Octets) (more : Bool) : List Glyph :=
      if start then tildeGlyphs shell manner more text else Glyph.literal manner.inside false text
    if !manner.assigned then first text more
    else
      let parts := cutColons text
      let last := parts.length - 1
      parts.zipIdx.flatMap fun (part, place) =>
        let more := more && place = last
        match part with
        | ':' :: behind =>
          Glyph.literal manner.inside false [':'] ++ tildeGlyphs shell manner more behind
        | part => first part more

/-! ## Parameters -/

/-- What is said about a parameter that has no value when nothing else is to be said. -/
def unsetMessage (orEmpty : Bool) : Octets :=
  "parameter not set".toList ++ if orEmpty then " or null".toList else []

/-- The value of a parameter as text. -/
def Shell.text? (shell : Shell) (name : Octets) : Option Octets :=
  if name = ['@'] || name = ['*'] then
    some (Octets.intercalate (shell.separators.take 1) shell.positional)
  else shell.parameter? name

/-- The glyphs of a parameter. -/
def parameterGlyphs (manner : Manner) (quoted : Bool) (name : Octets) (positional : List Octets)
    (value : Octets) : List Glyph :=
  if manner.splits && (name = ['@'] || (name = ['*'] && !quoted)) then
    ((positional.map (Glyph.expanded quoted)).intersperse [.boundary]).flatten
  else Glyph.expanded quoted value

/-- Changes the first or the last member of a list. -/
def changeEnd {α : Type} (atEnd : Bool) (f : α → α) : List α → List α
  | [] => []
  | [only] => [f only]
  | first :: rest => if atEnd then first :: changeEnd atEnd f rest else f first :: rest

mutual

/-- Expands the pieces of a word, commands in it by `substitute`. At the `start` of a word a
tilde stands for a directory. -/
def expandPieces (substitute : Option Script → Run Octets) (manner : Manner) (start : Bool) :
    List Piece → Run (List Glyph)
  | [] => return []
  | piece :: pieces => do
    let first ← match piece with
      | .text false text => pure (plainGlyphs (← get) manner start (!pieces.isEmpty) text)
      | _ => expandPiece substitute manner piece
    let rest ← expandPieces substitute manner false pieces
    return first ++ rest

/-- Expands a piece of a word. -/
def expandPiece (substitute : Option Script → Run Octets) (manner : Manner) :
    Piece → Run (List Glyph)
  | .text quoted text => return Glyph.literal manner.inside quoted text
  | .arithmetic quoted pieces => do
    let text := Glyph.text (← expandPieces substitute { splits := false } false pieces)
    match Arithmetic.value (← get).value? text with
    | .ok (value, changes) =>
      for (name, value) in changes do Run.assign name value
      return Glyph.expanded quoted (Octets.ofInt value)
    | .error (.expression reason) =>
      Run.fail ("arithmetic expression: ".toList ++ reason.toList ++ ": \"".toList ++ text ++ ['"'])
    | .error (.number text) => Run.badNumber text
  | .command quoted body => do return Glyph.expanded quoted (← substitute body)
  | .parameter quoted name use => expandUse substitute manner quoted name use

/-- Expands a parameter. -/
def expandUse (substitute : Option Script → Run Octets) (manner : Manner) (quoted : Bool)
    (name : Octets) : ParameterUse → Run (List Glyph)
  | .unknown => Run.fail "Bad substitution".toList
  | .value => do
    let shell ← get
    let value? := shell.text? name
    requireSet shell value?
    return parameterGlyphs manner quoted name shell.positional (value?.getD [])
  | .length => do
    let shell ← get
    let value? := shell.text? name
    requireSet shell value?
    return Glyph.expanded quoted (Octets.ofNat (value?.getD []).length)
  | .otherwise orEmpty word => do
    let shell ← get
    let value? := shell.text? name
    if present orEmpty value? then
      return parameterGlyphs manner quoted name shell.positional (value?.getD [])
    else expandPieces substitute { manner with inside := true } true word
  | .instead orEmpty word => do
    let shell ← get
    if present orEmpty (shell.text? name) then
      expandPieces substitute { manner with inside := true } true word
    else return Glyph.expanded quoted []
  | .demand orEmpty word => do
    let shell ← get
    let value? := shell.text? name
    if present orEmpty value? then
      return parameterGlyphs manner quoted name shell.positional (value?.getD [])
    else
      let message := Glyph.text (← expandPieces substitute { manner with splits := false } true word)
      Run.fail (name ++ ": ".toList ++ if word.isEmpty then unsetMessage orEmpty else message)
  | .assign orEmpty word => do
    let shell ← get
    let value? := shell.text? name
    if present orEmpty value? then
      return parameterGlyphs manner quoted name shell.positional (value?.getD [])
    else
      let value := Glyph.text (← expandPieces substitute { manner with splits := false } true word)
      if !isName name then Run.fail (name ++ ": bad variable name".toList)
      Run.assign name value
      return Glyph.expanded quoted value
  | .trim atEnd longest pattern => do
    let shell ← get
    let value? := shell.text? name
    requireSet shell value?
    match value? with
    | none => return parameterGlyphs manner quoted name shell.positional []
    | some value =>
      let globs := Glob.ofMarked
        (Glyph.marked (← expandPieces substitute { manner with splits := false } true pattern))
      let trim := Glob.trim globs atEnd longest
      return parameterGlyphs manner quoted name (changeEnd atEnd trim shell.positional) (trim value)
where
  /-- Holds for a value that counts as one. -/
  present (orEmpty : Bool) (value? : Option Octets) : Bool :=
    match value? with
    | none => false
    | some value => !(orEmpty && value.isEmpty)
  /-- Fails for a parameter without a value when that is asked for. -/
  requireSet (shell : Shell) (value? : Option Octets) : Run Unit :=
    if value?.isNone && shell.has 'u' then
      Run.fail (name ++ ": ".toList ++ unsetMessage false)
    else return

end

/-! ## Words -/

namespace Run

/-- Expands a word to one text. -/
def expandText (substitute : Option Script → Run Octets) (assignment : Bool) (word : Word) :
    Run Octets := do
  let manner : Manner := { splits := false, assigned := assignment }
  return Glyph.text (← expandPieces substitute manner true word)

/-- Expands a word to a pattern. -/
def expandPattern (substitute : Option Script → Run Octets) (word : Word) : Run (List Glob) := do
  return Glob.ofMarked (Glyph.marked (← expandPieces substitute { splits := false } true word))

/-- Expands a word to fields. -/
def expandFields (substitute : Option Script → Run Octets) (word : Word) : Run (List Octets) := do
  let glyphs ← expandPieces substitute { splits := true } true word
  let shell ← get
  let fields := cutFields shell.separators glyphs
  if shell.has 'f' || !fields.any Glob.isPattern then return fields.map fun field => field.map (·.1)
  else
    let tree ← ask .look
    return fields.flatMap (pathsOf tree)

/-- Expands words to fields. -/
def expandAll (substitute : Option Script → Run Octets) : List Word → Run (List Octets)
  | [] => return []
  | word :: words => do
    let first ← expandFields substitute word
    let rest ← expandAll substitute words
    return first ++ rest

end Run

end PhaseBench.Host
