import PhaseBench.Host.Utility.Options

/-!
# Showing files

The program `cat`: the contents of files one behind the other, as they are or with
numbers before lines, marks behind them and names for characters that cannot be
seen.
-/

namespace PhaseBench.Host

namespace Cat

/-- How contents are shown. -/
structure View where
  /-- Lines are numbered. -/
  numbers : Bool := false
  /-- Empty lines are not. -/
  onlyFilled : Bool := false
  /-- Of several empty lines only one is shown. -/
  squeezes : Bool := false
  showsEnds : Bool := false
  showsTabs : Bool := false
  showsHidden : Bool := false

/-- Where the output stands: the line breaks since the last character, one less than their
number, and the number of the last line. -/
structure Place where
  breaks : Int := 0
  line : Nat := 0

namespace View

/-- The options of `cat`. -/
def options : List ProgramOption :=
  [⟨'b', "number-nonblank", false⟩, ⟨'n', "number", false⟩, ⟨'s', "squeeze-blank", false⟩,
    ⟨'v', "show-nonprinting", false⟩, ⟨'E', "show-ends", false⟩, ⟨'T', "show-tabs", false⟩,
    ⟨'A', "show-all", false⟩, ⟨'e', "", false⟩, ⟨'t', "", false⟩, ⟨'u', "", false⟩]

/-- The view that arguments ask for. -/
def ofArguments (arguments : Arguments) : View :=
  let any (letters : String) : Bool := letters.toList.any arguments.has
  { numbers := any "nb", onlyFilled := any "b", squeezes := any "s"
    showsEnds := any "EAe", showsTabs := any "TAt", showsHidden := any "vAet" }

/-- Holds for the view that changes nothing. -/
def isPlain (view : View) : Bool :=
  !(view.numbers || view.squeezes || view.showsEnds || view.showsTabs || view.showsHidden)

/-- A character other than a line break. -/
def showChar (view : View) (c : Char) (next : Option Char) : Octets :=
  let low (n : Nat) : Octets :=
    if n < 32 then ['^', Char.ofNat (n + 64)]
    else if n = 127 then ['^', '?']
    else [Char.ofNat n]
  if c == '\t' then if view.showsTabs then ['^', 'I'] else [c]
  else if view.showsHidden then
    if c.toNat < 128 then low c.toNat else ['M', '-'] ++ low (c.toNat - 128)
  else if c == '\r' && view.showsEnds && next == some '\n' then ['^', 'M']
  else [c]

/-- The number before a line. -/
def lineNumber (n : Nat) : Octets :=
  let digits := Octets.ofNat n
  List.replicate (6 - digits.length) ' ' ++ digits ++ ['\t']

/-- Shows octets from a place on, what was shown before being in reverse. -/
def showFrom (view : View) : Place → Octets → Octets → Octets × Place
  | place, shown, [] => (shown.reverse, place)
  | place, shown, c :: rest =>
    if c == '\n' then
      let breaks := min 2 (place.breaks + 1)
      let place := { place with breaks }
      if breaks = 2 && view.squeezes then showFrom view place shown rest
      else
        let numbered := breaks > 0 && view.numbers && !view.onlyFilled
        let place := if numbered then { place with line := place.line + 1 } else place
        let before := if numbered then lineNumber place.line else []
        let ending : Octets := if view.showsEnds then ['$', '\n'] else ['\n']
        showFrom view place ((before ++ ending).reverse ++ shown) rest
    else
      let numbered := place.breaks ≥ 0 && view.numbers
      let place := { breaks := -1, line := if numbered then place.line + 1 else place.line }
      let before := if numbered then lineNumber place.line else []
      showFrom view place ((before ++ view.showChar c rest.head?).reverse ++ shown) rest

end View

/-- The number of octets that are read at once. -/
def blockSize : Nat := 131072

/-- Copies an open file to standard output. Without a result the output failed. -/
def copy (program name : Octets) (view : View) (descriptor : Nat) :
    Nat → Place → Act (Option (Bool × Place))
  | 0, _ => Act.hang
  | fuel + 1, place => do
    match ← Act.ask (.read descriptor blockSize) with
    | .error error =>
      Act.complain program (shownName name ++ Octets.ofText (": " ++ error.description.1))
      return some (false, place)
    | .ok bytes =>
      if bytes.isEmpty then return some (true, place)
      else
        let (bytes, place) :=
          if view.isPlain then (bytes, place)
          else
            let (shown, place) := view.showFrom place [] (Octets.ofBytes bytes)
            (Octets.toBytes shown, place)
        match ← Act.writeBytes 1 (bytes.size + 1) bytes with
        | .error error =>
          Act.complain program (Octets.ofText ("write error: " ++ error.description.1))
          return none
        | .ok () => copy program name view descriptor fuel place

/-- Holds when copying a file to standard output would never end, as it is the same file. -/
def feedsItself (tree : Tree) (input output : Option OpenFile) : Bool :=
  match input, output with
  | some { channel := .file source, offset := place, .. },
    some { channel := .file sink, offset := target, appends, .. } =>
    source == sink &&
      let size := match tree.node? sink with
        | some (.file content) => content.size
        | _ => 0
      place < (if appends then size else target)
  | _, _ => false

/-- Shows files in turn. -/
def files (program : Octets) (view : View) (fuel : Nat) : Bool → Place → List Octets → Act Nat
  | good, _, [] => return if good then 0 else 1
  | good, place, name :: names => do
    let opened : Except OsError Nat ←
      if name = ['-'] then pure (.ok 0) else Act.openRead name.toText
    match opened with
    | .error error =>
      Act.complain program (shownName name ++ Octets.ofText (": " ++ error.description.1))
      files program view fuel false place names
    | .ok descriptor =>
      let input ← Act.ask (.inspect descriptor)
      let output ← Act.ask (.inspect 1)
      let tree ← Act.ask .look
      if feedsItself tree input output then
        Act.complain program (shownName name ++ ": input file is output file".toList)
        unless descriptor = 0 do Act.ask (.close descriptor)
        files program view fuel false place names
      else
        match ← copy program name view descriptor fuel place with
        | none => return 1
        | some (read, place) =>
          unless descriptor = 0 do Act.ask (.close descriptor)
          files program view fuel (good && read) place names

end Cat

/-- The program `cat`. -/
def cat (fuel : Nat) (program : Octets) (arguments : List Octets) : Act Nat := do
  match Arguments.read Cat.View.options arguments with
  | .error message => Act.misuse program message.toList
  | .ok arguments =>
    match ← Act.ask (.inspect 1) with
    | none =>
      Act.complain program "standard output: Bad file descriptor".toList
      return 1
    | some _ =>
      Cat.files program (Cat.View.ofArguments arguments) fuel true {}
        (if arguments.operands.isEmpty then [['-']] else arguments.operands)

end PhaseBench.Host
