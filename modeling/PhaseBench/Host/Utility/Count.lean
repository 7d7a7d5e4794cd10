import PhaseBench.Host.Utility.Head

/-!
# Counting

The program `wc`: the numbers of lines, words and octets in files, and the length of
the longest line.
-/

namespace PhaseBench.Host

/-- What was counted. -/
structure Tally where
  lines : Nat := 0
  words : Nat := 0
  octets : Nat := 0
  longest : Nat := 0

namespace Tally

/-- A tally that is still going on: whether a word has begun, and the column. -/
structure Progress where
  tally : Tally := {}
  inWord : Bool := false
  column : Nat := 0

/-- Counts an octet. A word begins with a character that can be seen. -/
def Progress.add (progress : Progress) (byte : UInt8) : Progress :=
  let c := Char.ofNat byte.toNat
  let visible := 0x20 < c.toNat && c.toNat < 0x7F
  let tally := progress.tally
  let column :=
    if c == '\n' || c == '\r' || c == '\x0c' then 0
    else if c == '\t' then progress.column + 8 - progress.column % 8
    else if visible || c == ' ' then progress.column + 1
    else progress.column
  { tally := {
      lines := if c == '\n' then tally.lines + 1 else tally.lines
      words := if visible && !progress.inWord then tally.words + 1 else tally.words
      octets := tally.octets + 1
      longest := max tally.longest column }
    inWord := !Octets.isSpace c && (visible || progress.inWord)
    column }

/-- The sum of two tallies; of two lengths the greater counts. -/
def add (a b : Tally) : Tally :=
  ⟨a.lines + b.lines, a.words + b.words, a.octets + b.octets, max a.longest b.longest⟩

end Tally

/-- The counts that are shown. -/
structure Counts where
  lines : Bool := false
  words : Bool := false
  characters : Bool := false
  octets : Bool := false
  longest : Bool := false

namespace Counts

/-- The options of `wc`. -/
def options : List ProgramOption :=
  [⟨'c', "bytes", false⟩, ⟨'m', "chars", false⟩, ⟨'l', "lines", false⟩,
    ⟨'L', "max-line-length", false⟩, ⟨'w', "words", false⟩, ⟨'t', "total", true⟩]

/-- The counts that arguments ask for; by themselves lines, words and octets. -/
def ofArguments (arguments : Arguments) : Counts :=
  if "lwmcL".toList.any arguments.has then
    ⟨arguments.has 'l', arguments.has 'w', arguments.has 'm', arguments.has 'c', arguments.has 'L'⟩
  else { lines := true, words := true, octets := true }

/-- The number of counts that are shown. -/
def shown (counts : Counts) : Nat :=
  [counts.lines, counts.words, counts.characters, counts.octets, counts.longest].countP id

/-- A line of the output. -/
def line (counts : Counts) (width : Nat) (tally : Tally) (name? : Option Octets) : Octets :=
  let numbers :=
    (if counts.lines then [tally.lines] else []) ++ (if counts.words then [tally.words] else []) ++
    (if counts.characters then [tally.octets] else []) ++
    (if counts.octets then [tally.octets] else []) ++
    (if counts.longest then [tally.longest] else [])
  let columns := numbers.map fun n =>
    let digits := Octets.ofNat n
    List.replicate (width - digits.length) ' ' ++ digits
  let name := match name? with
    | some name => ' ' :: name
    | none => []
  Octets.intercalate [' '] columns ++ name ++ ['\n']

end Counts

namespace Count

/-- When a line for all files together is shown. -/
inductive Total
  | several
  | always
  | only
  | never
deriving DecidableEq

/-- The total that an option asks for. -/
def total? (text : Octets) : Option Total :=
  let fitting := [("auto", Total.several), ("always", .always), ("only", .only), ("never", .never)]
    |>.filter fun entry => text.isPrefixOf entry.1.toList
  let exact := fitting.filter fun entry => entry.1.toList == text
  match exact, fitting with
  | [(_, total)], _ => some total
  | _, [(_, total)] => some total
  | _, _ => none

/-- Counts what an open file holds, up to an error. -/
def tally (descriptor : Nat) : Nat → Tally.Progress → Act (Tally × Option OsError)
  | 0, _ => Act.hang
  | fuel + 1, progress => do
    match ← Act.ask (.read descriptor 16384) with
    | .error error => return (progress.tally, some error)
    | .ok bytes =>
      if bytes.isEmpty then return (progress.tally, none)
      else tally descriptor fuel (bytes.foldl Tally.Progress.add progress)

/-- The width of the columns for open files that are regular, with their sizes, or not. -/
def width (files : List (Option Nat)) : Nat :=
  let size := files.foldr (fun file sum => file.getD 0 + sum) 0
  max (Octets.ofNat size).length (if files.any (·.isNone) then 7 else 1)

/-- The size of a regular file, nothing for another one. -/
def size? : Node → Option Nat
  | .file content => some content.size
  | .program _ => some 0
  | _ => none

/-- The size of the open file that is standard input. -/
def inputSize? (tree : Tree) (file? : Option OpenFile) : Option Nat :=
  match file? with
  | some { channel := .file location, .. } => (tree.node? location).bind size?
  | _ => none

/-- Counts files in turn and shows the counts. -/
def files (program : Octets) (fuel : Nat) (counts : Counts) (width : Nat) (shows : Bool) :
    Nat → Tally → List (Option Octets) → Act (Nat × Tally)
  | code, sum, [] => return (code, sum)
  | code, sum, name? :: names => do
    let standard := name? = none || name? = some ['-']
    let name := name?.getD []
    if name? = some [] then
      Act.complain program "invalid zero-length file name".toList
      files program fuel counts width shows 1 sum names
    else
      let opened : Except OsError Nat ←
        if standard then pure (.ok 0) else Act.openRead name.toText
      match opened with
      | .error error =>
        Act.complain program (shownName name ++ Octets.ofText (": " ++ error.description.1))
        files program fuel counts width shows 1 sum names
      | .ok descriptor =>
        let (tally, error?) ← tally descriptor fuel {}
        let code ← match error? with
          | none => pure code
          | some error => do
            let shown := if standard then "\x27standard input\x27".toList else shownName name
            Act.complain program (shown ++ Octets.ofText (": " ++ error.description.1))
            pure 1
        unless standard do Act.ask (.close descriptor)
        let good ← if shows then Act.print program (counts.line width tally name?) else pure true
        files program fuel counts width shows (if good then code else 1) (sum.add tally) names

end Count

/-- The program `wc`. -/
def wc (fuel : Nat) (program : Octets) (arguments : List Octets) : Act Nat := do
  match Arguments.read Counts.options arguments with
  | .error message => Act.misuse program message.toList
  | .ok arguments =>
    let totals := (arguments.options.filter (·.1 == 't')).map (·.2)
    match totals.find? fun text => (Count.total? text).isNone with
    | some text =>
      Act.misuse program ("invalid argument ".toList ++ quotedText text ++
        " for \x27--total\x27\nValid arguments are:\n  - \x27auto\x27\n  - \x27always\x27\n".toList ++
        "  - \x27only\x27\n  - \x27never\x27".toList)
    | none =>
      let total := (totals.getLast?.bind Count.total?).getD .several
      let counts := Counts.ofArguments arguments
      let names := if arguments.operands.isEmpty then [none] else arguments.operands.map some
      let tree ← Act.ask .look
      let input ← Act.ask (.inspect 0)
      let sizes := names.filterMap fun name? =>
        match name? with
        | none => some (Count.inputSize? tree input)
        | some ['-'] => some (Count.inputSize? tree input)
        | some name =>
          match tree.resolve name.toText with
          | .ok (_, node) => some (Count.size? node)
          | .error _ => none
      let width :=
        if total = .only then 1
        else if names.length = 1 && counts.shown = 1 then 1
        else Count.width sizes
      let (code, sum) ← Count.files program fuel counts width (total != .only) 0 {} names
      let shows : Bool := match total with
        | .several => names.length > 1
        | .never => false
        | _ => true
      if shows then
        let name? := if total = .only then none else some "total".toList
        let good ← Act.print program (counts.line width sum name?)
        return if good then code else 1
      else return code

end PhaseBench.Host
