import PhaseBench.Host.Utility.Options

/-!
# Beginnings of files

The program `head`: the first lines or octets of files, or all but the last ones.
-/

namespace PhaseBench.Host

namespace Head

/-- How much of a file is shown. -/
structure Extent where
  /-- Lines are counted, not octets. -/
  lines : Bool := true
  count : Nat := 10
  /-- The count is what is left out at the end. -/
  allBut : Bool := false

/-- What is asked of `head`. -/
structure Job where
  extent : Extent := {}
  /-- Whether names are shown before contents; by themselves they are for several files. -/
  titled : Option Bool := none
  /-- The octet that ends a line. -/
  separator : Char := '\n'

/-- The options of `head`. -/
def options : List ProgramOption :=
  [⟨'c', "bytes", true⟩, ⟨'n', "lines", true⟩, ⟨'q', "quiet", false⟩, ⟨'q', "silent", false⟩,
    ⟨'v', "verbose", false⟩, ⟨'z', "zero-terminated", false⟩]

/-- The factor that a letter behind a count stands for. -/
def factor? : Octets → Option Nat
  | [] => some 1
  | ['b'] => some 512
  | letter :: behind =>
    let powers := "KMGTPEZYRQ".toList
    match powers.findIdx? (· == letter.toUpper) with
    | none => none
    | some place =>
      if letter.isLower && !(letter == 'k' || letter == 'm') then none
      else
        match behind with
        | [] => some (Nat.pow 1024 (place + 1))
        | ['i', 'B'] => some (Nat.pow 1024 (place + 1))
        | ['B'] => some (Nat.pow 1000 (place + 1))
        | _ => none

/-- The number of a count with a factor; the text of an error otherwise. -/
def count (text : Octets) : Except String Nat :=
  let trimmed := text.dropWhile Octets.isSpace
  let trimmed := match trimmed with
    | '+' :: rest => rest
    | rest => rest
  let digits := trimmed.takeWhile Char.isDigit
  match Octets.toNat? digits, factor? (trimmed.dropWhile Char.isDigit) with
  | some n, some factor =>
    if n * factor < Nat.pow 2 64 then .ok (n * factor)
    else .error ": Value too large for defined data type"
  | _, _ => .error ""

/-- The extent of a count, a negative one leaving something out. -/
def extent (lines : Bool) (text : Octets) : Except String Extent :=
  let (allBut, digits) := match text with
    | '-' :: rest => (true, rest)
    | rest => (false, rest)
  match count digits with
  | .ok count => .ok { lines, count, allBut }
  | .error reason =>
    .error ("invalid number of " ++ (if lines then "lines" else "bytes") ++ ": " ++
      String.ofList (quotedText digits) ++ reason)

/-- The job that options describe. -/
def job : Job → List (Char × Octets) → Except String Job
  | job, [] => .ok job
  | current, (letter, value) :: rest =>
    match letter with
    | 'c' => do job { current with extent := ← extent false value } rest
    | 'n' => do job { current with extent := ← extent true value } rest
    | 'q' => job { current with titled := some false } rest
    | 'v' => job { current with titled := some true } rest
    | _ => job { current with separator := '\x00' } rest

/-- The first lines of a text, behind those that were taken before in reverse. -/
def firstLines (separator : Char) (taken : Octets) : Nat → Octets → Octets
  | _, [] => taken.reverse
  | 0, _ => taken.reverse
  | n + 1, c :: rest =>
    firstLines separator (c :: taken) (if c == separator then n else n + 1) rest

/-- The part of a whole text that a job shows when something is left out at the end. -/
def Job.keep (job : Job) (text : Octets) : Octets :=
  let count := job.extent.count
  if job.extent.lines then
    let unfinished := text.getLast?.getD job.separator != job.separator
    let lines := text.countP (· == job.separator) + (if unfinished then 1 else 0)
    firstLines job.separator [] (lines - count) text
  else text.take (text.length - count)

/-- The number of octets that are read at once. -/
def blockSize : Nat := 8192

/-- What `head` says about a file that cannot be read. -/
def complainRead (program name : Octets) (error : OsError) : Act Unit :=
  Act.complain program ("error reading ".toList ++ quotedName name ++
    Octets.ofText (": " ++ error.description.1))

/-- Shows the beginning of an open file, up to a number of lines or octets. -/
def copy (program name : Octets) (job : Job) (descriptor : Nat) : Nat → Nat → Act Nat
  | 0, _ => Act.hang
  | _ + 1, 0 => return 0
  | fuel + 1, left + 1 => do
    let wanted := if job.extent.lines then blockSize else min blockSize (left + 1)
    match ← Act.ask (.read descriptor wanted) with
    | .error error =>
      complainRead program name error
      return 1
    | .ok bytes =>
      if bytes.isEmpty then return 0
      else
        let text := Octets.ofBytes bytes
        let kept := if job.extent.lines then firstLines job.separator [] (left + 1) text else text
        let lines := kept.countP (· == job.separator)
        if kept.length < text.length then
          Act.ask (.stepBack descriptor (text.length - kept.length))
        let rest := left + 1 - if job.extent.lines then lines else kept.length
        let good ← Act.print program kept
        if good then copy program name job descriptor fuel rest else return 1

/-- Reads all of an open file. -/
def readAll (descriptor : Nat) : Nat → ByteArray → Act (Except OsError ByteArray)
  | 0, _ => Act.hang
  | fuel + 1, before => do
    match ← Act.ask (.read descriptor 65536) with
    | .error error => return .error error
    | .ok bytes => if bytes.isEmpty then return .ok before else readAll descriptor fuel (before ++ bytes)

/-- Shows an open file. -/
def present (program name : Octets) (fuel : Nat) (job : Job) (descriptor : Nat) : Act Nat := do
  if job.extent.allBut then
    match ← readAll descriptor fuel ByteArray.empty with
    | .error error =>
      complainRead program name error
      return 1
    | .ok bytes =>
      let good ← Act.print program (job.keep (Octets.ofBytes bytes))
      return if good then 0 else 1
  else copy program name job descriptor fuel job.extent.count

/-- Shows files in turn. -/
def files (program : Octets) (fuel : Nat) (job : Job) (titled : Bool) :
    Bool → Nat → List Octets → Act Nat
  | _, code, [] => return code
  | first, code, name :: names => do
    let standard := name = ['-']
    let shown := if standard then "standard input".toList else name
    let opened : Except OsError Nat ← if standard then pure (.ok 0) else Act.openRead name.toText
    match opened with
    | .error error =>
      Act.complain program ("cannot open ".toList ++ quotedName name ++
        Octets.ofText (" for reading: " ++ error.description.1))
      files program fuel job titled first 1 names
    | .ok descriptor =>
      if titled then
        let _ ← Act.print program ((if first then [] else ['\n']) ++ "==> ".toList ++ shown ++
          " <==\n".toList)
      let result ← present program shown fuel job descriptor
      unless standard do Act.ask (.close descriptor)
      files program fuel job titled false (max code result) names

/-- Reads an argument of digits and letters behind a dash, such as `-5q`, which may only come
first. -/
def readShort : Job → Octets → Octets → Except String Job
  | job, digits, [] => (extent job.extent.lines digits).map fun extent => { job with extent }
  | job, digits, c :: rest =>
    match c with
    | 'c' => readShort { job with extent := { job.extent with lines := false } } digits rest
    | 'b' => readShort { job with extent := { job.extent with lines := false } }
        (digits ++ ['b']) rest
    | 'k' => readShort { job with extent := { job.extent with lines := false } }
        (digits ++ ['k']) rest
    | 'm' => readShort { job with extent := { job.extent with lines := false } }
        (digits ++ ['m']) rest
    | 'l' => readShort { job with extent := { job.extent with lines := true } } digits rest
    | 'q' => readShort { job with titled := some false } digits rest
    | 'v' => readShort { job with titled := some true } digits rest
    | 'z' => readShort { job with separator := '\x00' } digits rest
    | c => .error ("invalid trailing option -- " ++ String.singleton c)

end Head

/-- The program `head`. -/
def head (fuel : Nat) (program : Octets) (arguments : List Octets) : Act Nat := do
  let start : Except String (Head.Job × List Octets) := match arguments with
    | ('-' :: c :: letters) :: rest =>
      if c.isDigit then
        let text := c :: letters
        (Head.readShort {} (text.takeWhile Char.isDigit) (text.dropWhile Char.isDigit)).map
          (·, rest)
      else .ok ({}, arguments)
    | _ => .ok ({}, arguments)
  match start with
  | .error message => Act.misuse program message.toList
  | .ok (job, rest) =>
    match Arguments.read Head.options rest with
    | .error message => Act.misuse program message.toList
    | .ok arguments =>
      match Head.job job arguments.options with
      | .error message =>
        Act.complain program message.toList
        return 1
      | .ok job =>
        let names := if arguments.operands.isEmpty then [['-']] else arguments.operands
        Head.files program fuel job (job.titled.getD (names.length > 1)) true 0 names

end PhaseBench.Host
