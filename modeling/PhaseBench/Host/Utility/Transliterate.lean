import PhaseBench.Host.Pattern
import PhaseBench.Host.Utility.Escape
import PhaseBench.Host.Utility.Options

/-!
# Replacing characters

The program `tr`: it replaces or deletes characters, and leaves out repetitions.
The characters are given by sets, which are written with ranges, named classes and
repetitions.
-/

namespace PhaseBench.Host

namespace Transliterate

/-- A part of a set. -/
inductive Element
  | char (c : Char)
  | range (first last : Char)
  | named (name : Octets)
  /-- All characters that count as the same one, which is itself. -/
  | same (c : Char)
  /-- A character several times; zero stands for as often as needed. -/
  | repeated (c : Char) (count : Nat)

/-- All octets in order. -/
def allOctets : Octets := (List.range 256).map Char.ofNat

/-- The names of the classes. -/
def classNames : List String :=
  ["alnum", "alpha", "blank", "cntrl", "digit", "graph", "lower", "print", "punct", "space",
    "upper", "xdigit"]

/-- Resolves escapes. What was escaped is marked, as it is never special. Warnings are given
beside the characters. -/
def unescape : Nat → Octets → Marked × List String
  | 0, _ => ([], [])
  | _ + 1, [] => ([], [])
  | _ + 1, ['\\'] =>
    ([('\\', false)], ["warning: an unescaped backslash at end of string is not portable"])
  | fuel + 1, '\\' :: c :: rest =>
    let continued (octet : Char) (rest : Octets) (warnings : List String) :
        Marked × List String :=
      let (marks, more) := unescape fuel rest
      ((octet, true) :: marks, warnings ++ more)
    if Octets.isOctal c then
      let digits := ((c :: rest).take 3).takeWhile Octets.isOctal
      if Octets.octalValue digits < 256 then
        continued (Char.ofNat (Octets.octalValue digits)) ((c :: rest).drop digits.length) []
      else
        let short := digits.take 2
        continued (Char.ofNat (Octets.octalValue short)) ((c :: rest).drop 2)
          ["warning: the ambiguous octal escape \\" ++ String.ofList digits ++
            " is being\n\tinterpreted as the 2-byte sequence \\0" ++ String.ofList short ++ ", " ++
            String.ofList (digits.drop 2)]
    else if c == 'e' then continued c rest []
    else continued ((Escape.letter? c).getD c) rest []
  | fuel + 1, c :: rest =>
    let (marks, warnings) := unescape fuel rest
    ((c, false) :: marks, warnings)

/-- What stands before a character and a closing bracket, and what stands behind them. -/
def untilPair (c : Char) : Marked → Option (Marked × Marked)
  | (d, false) :: (']', false) :: rest =>
    if d == c then some ([], rest)
    else (untilPair c ((']', false) :: rest)).map fun (inner, after) => ((d, false) :: inner, after)
  | mark :: rest => (untilPair c rest).map fun (inner, after) => (mark :: inner, after)
  | [] => none

/-- A repetition behind its opening bracket. -/
def repetition? : Marked → Except String (Option (Element × Marked))
  | (c, _) :: ('*', false) :: rest =>
    let inner := rest.takeWhile fun mark => mark != (']', false)
    match rest.drop inner.length with
    | [] => .ok none
    | _ :: after =>
      let digits := inner.map (·.1)
      let count? : Option Nat :=
        if digits.isEmpty then some 0
        else if digits.head? == some '0' then
          if digits.all Octets.isOctal then some (Octets.octalValue digits) else none
        else Octets.toNat? digits
      match count? with
      | some count => .ok (some (.repeated c count, after))
      | none =>
        .error ("invalid repeat count \x27" ++ String.ofList digits ++ "\x27 in [c*n] construct")
  | _ => .ok none

/-- Reads the elements of a set. -/
def elements : Nat → Marked → Except String (List Element)
  | 0, _ => .ok []
  | _ + 1, [] => .ok []
  | fuel + 1, marks =>
    let single : Except String (List Element) :=
      match marks with
      | (first, _) :: ('-', false) :: (last, _) :: rest =>
        if last < first then
          .error ("range-endpoints of \x27" ++ String.ofList [first, '-', last] ++
            "\x27 are in reverse collating sequence order")
        else (elements fuel rest).map (.range first last :: ·)
      | (c, _) :: rest => (elements fuel rest).map (.char c :: ·)
      | [] => .ok []
    let bracketed (rest : Marked) : Except String (List Element) :=
      match repetition? rest with
      | .error message => .error message
      | .ok (some (element, after)) => (elements fuel after).map (element :: ·)
      | .ok none => single
    let starred (rest : Marked) : Bool :=
      match rest with
      | ('*', false) :: rest => ((rest.dropWhile (·.1.isDigit)).head?) == some (']', false)
      | _ => false
    match marks with
    | ('[', false) :: (':', false) :: rest =>
      match untilPair ':' rest with
      | some (inner, after) =>
        let name := inner.map (·.1)
        if name.isEmpty then .error "missing character class name \x27[::]\x27"
        else if classNames.contains (String.ofList name) then
          (elements fuel after).map (.named name :: ·)
        else if starred rest then bracketed ((':', false) :: rest)
        else .error ("invalid character class \x27" ++ String.ofList name ++ "\x27")
      | none => bracketed ((':', false) :: rest)
    | ('[', false) :: ('=', false) :: rest =>
      match untilPair '=' rest with
      | some (inner, after) =>
        match inner with
        | [] => .error "missing equivalence class character \x27[==]\x27"
        | [(c, _)] => (elements fuel after).map (.same c :: ·)
        | several =>
          if starred rest then bracketed (('=', false) :: rest)
          else .error (String.ofList (several.map (·.1)) ++
            ": equivalence class operand must be a single character")
      | none => bracketed (('=', false) :: rest)
    | ('[', false) :: rest => if rest.length < 2 then single else bracketed rest
    | _ => single

/-- The characters of an element, a repetition without end given by its length. -/
def Element.expand (fill : Nat) : Element → Octets
  | .char c => [c]
  | .range first last => allOctets.filter fun c => first ≤ c && c ≤ last
  | .named name => allOctets.filter (classHas (String.ofList name))
  | .same c => [c]
  | .repeated c count => List.replicate (if count = 0 then fill else count) c

/-- Holds for repetitions without end. -/
def Element.isFill : Element → Bool
  | .repeated _ 0 => true
  | _ => false

/-- Holds for named classes. -/
def Element.isNamed : Element → Bool
  | .named _ => true
  | _ => false

/-- Holds for the classes that change the case of letters. -/
def Element.isCase : Element → Bool
  | .named name => name == "upper".toList || name == "lower".toList
  | _ => false

/-- The characters of elements. -/
def expand (fill : Nat) (set : List Element) : Octets := set.flatMap (Element.expand fill)

/-- The places at which classes of case begin in the expansion of elements. -/
def casePlaces : Nat → List Element → List Nat
  | _, [] => []
  | place, element :: rest =>
    (if element.isCase then [place] else []) ++
      casePlaces (place + (element.expand 0).length) rest

/-- What `tr` is asked to do. -/
structure Job where
  delete : Bool := false
  squeeze : Bool := false
  complement : Bool := false
  truncate : Bool := false

/-- The options of `tr`. -/
def options : List ProgramOption :=
  [⟨'c', "complement", false⟩, ⟨'C', "", false⟩, ⟨'d', "delete", false⟩,
    ⟨'s', "squeeze-repeats", false⟩, ⟨'t', "truncate-set1", false⟩]

/-- The job that arguments describe. -/
def Job.ofArguments (arguments : Arguments) : Job :=
  { delete := arguments.has 'd', squeeze := arguments.has 's'
    complement := arguments.has 'c' || arguments.has 'C', truncate := arguments.has 't' }

/-- What becomes of each octet: another one or none. -/
structure Rule where
  replace : Char → Option Char
  /-- Repetitions of these octets are left out. -/
  squeezed : Char → Bool

/-- The rule of a job for two sets; an error when they do not fit together. -/
def rule (job : Job) (first : List Element) (second? : Option (List Element)) :
    Except String Rule := do
  if first.any Element.isFill then
    throw "the [c*] repeat construct may not appear in string1"
  let own := expand 0 first
  let source := if job.complement then allOctets.filter fun c => !own.contains c else own
  match second? with
  | none =>
    if job.delete then
      return ⟨fun c => if source.contains c then none else some c, fun _ => false⟩
    else return ⟨some, source.contains⟩
  | some second =>
    let fills := second.countP Element.isFill
    if fills > 1 then throw "only one [c*] repeat construct may appear in string2"
    let translating := !job.delete
    if !translating then
      if fills > 0 then
        throw "the [c*] construct may appear in string2 only when translating"
      let target := expand 0 second
      return ⟨fun c => if source.contains c then none else some c, target.contains⟩
    else
      let given := expand 0 second
      let target := expand (source.length - given.length) second
      if second.any fun element => match element with | .same _ => true | _ => false then
        throw "[=c=] expressions may not appear in string2 when translating"
      if second.any fun element => element.isNamed && !element.isCase then
        throw ("when translating, the only character classes that may appear in\n" ++
          "string2 are \x27upper\x27 and \x27lower\x27")
      if second.any Element.isCase && !job.complement then
        let places := casePlaces 0 first
        if !(casePlaces 0 second).all places.contains then
          throw "misaligned [:upper:] and/or [:lower:] construct"
      let target ←
        if source.length ≤ target.length || job.truncate then pure target
        else
          match target.getLast?, second.getLast? with
          | none, _ => throw "when not truncating set1, string2 must be non-empty"
          | some last, ending? =>
            if ending?.any Element.isCase then
              throw ("when translating with string1 longer than string2,\nthe latter string " ++
                "must not end with a character class")
            else pure (target ++ List.replicate (source.length - target.length) last)
      if job.complement && first.any Element.isNamed &&
          !(target.length = source.length && target.all (some · == target.head?)) then
        throw ("when translating with complemented character classes,\nstring2 must map all " ++
          "characters in the domain to one")
      let pairs := source.zip target
      let table := allOctets.map fun c =>
        ((pairs.filter (·.1 == c)).getLast?.map (·.2)).getD c
      return ⟨fun c => some ((table[c.toNat]?).getD c), if job.squeeze then target.contains
        else fun _ => false⟩

/-- Applies a rule behind the octet that was written last; the result is in reverse. -/
def Rule.apply (rule : Rule) : Option Char → Octets → Octets → Octets × Option Char
  | last, done, [] => (done.reverse, last)
  | last, done, c :: rest =>
    match rule.replace c with
    | none => rule.apply last done rest
    | some c =>
      if last == some c && rule.squeezed c then rule.apply last done rest
      else rule.apply (some c) (c :: done) rest

/-- Copies standard input to standard output under a rule. -/
def copy (program : Octets) (rule : Rule) : Nat → Option Char → Act Nat
  | 0, _ => Act.hang
  | fuel + 1, last => do
    match ← Act.ask (.read 0 8192) with
    | .error error =>
      Act.complain program (Octets.ofText ("read error: " ++ error.description.1))
      return 1
    | .ok bytes =>
      if bytes.isEmpty then return 0
      else
        let (output, last) := rule.apply last [] (Octets.ofBytes bytes)
        let good ← Act.print program output
        if good then copy program rule fuel last else return 1

/-- Writes warnings. -/
def warn (program : Octets) : List String → Act Unit
  | [] => return
  | warning :: rest => do
    Act.complain program warning.toList
    warn program rest

end Transliterate

open Transliterate in
/-- The program `tr`. -/
def tr (fuel : Nat) (program : Octets) (arguments : List Octets) : Act Nat := do
  match Arguments.readInOrder options arguments with
  | .error message => Act.misuse program message.toList
  | .ok arguments =>
    let job := Job.ofArguments arguments
    let least := if job.delete == job.squeeze then 2 else 1
    let most := if job.delete && !job.squeeze then 1 else 2
    let operands := arguments.operands
    if operands.length < least then
      match operands with
      | operand :: _ =>
        Act.misuse program ("missing operand after ".toList ++ quotedText operand ++
          "\nTwo strings must be given when ".toList ++
          (if job.squeeze then "both deleting and squeezing repeats." else "translating.").toList)
      | [] => Act.misuse program "missing operand".toList
    else
      match operands[most]? with
      | some extra =>
        Act.misuse program ("extra operand ".toList ++ quotedText extra ++
          (if operands.length = 2 then
            "\nOnly one string may be given when deleting without squeezing repeats."
          else "").toList)
      | none =>
        let read (operand : Octets) : Act (Except String (List Element)) := do
          let (marks, warnings) := unescape (operand.length + 1) operand
          warn program warnings
          return elements (marks.length + 1) marks
        let first ← read (operands.head?.getD [])
        let second? ← match operands[1]? with
          | some operand => do pure (some (← read operand))
          | none => pure none
        let rule : Except String Rule := do
          let first ← first
          let second? ← match second? with
            | some second => second.map some
            | none => pure none
          rule job first second?
        match rule with
        | .error message =>
          Act.complain program message.toList
          return 1
        | .ok rule => copy program rule fuel none

end PhaseBench.Host
