import PhaseBench.Host.Octets

/-!
# Patterns

The patterns of a shell: `*` for any text, `?` for one character, brackets for one
of several, and characters for themselves. A quoted character is never special.
-/

namespace PhaseBench.Host

/-- Named classes of characters. -/
def classHas (name : String) (c : Char) : Bool :=
  match name with
  | "alpha" => c.isAlpha
  | "digit" => c.isDigit
  | "alnum" => c.isAlphanum
  | "upper" => c.isUpper
  | "lower" => c.isLower
  | "space" => Octets.isSpace c
  | "blank" => c == ' ' || c == '\t'
  | "punct" => 0x20 < c.toNat && c.toNat < 0x7F && !c.isAlphanum
  | "print" => 0x20 ≤ c.toNat && c.toNat < 0x7F
  | "graph" => 0x20 < c.toNat && c.toNat < 0x7F
  | "cntrl" => c.toNat < 0x20 || c.toNat = 0x7F
  | "xdigit" => c.isDigit || ('a' ≤ c && c ≤ 'f') || ('A' ≤ c && c ≤ 'F')
  | _ => false

/-- A member of a bracket. -/
inductive Member
  | range (first last : Char)
  | named (name : String)

/-- Holds for the characters that a member stands for. -/
def Member.has (c : Char) : Member → Bool
  | .range first last => first ≤ c && c ≤ last
  | .named name => classHas name c

/-- An element of a pattern. -/
inductive Glob
  | char (c : Char)
  | anyChar
  | anyText
  | oneOf (negated : Bool) (members : List Member)

/-- A character with the mark of being quoted. -/
abbrev Marked := List (Char × Bool)

namespace Glob

/-- Reads the members of a bracket up to the closing one. -/
def readMembers : Nat → List Member → Marked → Option (List Member × Marked)
  | 0, _, _ => none
  | _ + 1, _, [] => none
  | fuel + 1, members, (c, quoted) :: rest =>
    if c == ']' && !quoted && !members.isEmpty then some (members.reverse, rest)
    else
      match (c, quoted) :: rest with
      | ('[', false) :: (':', false) :: after =>
        let name := (after.takeWhile (·.1 != ':')).map (·.1)
        match after.dropWhile (·.1 != ':') with
        | (':', _) :: (']', _) :: after =>
          readMembers fuel (.named (String.ofList name) :: members) after
        | _ => readMembers fuel (.range c c :: members) rest
      | (first, _) :: ('-', false) :: (last, q) :: after =>
        if last == ']' && !q then readMembers fuel (.range first first :: members) rest
        else readMembers fuel (.range first last :: members) after
      | _ => readMembers fuel (.range c c :: members) rest

/-- The pattern that marked characters spell. -/
def compile : Nat → Marked → List Glob
  | 0, _ => []
  | _ + 1, [] => []
  | fuel + 1, (c, quoted) :: rest =>
    if quoted then .char c :: compile fuel rest
    else if c == '*' then .anyText :: compile fuel rest
    else if c == '?' then .anyChar :: compile fuel rest
    else if c == '[' then
      let (negated, inner) := match rest with
        | ('!', false) :: inner => (true, inner)
        | ('^', false) :: inner => (true, inner)
        | inner => (false, inner)
      match readMembers (inner.length + 1) [] inner with
      | some (members, after) => .oneOf negated members :: compile fuel after
      | none => .char c :: compile fuel rest
    else .char c :: compile fuel rest

/-- The pattern that marked characters spell. -/
def ofMarked (marked : Marked) : List Glob := compile (marked.length + 1) marked

/-- Holds for the characters that an element for one character accepts. -/
def takes (glob : Glob) (c : Char) : Bool :=
  match glob with
  | .char other => c == other
  | .anyChar => true
  | .anyText => false
  | .oneOf negated members => members.any (·.has c) != negated

/-- Holds for the texts that a pattern accepts. -/
def accepts : List Glob → Octets → Bool
  | [], text => text.isEmpty
  | .anyText :: globs, [] => accepts globs []
  | .anyText :: globs, c :: text => accepts globs (c :: text) || accepts (.anyText :: globs) text
  | _ :: _, [] => false
  | glob :: globs, c :: text => glob.takes c && accepts globs text
termination_by globs text => globs.length + text.length

/-- Holds for characters of which some are special in a pattern. -/
def isPattern (marked : Marked) : Bool :=
  marked.any fun (c, quoted) => !quoted && (c == '*' || c == '?' || c == '[')

/-- A text without the shortest or longest part at one end that a pattern accepts. -/
def trim (globs : List Glob) (atEnd longest : Bool) (text : Octets) : Octets :=
  let lengths := List.range (text.length + 1)
  let lengths := if longest then lengths.reverse else lengths
  if atEnd then
    match lengths.find? fun n => accepts globs (text.drop (text.length - n)) with
    | some n => text.take (text.length - n)
    | none => text
  else
    match lengths.find? fun n => accepts globs (text.take n) with
    | some n => text.drop n
    | none => text

end Glob

end PhaseBench.Host
