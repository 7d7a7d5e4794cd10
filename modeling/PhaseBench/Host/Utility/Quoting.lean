import PhaseBench.Host.Octets

/-!
# Quoting in messages

How programs show names of files and other texts in their messages, so that nothing
in them can be taken for a part of the message.
-/

namespace PhaseBench.Host

/-- Holds for the octets that need no quotes anywhere. -/
def isHarmless (c : Char) : Bool := c.isAlphanum || "%+,-./@_]".toList.contains c

/-- Holds for the octets that show something. -/
def isVisible (c : Char) : Bool := 32 ≤ c.toNat && c.toNat < 127

/-- Holds for a name that needs no quotes: some octets do no harm behind the first one, and
braces not where there is something else. -/
def needsNoQuotes : Octets → Bool
  | [] => false
  | [c] => isHarmless c
  | c :: rest =>
    let isBrace (c : Char) : Bool := c == '\x7b' || c == '\x7d'
    (isHarmless c || isBrace c) &&
      rest.all fun c => isHarmless c || isBrace c || c == '#' || c == '~'

/-- Holds for the octets that mean the same in double quotes as in single quotes. -/
def isCompatible (c : Char) : Bool :=
  isHarmless c || " #~:\x27\x7b\x7d".toList.contains c

/-- The escape of an octet that shows nothing. -/
def octetEscape (c : Char) : Octets :=
  let letters := ['a', 'b', 't', 'n', 'v', 'f', 'r']
  match if c.toNat < 7 then none else letters[c.toNat - 7]? with
  | some letter => ['\\', letter]
  | none =>
    ['\\', Nat.digitChar (c.toNat / 64), Nat.digitChar (c.toNat / 8 % 8),
      Nat.digitChar (c.toNat % 8)]

/-- Octets between single quotes; `escaping` tells that the ones before stand between quotes
for escapes. -/
def quoteFrom (escaping : Bool) : Octets → Octets
  | [] => ['\x27']
  | c :: rest =>
    if !isVisible c then
      (if escaping then [] else "\x27$\x27".toList) ++ octetEscape c ++ quoteFrom true rest
    else
      (if escaping then "\x27\x27".toList else []) ++
        (if c == '\x27' then "\x27\\\x27\x27".toList else [c]) ++ quoteFrom false rest

/-- The name of a file in quotes, whether it needs them or not. -/
def quotedName (name : Octets) : Octets :=
  if name.contains '\x27' && name.all isCompatible then '"' :: name ++ ['"']
  else '\x27' :: quoteFrom false name

/-- The name of a file as messages show it: in quotes only where that is needed. -/
def shownName (name : Octets) : Octets :=
  if needsNoQuotes name then name
  else quotedName name

/-- A text between single quotes, with a backslash before what would not stand for itself. -/
def quotedText (text : Octets) : Octets :=
  '\x27' :: text.flatMap (fun c =>
    if c == '\x27' || c == '\\' then ['\\', c]
    else if isVisible c then [c] else octetEscape c) ++ ['\x27']

end PhaseBench.Host
