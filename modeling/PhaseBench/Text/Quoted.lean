import PhaseBench.Text.Printable

/-!
# Quoted text

How messages show a text: between double quotes, with backslash escapes for what
is not printable, so that a quoted text never holds a line break and always ends
where it seems to end. The first word of a command is quoted by a rule of its
own, which differs within ASCII only.
-/

namespace PhaseBench.Text

/-- The escape that gives the code point of a character in hexadecimal. -/
def codeEscape (c : Char) : List Char :=
  ['\\', 'u', '\x7b'] ++ Nat.toDigits 16 c.toNat ++ ['\x7d']

/-- A character as it stands in quoted text. -/
def quoteChar (c : Char) : List Char :=
  if c = '\x00' then ['\\', '0']
  else if c = '\t' then ['\\', 't']
  else if c = '\n' then ['\\', 'n']
  else if c = '\r' then ['\\', 'r']
  else if c = '"' then ['\\', '"']
  else if c = '\\' then ['\\', '\\']
  else if isPrintable c then [c]
  else codeEscape c

/-- A text between double quotes, escaped character by character. -/
def quote (text : String) : String :=
  String.ofList ('"' :: text.toList.flatMap quoteChar ++ ['"'])

/-- The escape that gives an ASCII character by two hexadecimal digits. -/
def byteEscape (c : Char) : List Char :=
  ['\\', 'x', Nat.digitChar (c.toNat / 16), Nat.digitChar (c.toNat % 16)]

/-- A character as it stands in the quoted first word of a command. -/
def quoteProgramChar (c : Char) : List Char :=
  if c = '\x27' then ['\\', c]
  else if c = '\x00' || c = '\t' || c = '\n' || c = '\r' then quoteChar c
  else if c.toNat < 0x20 || c.toNat = 0x7F then byteEscape c
  else quoteChar c

/-- The first word of a command between double quotes. -/
def quoteProgram (text : String) : String :=
  String.ofList ('"' :: text.toList.flatMap quoteProgramChar ++ ['"'])

end PhaseBench.Text
