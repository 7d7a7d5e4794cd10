import PhaseBench.Host.Octets

/-!
# Shell scripts

The structure of a script: words made of literal text and expansions, simple
commands, and the ways to combine commands. Commands know the line they begin on,
which messages about them show. A text that follows on the lines behind a
redirection is kept apart and known by its number.
-/

namespace PhaseBench.Host

/-- How a redirection opens its target. -/
inductive Opening
  | read
  | readWrite
  | write
  /-- The same, even where files must not be overwritten. -/
  | overwrite
  | append
  /-- The target names another descriptor. -/
  | duplicate
  /-- The target is a text in the script. -/
  | text (number : Nat)
deriving DecidableEq

mutual

/-- A part of a word. What is quoted is neither split into fields nor a pattern. -/
inductive Piece
  | text (quoted : Bool) (text : Octets)
  | parameter (quoted : Bool) (name : Octets) (use : ParameterUse)
  | command (quoted : Bool) (body : Option Script)
  | arithmetic (quoted : Bool) (expression : List Piece)

/-- What is done with the value of a parameter. -/
inductive ParameterUse
  | value
  | length
  /-- Another word in the place of a parameter that is unset, or, with `orEmpty`, empty. -/
  | otherwise (orEmpty : Bool) (word : List Piece)
  /-- The same, the word also being assigned. -/
  | assign (orEmpty : Bool) (word : List Piece)
  /-- The same, the word being the message of a failure. -/
  | demand (orEmpty : Bool) (word : List Piece)
  /-- Another word in the place of a parameter that is set. -/
  | instead (orEmpty : Bool) (word : List Piece)
  /-- The value without the shortest or longest match of a pattern at an end. -/
  | trim (atEnd longest : Bool) (pattern : List Piece)
  /-- A use that there is none of, which fails when it comes to it. -/
  | unknown

/-- A redirection of a file descriptor. -/
inductive Redirect
  | mk (descriptor : Nat) (opening : Opening) (target : List Piece)

/-- A command. -/
inductive Script
  | simple (line : Nat) (assignments : List (Octets × List Piece)) (words : List (List Piece))
      (redirects : List Redirect)
  | pipe (stages : List Script) (background : Bool)
  | negate (body : Script)
  | both (left right : Script)
  | either (left right : Script)
  | sequence (parts : List Script)
  | background (line : Nat) (body : Script) (redirects : List Redirect)
  | subshell (line : Nat) (body : Script) (redirects : List Redirect)
  | conditional (condition body : Script) (otherwise : Option Script)
  | loop (untilTrue : Bool) (condition body : Script)
  | forEach (line : Nat) (name : Octets) (items : List (List Piece)) (body : Script)
  | choose (line : Nat) (subject : List Piece) (arms : List (List (List Piece) × Option Script))
  | define (name : Octets) (body : Script)
  | redirected (line : Nat) (body : Script) (redirects : List Redirect)

end

/-- A word: the parts that are joined to it. -/
abbrev Word := List Piece

namespace Redirect

/-- The descriptor that is redirected. -/
def descriptor : Redirect → Nat
  | .mk descriptor _ _ => descriptor

/-- How the target is opened. -/
def opening : Redirect → Opening
  | .mk _ opening _ => opening

/-- The word of the target. -/
def target : Redirect → Word
  | .mk _ _ target => target

end Redirect

/-- Holds for the characters that begin a name. -/
def isNameStart (c : Char) : Bool := c.isAlpha || c == '_'

/-- Holds for the characters that continue a name. -/
def isNameChar (c : Char) : Bool := isNameStart c || c.isDigit

/-- Holds for names of variables and functions. -/
def isName : Octets → Bool
  | [] => false
  | c :: rest => isNameStart c && rest.all isNameChar

/-- Holds for the characters that name a special parameter. -/
def isSpecialParameter (c : Char) : Bool := "@*#?-$!".toList.contains c

namespace Word

/-- The text of a word without quotes or expansions. -/
def plain? : Word → Option Octets
  | [.text false text] => some text
  | _ => none

/-- Holds for what gives no field at all, not even an empty one, when it stands alone between
quotes and there are no positional parameters. -/
def vanishes : Word → Bool
  | [.parameter _ ['@'] .value] => true
  | _ => false

/-- Splits an assignment into name and value. -/
def assignment? : Word → Option (Octets × Word)
  | .text false text :: rest =>
    match text.dropWhile isNameChar with
    | '=' :: value =>
      let name := text.takeWhile isNameChar
      if isName name then some (name, if value.isEmpty then rest else .text false value :: rest)
      else none
    | _ => none
  | _ => none

end Word

/-- The commands built into the shell whose failure ends the shell. -/
def specialCommands : List String :=
  [":", ".", "break", "continue", "eval", "exec", "exit", "export", "local", "readonly", "return",
    "set", "shift", "times", "trap", "unset"]

end PhaseBench.Host
