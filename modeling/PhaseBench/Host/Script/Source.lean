import PhaseBench.Host.Script.Basic

/-!
# The text of a script

A `Source` is a script of which a part has been read. A backslash before a line
break joins two lines wherever characters are looked at, except between single
quotes. A reader either gives a value or breaks off with a `SyntaxError`, and in
both cases leaves the source behind what it has seen.
-/

namespace PhaseBench.Host

/-- The tokens of a script. -/
inductive Token
  /-- The end of the script. -/
  | finish
  | newline
  | operator (text : String)
  | redirect (descriptor : Nat) (opening : Opening)
  /-- The redirection to a text that follows on the next lines. -/
  | here (descriptor : Nat) (dropTabs : Bool)
  | word (word : Word)

/-- A text that follows on the next lines: its number, the line that ends it, whether it is
taken literally, and whether tabs before its lines are left out. -/
structure HereText where
  number : Nat
  ending : Octets
  isLiteral : Bool
  dropTabs : Bool

/-- A script that is being read. -/
structure Source where
  rest : Octets
  line : Nat := 1
  /-- A token that was looked at and not taken. -/
  ahead : Option Token := none
  /-- The texts that follow the current line, the last one first. -/
  waiting : List HereText := []
  /-- The texts that were read, by number. -/
  texts : List (Nat × Word) := []
  /-- The number of the next text. -/
  nextText : Nat := 0
  /-- The end of the script has been looked at. -/
  dry : Bool := false

/-- Why a script is none, and the line on which that showed. -/
structure SyntaxError where
  line : Nat
  message : Octets

/-- An act that reads from a source. -/
abbrev Reader := ExceptT SyntaxError (StateM Source)

namespace Source

/-- Joins lines in front of the next character. -/
def joinLines : Octets → Nat → Octets × Nat
  | '\\' :: '\n' :: rest, line => joinLines rest (line + 1)
  | rest, line => (rest, line)

end Source

namespace Reader

/-- Breaks off with a message. -/
def fail {α : Type} (message : String) : Reader α := do
  throw ⟨(← get).line, Octets.ofText message⟩

/-- The next character, which is not taken. -/
def look : Reader (Option Char) := do
  let source ← get
  match Source.joinLines source.rest source.line with
  | ([], line) =>
    set { source with rest := [], line, dry := true }
    return none
  | (c :: rest, line) =>
    set { source with rest := c :: rest, line }
    return some c

/-- Takes the next character. -/
def drop : Reader Unit :=
  modify fun source => { source with
    rest := source.rest.tail
    line := if source.rest.head? == some '\n' then source.line + 1 else source.line }

/-- Takes characters as long as they are of a kind, and not the end of a line. -/
def takeWhile (kind : Char → Bool) : Reader Octets := do
  let source ← get
  let taken := source.rest.takeWhile kind
  set { source with rest := source.rest.drop taken.length }
  return taken

/-- Takes a name that may continue on the next line. -/
def takeName (kind : Char → Bool) : Nat → Octets → Reader Octets
  | 0, name => return name
  | fuel + 1, name => do
    match ← look with
    | some c =>
      if kind c then
        drop
        takeName kind fuel (name ++ [c])
      else return name
    | none => return name

/-- Takes what stands before a single quote, together with the quote. -/
def takeSingleQuoted : Reader Octets := do
  let source ← get
  let inner := source.rest.takeWhile (· != '\x27')
  let lines := inner.countP (· == '\n')
  match source.rest.drop inner.length with
  | _ :: rest =>
    set { source with rest, line := source.line + lines }
    return inner
  | [] =>
    set { source with rest := [], line := source.line + lines, dry := true }
    fail "Syntax error: Unterminated quoted string"

/-- Takes what stands before a backquote, together with the backquote; the backslashes
before special characters are left out. -/
def takeBackquoted (quoted : Bool) : Nat → Octets → Reader Octets
  | 0, taken => return taken.reverse
  | fuel + 1, taken => do
    match ← look with
    | none => fail "Syntax error: EOF in backquote substitution"
    | some '\\' =>
      drop
      match (← get).rest with
      | [] => takeBackquoted quoted fuel ('\\' :: taken)
      | c :: _ =>
        drop
        let special := c == '\\' || c == '\x60' || c == '$' || (quoted && c == '"')
        takeBackquoted quoted fuel (if special then c :: taken else c :: '\\' :: taken)
    | some c =>
      drop
      if c == '\x60' then return taken.reverse else takeBackquoted quoted fuel (c :: taken)

/-- Cuts off the lines before the one that ends a text, the ones before in reverse. -/
def takeHereLines (text : HereText) : Nat → List Octets → Reader Octets
  | 0, lines => return lines.reverse.flatten
  | fuel + 1, lines => do
    let source ← get
    if source.rest.isEmpty then
      set { source with dry := true }
      return lines.reverse.flatten
    else
      let line := source.rest.takeWhile (· != '\n')
      let behind := source.rest.drop line.length
      let shown := if text.dropTabs then line.dropWhile (· == '\t') else line
      set { source with
        rest := behind.tail
        line := if behind.isEmpty then source.line else source.line + 1
        dry := source.dry || behind.isEmpty }
      if shown == text.ending then return lines.reverse.flatten
      else takeHereLines text fuel ((shown ++ behind.take 1) :: lines)

/-- At the beginning of a line of a text: takes the line if it ends the text, and tells whether
it does. The end of the script is not taken for it. -/
def takeEnding (text : HereText) : Reader Bool := do
  if text.dropTabs then modify fun source => { source with rest := source.rest.dropWhile (· == '\t') }
  let source ← get
  let line := source.rest.takeWhile (· != '\n')
  let behind := source.rest.drop line.length
  if behind.isEmpty then set { source with dry := true }
  if source.rest.isEmpty || line != text.ending then return false
  else
    modify fun source => { source with
      rest := behind.tail, line := if behind.isEmpty then source.line else source.line + 1 }
    return true

end Reader

/-- Adds text to the last piece when that is text of the same kind. The pieces are held in
reverse. -/
def addText (quoted : Bool) (added : Octets) : List Piece → List Piece
  | .text q text :: rest =>
    if q = quoted then .text q (text ++ added) :: rest
    else .text quoted added :: .text q text :: rest
  | pieces => .text quoted added :: pieces

/-- The words that have a meaning of their own where a command may begin. -/
def reservedWords : List String :=
  ["!", "case", "do", "done", "elif", "else", "esac", "fi", "for", "if", "in", "then", "until",
    "while", "\x7b", "\x7d"]

namespace Token

/-- The reserved word that a token is. -/
def reserved? : Token → Option String
  | .word pieces =>
    (Word.plain? pieces).bind fun text => reservedWords.find? fun reserved => reserved.toList == text
  | _ => none

/-- Holds for a given operator. -/
def isOperator (text : String) : Token → Bool
  | .operator other => other == text
  | _ => false

/-- Holds for the tokens that end a list of commands. -/
def isCloser (token : Token) : Bool :=
  match token with
  | .finish => true
  | .operator text => text == ")" || text == ";;"
  | _ =>
    match token.reserved? with
    | some text => ["do", "done", "elif", "else", "esac", "fi", "then", "\x7d"].contains text
    | none => false

/-- A token as messages show it. -/
def shown (token : Token) : String :=
  match token with
  | .finish => "end of file"
  | .newline => "newline"
  | .operator text => "\"" ++ text ++ "\""
  | .redirect _ _ => "redirection"
  | .here _ _ => "redirection"
  | .word _ =>
    match token.reserved? with
    | some text => "\"" ++ text ++ "\""
    | none => "word"

end Token

end PhaseBench.Host
