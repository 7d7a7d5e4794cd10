import PhaseBench.Host.Script.Source

/-!
# Grammar of scripts

Commands are read by recursive descent from the characters of a script, one
complete command at a time: a script that is wrong further down is run up to the
command before. Words and commands contain each other, so they are read together.
-/

namespace PhaseBench.Host

/-- What the pieces that are being read stand in, which decides where they end. -/
inductive Frame
  | word
  /-- The line that ends a text. Nothing is expanded in it. -/
  | mark
  | quotes
  | braces (quoted : Bool)
  /-- An arithmetic expression, inside a number of brackets of its own. -/
  | arithmetic (depth : Nat)
  /-- A text that follows on the next lines, up to the line that ends it. -/
  | text (here : HereText)

namespace Frame

/-- Holds where only the dollar sign, the backquote and the backslash are special. -/
def isQuoted : Frame → Bool
  | .word => false
  | .mark => false
  | .braces quoted => quoted
  | _ => true

/-- What is said when the script ends inside. -/
def complaint? : Frame → Option String
  | .quotes => some "Syntax error: Unterminated quoted string"
  | .braces true => some "Syntax error: Unterminated quoted string"
  | .braces false => some "Syntax error: Missing \x27\x7d\x27"
  | .arithmetic _ => some "Syntax error: Missing \x27))\x27"
  | _ => none

/-- Holds for the characters that a backslash keeps from being special. -/
def shields (frame : Frame) (c : Char) : Bool :=
  c == '\\' || c == '\x60' || c == '$' ||
    match frame with
    | .quotes => c == '"'
    | .braces _ => c == '"' || c == '\x7d'
    | .arithmetic _ => c == '"'
    | _ => false

end Frame

/-- Holds for the characters that end a word. -/
def endsWord (c : Char) : Bool := " \t\n;&|<>()".toList.contains c

/-- Holds for the characters that stand for themselves wherever they are. -/
def isOrdinary (c : Char) : Bool :=
  c.isAlphanum || 128 ≤ c.toNat || "_-+=:,./%@^~*?[]!".toList.contains c

/-- Several commands as one. -/
def Script.join? : List Script → Option Script
  | [] => none
  | [only] => some only
  | parts => some (.sequence parts)

/-- A command that is not waited for. -/
def Script.inBackground (line : Nat) : Script → Script
  | .pipe stages _ => .pipe stages true
  | .redirected line body redirects => .background line body redirects
  | body => .background line body []

namespace Reader

/-- Breaks off at a token that should not be there. -/
def unexpected {α : Type} (token : Token) (wanted : String) : Reader α :=
  fail ("Syntax error: " ++ token.shown ++ " unexpected" ++
    if wanted = "" then "" else " (expecting " ++ wanted ++ ")")

mutual

/-- Reads pieces to the end of their frame, behind the ones before in reverse. -/
def readPieces : Nat → Frame → List Piece → Reader Word
  | 0, _, pieces => return pieces.reverse
  | fuel + 1, frame, pieces => do
    let quoted := frame.isQuoted
    match ← look with
    | none =>
      match frame.complaint? with
      | some complaint => fail complaint
      | none => return pieces.reverse
    | some c =>
      if isOrdinary c then
        let text ← takeWhile isOrdinary
        readPieces fuel frame (addText quoted text pieces)
      else if c == '\\' then
        drop
        match (← get).rest with
        | [] => readPieces fuel frame (addText true [c] pieces)
        | d :: _ =>
          drop
          if quoted && !frame.shields d then readPieces fuel frame (addText true [c, d] pieces)
          else readPieces fuel frame (addText true [d] pieces)
      else if c == '\x27' && !quoted then
        drop
        let inner ← takeSingleQuoted
        readPieces fuel frame (.text true inner :: pieces)
      else if c == '"' then
        match frame with
        | .text _ =>
          drop
          readPieces fuel frame (addText true [c] pieces)
        | .arithmetic _ =>
          drop
          readPieces fuel frame (addText true [c] pieces)
        | .quotes =>
          drop
          return pieces.reverse
        | _ =>
          drop
          let inner ← readPieces fuel .quotes []
          let inner := if Word.vanishes inner then inner else .text true [] :: inner
          readPieces fuel frame (inner.reverse ++ pieces)
      else if c == '$' then
        drop
        match frame with
        | .mark => readPieces fuel frame (addText quoted [c] pieces)
        | _ =>
          match ← readDollar fuel quoted with
          | some piece => readPieces fuel frame (piece :: pieces)
          | none => readPieces fuel frame (addText quoted [c] pieces)
      else if c == '\x60' then
        drop
        let source ← get
        let text ← takeBackquoted quoted (source.rest.length + 1) []
        let outer ← get
        set { outer with rest := text, line := 1, ahead := none, waiting := [] }
        let body ← readList fuel false true []
        modify fun inner => { outer with texts := inner.texts, nextText := inner.nextText }
        readPieces fuel frame (.command quoted body :: pieces)
      else
        match frame with
        | .braces _ =>
          drop
          if c == '\x7d' then return pieces.reverse
          else readPieces fuel frame (addText quoted [c] pieces)
        | .arithmetic depth =>
          drop
          if c == '(' then readPieces fuel (.arithmetic (depth + 1)) (addText quoted [c] pieces)
          else if c == ')' then
            match depth with
            | depth + 1 => readPieces fuel (.arithmetic depth) (addText quoted [c] pieces)
            | 0 =>
              if (← look) == some ')' then
                drop
                return pieces.reverse
              else readPieces fuel frame (addText quoted [c] pieces)
          else readPieces fuel frame (addText quoted [c] pieces)
        | .word =>
          if endsWord c then return pieces.reverse
          else
            drop
            readPieces fuel frame (addText quoted [c] pieces)
        | .mark =>
          if endsWord c then return pieces.reverse
          else
            drop
            readPieces fuel frame (addText quoted [c] pieces)
        | .text here =>
          drop
          let pieces := addText quoted [c] pieces
          if c == '\n' then
            if ← takeEnding here then return pieces.reverse else readPieces fuel frame pieces
          else readPieces fuel frame pieces
        | .quotes =>
          drop
          readPieces fuel frame (addText quoted [c] pieces)

/-- Reads what follows a dollar sign; without a piece the dollar sign stands for itself. -/
def readDollar : Nat → Bool → Reader (Option Piece)
  | 0, _ => return none
  | fuel + 1, quoted => do
    match ← look with
    | none => return none
    | some c =>
      if c == '(' then
        drop
        if (← look) == some '(' then
          drop
          let pieces ← readPieces fuel (.arithmetic 0) []
          return some (.arithmetic quoted pieces)
        else
          let waiting := (← get).waiting
          modify fun source => { source with waiting := [] }
          let body ← readList fuel false true []
          let token ← peekToken fuel
          if token.isOperator ")" then
            modify fun source => { source with ahead := none, waiting }
            return some (.command quoted body)
          else unexpected token "\")\""
      else if c == '\x7b' then
        drop
        let piece ← readBraces fuel quoted
        return some piece
      else if isNameStart c then
        let name ← takeName isNameChar (← get).rest.length []
        return some (.parameter quoted name .value)
      else if c.isDigit || isSpecialParameter c then
        drop
        return some (.parameter quoted [c] .value)
      else return none

/-- Reads a parameter in braces, behind the opening brace. -/
def readBraces : Nat → Bool → Reader Piece
  | 0, _ => fail "Syntax error: Missing \x27\x7d\x27"
  | fuel + 1, quoted => do
    let length := (← get).rest.length
    let name (c : Char) : Reader Octets :=
      if isNameStart c then takeName isNameChar length []
      else if c.isDigit then takeName Char.isDigit length []
      else if isSpecialParameter c then do
        drop
        return [c]
      else return []
    let bad (name : Octets) : Reader Piece := do
      let _ ← readPieces fuel (.braces quoted) []
      return .parameter quoted name .unknown
    let used (name : Octets) : Reader Piece := do
      let word (inQuotes : Bool) (use : List Piece → ParameterUse) : Reader Piece := do
        let pieces ← readPieces fuel (.braces inQuotes) []
        return .parameter quoted name (use pieces)
      match ← look with
      | some '\x7d' =>
        drop
        return .parameter quoted name .value
      | some '%' =>
        drop
        if (← look) == some '%' then
          drop
          word false (.trim true true)
        else word false (.trim true false)
      | some '#' =>
        drop
        if (← look) == some '#' then
          drop
          word false (.trim false true)
        else word false (.trim false false)
      | some c =>
        let orEmpty := c == ':'
        if orEmpty then drop
        match ← look with
        | some '-' =>
          drop
          word quoted (.otherwise orEmpty)
        | some '=' =>
          drop
          word quoted (.assign orEmpty)
        | some '?' =>
          drop
          word quoted (.demand orEmpty)
        | some '+' =>
          drop
          word quoted (.instead orEmpty)
        | _ => bad name
      | none => bad name
    match ← look with
    | none => bad []
    | some '#' =>
      drop
      match ← look with
      | none => bad []
      | some '\x7d' =>
        drop
        return .parameter quoted ['#'] .value
      | some c =>
        if isNameStart c || c.isDigit then
          let counted ← name c
          if (← look) == some '\x7d' then
            drop
            return .parameter quoted counted .length
          else bad counted
        else
          match (← get).rest with
          | d :: '\x7d' :: _ =>
            if isSpecialParameter d then
              drop
              drop
              return .parameter quoted [d] .length
            else used ['#']
          | _ => used ['#']
    | some c =>
      let name ← name c
      if name.isEmpty then bad [] else used name

/-- Reads the next token. -/
def readToken : Nat → Reader Token
  | 0 => return .finish
  | fuel + 1 => do
    let either (second : Char) (long short : String) : Reader Token := do
      drop
      if (← look) == some second then
        drop
        return .operator long
      else return .operator short
    match ← look with
    | none => return .finish
    | some c =>
      if c == ' ' || c == '\t' then
        drop
        readToken fuel
      else if c == '#' then
        let _ ← takeWhile (· != '\n')
        readToken fuel
      else if c == '\n' then
        drop
        return .newline
      else if c == '&' then either '&' "&&" "&"
      else if c == '|' then either '|' "||" "|"
      else if c == ';' then either ';' ";;" ";"
      else if c == '(' || c == ')' then
        drop
        return .operator (String.singleton c)
      else if c == '<' || c == '>' then readRedirection none
      else
        match (← get).rest with
        | d :: e :: _ =>
          if d.isDigit && (e == '<' || e == '>') then
            drop
            readRedirection (some (d.toNat - 48))
          else return .word (← readPieces fuel .word [])
        | _ => return .word (← readPieces fuel .word [])
where
  /-- Reads the operator of a redirection. -/
  readRedirection (descriptor? : Option Nat) : Reader Token := do
    let opened := (← look) == some '>'
    drop
    let next ← look
    if opened then
      let descriptor := descriptor?.getD 1
      match next with
      | some '>' =>
        drop
        return .redirect descriptor .append
      | some '|' =>
        drop
        return .redirect descriptor .overwrite
      | some '&' =>
        drop
        return .redirect descriptor .duplicate
      | _ => return .redirect descriptor .write
    else
      let descriptor := descriptor?.getD 0
      match next with
      | some '<' =>
        drop
        if (← look) == some '-' then
          drop
          return .here descriptor true
        else return .here descriptor false
      | some '&' =>
        drop
        return .redirect descriptor .duplicate
      | some '>' =>
        drop
        return .redirect descriptor .readWrite
      | _ => return .redirect descriptor .read

/-- The next token, which is not taken. -/
def peekToken : Nat → Reader Token
  | 0 => return .finish
  | fuel + 1 => do
    match (← get).ahead with
    | some token => return token
    | none =>
      let token ← readToken fuel
      modify fun source => { source with ahead := some token }
      return token

/-- Reads the texts that wait for the end of the line. -/
def readTexts : Nat → List HereText → Reader Unit
  | 0, _ => return
  | _ + 1, [] => return
  | fuel + 1, text :: texts => do
    let word ←
      if text.isLiteral then
        pure [Piece.text true (← takeHereLines text ((← get).rest.length + 1) [])]
      else if ← takeEnding text then pure []
      else readPieces fuel (.text text) []
    modify fun source => { source with texts := (text.number, word) :: source.texts }
    readTexts fuel texts

/-- Takes the token that was looked at. Behind the end of a line the texts that wait for it
are read. -/
def takeToken : Nat → Reader Unit
  | 0 => return
  | fuel + 1 => do
    let token ← peekToken fuel
    let waiting := (← get).waiting
    match token with
    | .newline =>
      modify fun source => { source with ahead := none, waiting := [] }
      readTexts fuel waiting.reverse
    | _ => modify fun source => { source with ahead := none }

/-- Skips line breaks. -/
def skipBreaks : Nat → Reader Unit
  | 0 => return
  | fuel + 1 => do
    match ← peekToken fuel with
    | .newline =>
      takeToken fuel
      skipBreaks fuel
    | _ => return

/-- Takes an expected reserved word. -/
def expect : Nat → String → Reader Unit
  | 0, _ => return
  | fuel + 1, reserved => do
    let token ← peekToken fuel
    if token.reserved? = some reserved then takeToken fuel
    else unexpected token ("\"" ++ reserved ++ "\"")

/-- Reads commands up to a closing token, or, on the outermost level, up to the end of the
line; the commands before are in reverse. Only with `mayClose` there need not be another
one. -/
def readList : Nat → Bool → Bool → List Script → Reader (Option Script)
  | 0, _, _, _ => fail "Syntax error: end of file unexpected"
  | fuel + 1, top, mayClose, before => do
    unless top do skipBreaks fuel
    let finish (done : List Script) : Reader (Option Script) := do
      let waiting := (← get).waiting
      modify fun source => { source with waiting := [] }
      readTexts fuel waiting.reverse
      return Script.join? done.reverse
    match ← peekToken fuel with
    | .finish => finish before
    | .newline =>
      takeToken fuel
      return Script.join? before.reverse
    | token =>
      if mayClose && !top && token.isCloser then return Script.join? before.reverse
      else
        let script ← readAndOr fuel
        let line := (← get).line
        match ← peekToken fuel with
        | .finish => finish (script :: before)
        | .newline => readList fuel top true (script :: before)
        | .operator ";" =>
          takeToken fuel
          readList fuel top true (script :: before)
        | .operator "&" =>
          takeToken fuel
          readList fuel top true (script.inBackground line :: before)
        | token =>
          if top then unexpected token ""
          else return Script.join? (script :: before).reverse

/-- Reads a list of commands that must not be empty. -/
def readBody : Nat → Reader Script
  | 0 => fail "Syntax error: end of file unexpected"
  | fuel + 1 => return (← readList fuel false false []).getD (.sequence [])

/-- Reads pipelines joined by `&&` and `||`. -/
def readAndOr : Nat → Reader Script
  | 0 => fail "Syntax error: end of file unexpected"
  | fuel + 1 => do
    let first ← readPipeline fuel
    readMore fuel first

/-- Reads further pipelines behind the ones read so far. -/
def readMore : Nat → Script → Reader Script
  | 0, left => return left
  | fuel + 1, left => do
    match ← peekToken fuel with
    | .operator "&&" =>
      takeToken fuel
      skipBreaks fuel
      readMore fuel (.both left (← readPipeline fuel))
    | .operator "||" =>
      takeToken fuel
      skipBreaks fuel
      readMore fuel (.either left (← readPipeline fuel))
    | _ => return left

/-- Reads a pipeline, negated or not. -/
def readPipeline : Nat → Reader Script
  | 0 => fail "Syntax error: end of file unexpected"
  | fuel + 1 => do
    let token ← peekToken fuel
    let negated := token.reserved? = some "!"
    if negated then takeToken fuel
    let script ← match ← readStages fuel with
      | [only] => pure only
      | stages => pure (.pipe stages false)
    return if negated then .negate script else script

/-- Reads the stages of a pipeline. -/
def readStages : Nat → Reader (List Script)
  | 0 => return []
  | fuel + 1 => do
    let stage ← readCommand fuel
    match ← peekToken fuel with
    | .operator "|" =>
      takeToken fuel
      skipBreaks fuel
      return stage :: (← readStages fuel)
    | _ => return [stage]

/-- Reads a command. -/
def readCommand : Nat → Reader Script
  | 0 => fail "Syntax error: end of file unexpected"
  | fuel + 1 => do
    let token ← peekToken fuel
    let line := (← get).line
    match token with
    | .redirect _ _ => readSimple fuel line [] [] []
    | .here _ _ => readSimple fuel line [] [] []
    | .operator "(" =>
      takeToken fuel
      let body ← readBody fuel
      let closing ← peekToken fuel
      unless closing.isOperator ")" do unexpected closing "\")\""
      takeToken fuel
      return .subshell line body (← readRedirects fuel)
    | .word _ =>
      match token.reserved? with
      | none => readSimple fuel line [] [] []
      | some "\x7b" =>
        takeToken fuel
        let body ← readBody fuel
        expect fuel "\x7d"
        redirected line body (← readRedirects fuel)
      | some "if" =>
        takeToken fuel
        let script ← readBranches fuel
        expect fuel "fi"
        redirected line script (← readRedirects fuel)
      | some "while" =>
        takeToken fuel
        let condition ← readBody fuel
        expect fuel "do"
        let body ← readBody fuel
        expect fuel "done"
        redirected line (.loop false condition body) (← readRedirects fuel)
      | some "until" =>
        takeToken fuel
        let condition ← readBody fuel
        expect fuel "do"
        let body ← readBody fuel
        expect fuel "done"
        redirected line (.loop true condition body) (← readRedirects fuel)
      | some "for" =>
        takeToken fuel
        let name ← match ← peekToken fuel with
          | .word word =>
            match Word.plain? word with
            | some name => if isName name then pure name else
                fail "Syntax error: Bad for loop variable"
            | none => fail "Syntax error: Bad for loop variable"
          | _ => fail "Syntax error: Bad for loop variable"
        takeToken fuel
        skipBreaks fuel
        let next ← peekToken fuel
        let items ←
          if next.reserved? = some "in" then do
            takeToken fuel
            let words ← readWords fuel
            match ← peekToken fuel with
            | .newline => takeToken fuel
            | .operator ";" => takeToken fuel
            | token => unexpected token ""
            pure words
          else do
            if next.isOperator ";" then takeToken fuel
            pure [[.parameter true ['@'] .value]]
        skipBreaks fuel
        expect fuel "do"
        let body ← readBody fuel
        expect fuel "done"
        redirected line (.forEach line name items body) (← readRedirects fuel)
      | some "case" =>
        takeToken fuel
        let subject ← match ← peekToken fuel with
          | .word word => pure word
          | token => unexpected token "word"
        takeToken fuel
        skipBreaks fuel
        expect fuel "in"
        let arms ← readArms fuel
        redirected line (.choose line subject arms) (← readRedirects fuel)
      | some _ => unexpected token ""
    | token => unexpected token ""
where
  /-- A command with redirections, if there are any. They take the place of those of a
  subshell. -/
  redirected (line : Nat) (body : Script) (redirects : List Redirect) : Reader Script :=
    return if redirects.isEmpty then body
      else match body with
        | .subshell line body _ => .subshell line body redirects
        | body => .redirected line body redirects

/-- Reads condition, body and further branches, behind `if` or `elif`. -/
def readBranches : Nat → Reader Script
  | 0 => fail "Syntax error: end of file unexpected"
  | fuel + 1 => do
    let condition ← readBody fuel
    expect fuel "then"
    let body ← readBody fuel
    let token ← peekToken fuel
    match token.reserved? with
    | some "elif" =>
      takeToken fuel
      return .conditional condition body (some (← readBranches fuel))
    | some "else" =>
      takeToken fuel
      return .conditional condition body (some (← readBody fuel))
    | _ => return .conditional condition body none

/-- Reads words up to a token that is none. -/
def readWords : Nat → Reader (List Word)
  | 0 => return []
  | fuel + 1 => do
    match ← peekToken fuel with
    | .word word =>
      takeToken fuel
      return word :: (← readWords fuel)
    | _ => return []

/-- Reads the arms of a choice, up to `esac`. -/
def readArms : Nat → Reader (List (List Word × Option Script))
  | 0 => return []
  | fuel + 1 => do
    skipBreaks fuel
    let token ← peekToken fuel
    if token.reserved? = some "esac" then
      takeToken fuel
      return []
    else
      if token.isOperator "(" then takeToken fuel
      let patterns ← readPatterns fuel
      let body ← readList fuel false true []
      skipBreaks fuel
      let token ← peekToken fuel
      if token.isOperator ";;" then
        takeToken fuel
        return (patterns, body) :: (← readArms fuel)
      else if token.reserved? = some "esac" then
        takeToken fuel
        return [(patterns, body)]
      else unexpected token "\";;\""

/-- Reads the patterns of an arm and the bracket behind them. -/
def readPatterns : Nat → Reader (List Word)
  | 0 => return []
  | fuel + 1 => do
    match ← peekToken fuel with
    | .word word =>
      takeToken fuel
      match ← peekToken fuel with
      | .operator "|" =>
        takeToken fuel
        return word :: (← readPatterns fuel)
      | .operator ")" =>
        takeToken fuel
        return [word]
      | token => unexpected token "\")\""
    | token => unexpected token "\")\""

/-- Reads the target of a redirection whose operator has been taken. -/
def readTarget : Nat → Token → Reader Redirect
  | 0, _ => fail "Syntax error: end of file unexpected"
  | fuel + 1, operator => do
    match operator with
    | .redirect descriptor opening =>
      match ← peekToken fuel with
      | .word word =>
        takeToken fuel
        return .mk descriptor opening word
      | token => unexpected token ""
    | .here descriptor dropTabs =>
      let _ ← takeWhile fun c => c == ' ' || c == '\t'
      match ← look with
      | none => unexpected (← peekToken fuel) ""
      | some c =>
        if endsWord c || c == '#' then unexpected (← peekToken fuel) ""
        else
          let mark ← readPieces fuel .mark []
          let literal (piece : Piece) : Octets × Bool :=
            match piece with
            | .text quoted text => (text, quoted)
            | _ => ([], false)
          let number := (← get).nextText
          let text : HereText := {
            number
            ending := (mark.map fun piece => (literal piece).1).flatten
            isLiteral := mark.any fun piece => (literal piece).2
            dropTabs }
          modify fun source => { source with
            waiting := text :: source.waiting, nextText := number + 1 }
          return .mk descriptor (.text number) []
    | token => unexpected token ""

/-- Reads redirections. -/
def readRedirects : Nat → Reader (List Redirect)
  | 0 => return []
  | fuel + 1 => do
    let token ← peekToken fuel
    match token with
    | .redirect _ _ =>
      takeToken fuel
      let redirect ← readTarget fuel token
      return redirect :: (← readRedirects fuel)
    | .here _ _ =>
      takeToken fuel
      let redirect ← readTarget fuel token
      return redirect :: (← readRedirects fuel)
    | _ => return []

/-- Reads the words and redirections of a simple command, the ones before in reverse. -/
def readSimple : Nat → Nat → List (Octets × Word) → List Word → List Redirect → Reader Script
  | 0, line, assignments, words, redirects =>
    return .simple line assignments.reverse words.reverse redirects.reverse
  | fuel + 1, line, assignments, words, redirects => do
    let token ← peekToken fuel
    let finish : Reader Script :=
      return .simple line assignments.reverse words.reverse redirects.reverse
    match token with
    | .redirect _ _ =>
      takeToken fuel
      readSimple fuel line assignments words ((← readTarget fuel token) :: redirects)
    | .here _ _ =>
      takeToken fuel
      readSimple fuel line assignments words ((← readTarget fuel token) :: redirects)
    | .word word =>
      takeToken fuel
      match words, Word.assignment? word with
      | [], some assignment => readSimple fuel line (assignment :: assignments) [] redirects
      | _, _ => readSimple fuel line assignments (word :: words) redirects
    | .operator "(" =>
      match words, assignments, redirects with
      | [word], [], [] =>
        takeToken fuel
        let closing ← peekToken fuel
        unless closing.isOperator ")" do unexpected closing "\")\""
        let name := (Word.plain? word).getD []
        if !isName name || specialCommands.contains (String.ofList name) then
          fail "Syntax error: Bad function name"
        takeToken fuel
        skipBreaks fuel
        return .define name (← readCommand fuel)
      | _, _, _ => finish
    | _ => finish

end

end Reader

namespace Source

/-- Reads the next complete command; without one only breaks or the end came next. -/
def next (source : Source) : Except SyntaxError (Option Script) × Source :=
  (Reader.readList (32 * source.rest.length + 64) true true []).run source

/-- Holds when nothing follows. -/
def isOver (source : Source) : Bool :=
  match source.ahead with
  | some .finish => true
  | _ => false

end Source

end PhaseBench.Host
