import PhaseBench.Host.Octets
import PhaseBench.Word

/-!
# Shell arithmetic

Integer expressions over the variables of a shell, in 64-bit two's complement
arithmetic, with the operators of C. An expression is evaluated while it is read, so
that of several things that are wrong with it the first one counts. What need not be
evaluated is only read.
-/

namespace PhaseBench.Host

namespace Arithmetic

/-- Brings a number into the range of 64 bits. -/
def wrap (n : Int) : Int := Int.bmod n Word.count

/-! ## Tokens -/

/-- The operators for two numbers, by precedence from the loosest. -/
def levels : List (List String) :=
  [["|"], ["^"], ["&"], ["==", "!="], ["<=", ">=", "<", ">"], ["<<", ">>"], ["+", "-"],
    ["*", "/", "%"]]

/-- All operators, the longer ones first. -/
def operators : List String :=
  ["<<=", ">>=", "<<", ">>", "<=", ">=", "==", "!=", "&&", "||", "+=", "-=", "*=", "/=", "%=",
    "&=", "|=", "^=", "+", "-", "*", "/", "%", "<", ">", "&", "|", "^", "!", "~", "=", "?", ":",
    "(", ")"]

/-- The operators that assign. -/
def assigning : List String := ["=", "+=", "-=", "*=", "/=", "%=", "&=", "|=", "^=", "<<=", ">>="]

/-- A token of an expression. -/
inductive Token
  | number (value : Nat)
  | name (name : Octets)
  | operator (text : String)
  /-- A character that there is no place for. -/
  | unknown

/-- The value of a digit; what is none counts as too great for any base. -/
def digitValue (c : Char) : Nat :=
  if c.isDigit then c.toNat - 48
  else if 'a' ≤ c && c ≤ 'z' then c.toNat - 87
  else if 'A' ≤ c && c ≤ 'Z' then c.toNat - 55
  else 36

/-- The value of the digits of a base at the beginning of a text, and what follows them. A
number that is too great counts as the greatest. -/
def readDigits (base : Nat) (text : Octets) : Nat × Octets :=
  let isDigit (c : Char) : Bool := decide (digitValue c < base)
  let digits := text.takeWhile isDigit
  (min (Word.half - 1) (digits.foldl (fun n c => base * n + digitValue c) 0),
    text.drop digits.length)

/-- The value of the numeral at the beginning of a text: hexadecimal behind `0x`, octal behind
`0`, or decimal. -/
def readNumeral (text : Octets) : Nat × Octets :=
  match text with
  | '0' :: x :: rest =>
    if (x == 'x' || x == 'X') && rest.head?.any (digitValue · < 16) then readDigits 16 rest
    else readDigits 8 text
  | _ => readDigits 10 text

/-- The value of a text that is a numeral. -/
def numeral? (text : Octets) : Option Nat :=
  if !text.head?.any Char.isDigit then none
  else
    match readNumeral text with
    | (value, []) => some value
    | _ => none

/-- Cuts an expression into tokens. -/
def tokens : Nat → Octets → List Token
  | 0, _ => []
  | _ + 1, [] => []
  | fuel + 1, c :: rest =>
    if Octets.isSpace c then tokens fuel rest
    else if c.isDigit then
      let (value, behind) := readNumeral (c :: rest)
      .number value :: tokens fuel behind
    else if c.isAlpha || c == '_' then
      let isPart (c : Char) : Bool := c.isAlphanum || c == '_'
      .name (c :: rest.takeWhile isPart) :: tokens fuel (rest.dropWhile isPart)
    else
      match operators.find? fun text => text.toList.isPrefixOf (c :: rest) with
      | some text => .operator text :: tokens fuel ((c :: rest).drop text.length)
      | none => [.unknown]

/-! ## Operators -/

/-- What a shift multiplies or divides by. Only the last six bits of its distance count. -/
def shiftFactor (distance : Int) : Int := Int.ofNat (Nat.pow 2 (distance % 64).toNat)

/-- The value of an operator for two numbers; nothing for a division by zero. -/
def apply (operator : String) (a b : Int) : Option Int :=
  let truth (p : Bool) : Option Int := some (if p then 1 else 0)
  match operator with
  | "+" => some (wrap (a + b))
  | "-" => some (wrap (a - b))
  | "*" => some (wrap (a * b))
  | "/" => if b = 0 then none else some (wrap (a.tdiv b))
  | "%" => if b = 0 then none else some (wrap (a.tmod b))
  | "<<" => some (wrap (a * shiftFactor b))
  | ">>" => some (a.fdiv (shiftFactor b))
  | "<" => truth (a < b)
  | ">" => truth (b < a)
  | "<=" => truth (a ≤ b)
  | ">=" => truth (b ≤ a)
  | "==" => truth (a = b)
  | "!=" => truth (a ≠ b)
  | "&" => some (BitVec.ofInt 64 a &&& BitVec.ofInt 64 b).toInt
  | "|" => some (BitVec.ofInt 64 a ||| BitVec.ofInt 64 b).toInt
  | "^" => some (BitVec.ofInt 64 a ^^^ BitVec.ofInt 64 b).toInt
  | _ => none

/-! ## Evaluation -/

/-- Why an expression has no value. -/
inductive Failure
  /-- The expression itself is wrong. -/
  | expression (reason : String)
  /-- A variable holds no number. -/
  | number (text : Octets)

/-- The variables that an expression changes, the last change first. -/
abbrev Changes := List (Octets × Octets)

/-- The number in a variable, zero when it is unset or empty. -/
def numberOf (text : Octets) : Except Failure Int :=
  let trimmed := ((text.dropWhile Octets.isSpace).reverse.dropWhile Octets.isSpace).reverse
  let value? : Option Int := match trimmed with
    | [] => some 0
    | '-' :: digits => (numeral? digits).map fun n => -(n : Int)
    | '+' :: digits => (numeral? digits).map fun n => n
    | digits => (numeral? digits).map fun n => n
  match value? with
  | some value => .ok value
  | none => .error (.number text)

/-- An expression being evaluated: the tokens ahead and the changes made so far. -/
structure Progress where
  ahead : List Token
  changes : Changes := []

/-- A part of an evaluation. -/
abbrev Calculation := StateT Progress (Except Failure)

/-- Breaks off because the expression is wrong. -/
def wrong {α : Type} (reason : String) : Calculation α := throw (.expression reason)

/-- Skips tokens. -/
def skip (count : Nat) : Calculation Unit :=
  modify fun progress => { progress with ahead := progress.ahead.drop count }

/-- The number in a variable, as the changes so far have left it. -/
def current (outer : Octets → Option Octets) (name : Octets) : Calculation Int := do
  match (← get).changes.find? (·.1 == name) with
  | some (_, value) => numberOf value
  | none => numberOf ((outer name).getD [])

/-- The value of an operator; only a division can have none. -/
def applied (operator : String) (a b : Int) : Calculation Int :=
  match apply operator a b with
  | some value => return value
  | none => wrong "division by zero"

mutual

/-- Reads an expression that may assign. The value counts only if the expression is `live`. -/
def assignment (outer : Octets → Option Octets) (live : Bool) : Nat → Calculation Int
  | 0 => wrong "expecting primary"
  | fuel + 1 => do
    match (← get).ahead with
    | .name name :: .operator operator :: _ =>
      if assigning.contains operator then
        skip 2
        let b ← assignment outer live fuel
        if !live then return b
        else
          let result ← if operator = "=" then pure b
            else applied (String.ofList operator.toList.dropLast) (← current outer name) b
          modify fun progress => { progress with
            changes := (name, Octets.ofInt result) :: progress.changes }
          return result
      else choice outer live fuel
    | _ => choice outer live fuel

/-- Reads an expression that may choose between two others. -/
def choice (outer : Octets → Option Octets) (live : Bool) : Nat → Calculation Int
  | 0 => wrong "expecting primary"
  | fuel + 1 => do
    let condition ← disjunction outer live fuel
    match (← get).ahead with
    | .operator "?" :: _ =>
      skip 1
      let yes ← assignment outer (live && condition != 0) fuel
      match (← get).ahead with
      | .operator ":" :: _ =>
        skip 1
        let no ← choice outer (live && condition == 0) fuel
        return if condition = 0 then no else yes
      | _ => wrong "expecting \x27:\x27"
    | _ => return condition

/-- Reads expressions of which one must be true. -/
def disjunction (outer : Octets → Option Octets) (live : Bool) : Nat → Calculation Int
  | 0 => wrong "expecting primary"
  | fuel + 1 => do
    let left ← conjunction outer live fuel
    match (← get).ahead with
    | .operator "||" :: _ =>
      skip 1
      let right ← disjunction outer (live && left == 0) fuel
      return if left = 0 ∧ right = 0 then 0 else 1
    | _ => return left

/-- Reads expressions that must all be true. -/
def conjunction (outer : Octets → Option Octets) (live : Bool) : Nat → Calculation Int
  | 0 => wrong "expecting primary"
  | fuel + 1 => do
    let left ← level outer live fuel levels
    match (← get).ahead with
    | .operator "&&" :: _ =>
      skip 1
      let right ← conjunction outer (live && left != 0) fuel
      return if left = 0 ∨ right = 0 then 0 else 1
    | _ => return left

/-- Reads an expression of the operators of some levels. -/
def level (outer : Octets → Option Octets) (live : Bool) : Nat → List (List String) →
    Calculation Int
  | 0, _ => wrong "expecting primary"
  | fuel + 1, [] => operand outer live fuel
  | fuel + 1, operators :: tighter => do
    let left ← level outer live fuel tighter
    further outer live fuel operators tighter left

/-- Reads further operands of a level, which join from the left. -/
def further (outer : Octets → Option Octets) (live : Bool) : Nat → List String →
    List (List String) → Int → Calculation Int
  | 0, _, _, _ => wrong "expecting primary"
  | fuel + 1, operators, tighter, left => do
    match (← get).ahead with
    | .operator operator :: _ =>
      if operators.contains operator then
        skip 1
        let right ← level outer live fuel tighter
        let value ← if live then applied operator left right else pure right
        further outer live fuel operators tighter value
      else return left
    | _ => return left

/-- Reads an operand. -/
def operand (outer : Octets → Option Octets) (live : Bool) : Nat → Calculation Int
  | 0 => wrong "expecting primary"
  | fuel + 1 => do
    let ahead := (← get).ahead
    skip 1
    match ahead with
    | .number value :: _ => return wrap value
    | .name name :: _ => if live then current outer name else return 0
    | .operator "(" :: _ =>
      let value ← assignment outer live fuel
      match (← get).ahead with
      | .operator ")" :: _ =>
        skip 1
        return value
      | _ => wrong "expecting \x27)\x27"
    | .operator "+" :: _ => operand outer live fuel
    | .operator "-" :: _ => return wrap (-(← operand outer live fuel))
    | .operator "!" :: _ => return if (← operand outer live fuel) = 0 then 1 else 0
    | .operator "~" :: _ => return wrap (-(← operand outer live fuel) - 1)
    | _ => wrong "expecting primary"

end

/-- The value of the text of an expression and the changes that it makes, the first one
first. -/
def value (outer : Octets → Option Octets) (text : Octets) : Except Failure (Int × Changes) := do
  let ahead := tokens (text.length + 1) text
  let (value, progress) ← (assignment outer true (20 * ahead.length + 20)).run { ahead }
  if progress.ahead.isEmpty then return (value, progress.changes.reverse)
  else throw (.expression "expecting EOF")

end Arithmetic

end PhaseBench.Host
