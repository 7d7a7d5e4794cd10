import PhaseBench.Host.Octets
import PhaseBench.Tree.Basic

/-!
# Conditions

The command `test`: comparisons of texts and numbers and questions about files,
joined by negation, conjunction and disjunction. What a word means depends on the
words around it: an operator without operands is a text like any other.
-/

namespace PhaseBench.Host

namespace Condition

/-- The part that a word can play. -/
inductive Role
  | operand
  /-- An operator before its operand. -/
  | unary
  /-- An operator between its operands. -/
  | binary
  | negation
  | conjunction
  | disjunction
  | opening
  | closing
  /-- No word is left. -/
  | missing
deriving DecidableEq

/-- The operators before an operand. -/
def unaryOperators : List String :=
  ["-r", "-w", "-x", "-e", "-f", "-d", "-c", "-b", "-p", "-u", "-g", "-k", "-s", "-t", "-z", "-n",
    "-h", "-L", "-O", "-G", "-S"]

/-- The operators between operands. -/
def binaryOperators : List String :=
  ["=", "!=", "<", ">", "-eq", "-ne", "-ge", "-gt", "-le", "-lt", "-nt", "-ot", "-ef"]

/-- The part that a word plays if nothing around it speaks against that. -/
def roleOf (word : Octets) : Role :=
  match word with
  | ['!'] => .negation
  | ['-', 'a'] => .conjunction
  | ['-', 'o'] => .disjunction
  | ['('] => .opening
  | [')'] => .closing
  | word =>
    let text := String.ofList word
    if unaryOperators.contains text then .unary
    else if binaryOperators.contains text then .binary
    else .operand

/-- Holds when an operator before an operand has none, and so is a text. -/
def standsAlone : List Octets → Bool
  | [] => true
  | [_] => false
  | next :: _ :: _ => roleOf next = .binary

/-- The part that the first of some words plays. -/
def role : List Octets → Role
  | [] => .missing
  | word :: rest =>
    match roleOf word with
    | .unary => if standsAlone rest then .operand else .unary
    | .opening => if rest.isEmpty then .operand else .opening
    | other => other

/-- The answer to a question about one operand. -/
def unary (tree : Tree) (operator operand : Octets) : Bool :=
  let path := operand.toText
  let node? (purpose : Purpose) : Option Node :=
    match tree.spot purpose path with
    | .ok (.found _ node) => some node
    | _ => none
  match operator with
  | ['-', 'n'] => !operand.isEmpty
  | ['-', 'z'] => operand.isEmpty
  | ['-', 'f'] => tree.isRegular path
  | ['-', 'd'] => tree.isDirectory path
  | ['-', 'x'] =>
    match node? .reach with
    | some .directory => true
    | some (.program _) => true
    | _ => false
  | ['-', 's'] =>
    match node? .reach with
    | some (.file content) => content.size != 0
    | some .directory => true
    | some (.program _) => true
    | _ => false
  | ['-', 'h'] => match node? .name with | some (.link _) => true | _ => false
  | ['-', 'L'] => match node? .name with | some (.link _) => true | _ => false
  | ['-', 'c'] => match node? .reach with | some (.device _) => true | _ => false
  | ['-', 'e'] => (node? .reach).isSome
  | ['-', 'r'] => (node? .reach).isSome
  | ['-', 'w'] => (node? .reach).isSome
  | ['-', 'O'] => (node? .reach).isSome
  | ['-', 'G'] => (node? .reach).isSome
  | _ => false

/-- The number of an operand. -/
def number (operand : Octets) : Except String Int :=
  match operand.toInt? with
  | some n => .ok n
  | none => .error ("Illegal number: " ++ String.ofList operand)

/-- The answer of an operator between two operands. -/
def binary (tree : Tree) (operator left right : Octets) : Except String Bool :=
  let numbers (compare : Int → Int → Bool) : Except String Bool := do
    return compare (← number left) (← number right)
  match String.ofList operator with
  | "=" => .ok (left = right)
  | "!=" => .ok (left ≠ right)
  | "<" => .ok (decide (left < right))
  | ">" => .ok (decide (right < left))
  | "-eq" => numbers fun a b => a = b
  | "-ne" => numbers fun a b => a ≠ b
  | "-lt" => numbers fun a b => a < b
  | "-le" => numbers fun a b => a ≤ b
  | "-gt" => numbers fun a b => b < a
  | "-ge" => numbers fun a b => b ≤ a
  | "-ef" =>
    match tree.resolve left.toText, tree.resolve right.toText with
    | .ok (a, _), .ok (b, _) => .ok (a = b)
    | _, _ => .ok false
  | _ => .ok false

mutual

/-- Reads alternatives from some words, whose first one plays a given part. What is left
begins with the last word that was read. -/
def readOr (tree : Tree) : Nat → List Octets → Role → Except String (Bool × List Octets)
  | 0, words, _ => .ok (false, words)
  | fuel + 1, words, part => do
    let (left, words) ← readAnd tree fuel words part
    if role words.tail = .disjunction then
      let words := words.drop 2
      let (right, words) ← readOr tree fuel words (role words)
      return (left || right, words)
    else return (left, words)

/-- Reads conditions that must all hold. -/
def readAnd (tree : Tree) : Nat → List Octets → Role → Except String (Bool × List Octets)
  | 0, words, _ => .ok (false, words)
  | fuel + 1, words, part => do
    let (left, words) ← readNot tree fuel words part
    if role words.tail = .conjunction then
      let words := words.drop 2
      let (right, words) ← readAnd tree fuel words (role words)
      return (left && right, words)
    else return (left, words)

/-- Reads a condition that may be negated. -/
def readNot (tree : Tree) : Nat → List Octets → Role → Except String (Bool × List Octets)
  | 0, words, _ => .ok (false, words)
  | fuel + 1, words, part =>
    if part = .negation then do
      let next := role words.tail
      let words := if next = .missing then words else words.tail
      let (holds, words) ← readNot tree fuel words next
      return (!holds, words)
    else readPrimary tree fuel words part

/-- Reads a condition that is not negated. -/
def readPrimary (tree : Tree) : Nat → List Octets → Role → Except String (Bool × List Octets)
  | 0, words, _ => .ok (false, words)
  | fuel + 1, words, part =>
    match part with
    | .missing => .ok (false, words)
    | .opening => do
      let inner := words.tail
      let next := role inner
      if next = .closing then return (false, inner)
      else
        let (holds, words) ← readOr tree fuel inner next
        if role words.tail = .closing then return (holds, words.tail)
        else throw "closing paren expected"
    | .unary =>
      let operator := words.head?.getD []
      match words.tail with
      | [] => .error (String.ofList operator ++ ": argument expected")
      | operand :: rest => .ok (unary tree operator operand, operand :: rest)
    | _ =>
      match words with
      | left :: operator :: rest =>
        if role (operator :: rest) = .binary then
          match rest with
          | right :: _ => do return (← binary tree operator left right, rest)
          | [] => throw (String.ofList operator ++ ": argument expected")
        else .ok (!left.isEmpty, words)
      | [only] => .ok (!only.isEmpty, words)
      | [] => .ok (false, words)

end

/-- The answer for words of which the first plays a given part. -/
def holds (tree : Tree) (words : List Octets) (part : Role) : Except String Bool := do
  let (holds, rest) ← readOr tree (4 * words.length + 4) words part
  match rest with
  | word :: _ :: _ =>
    throw (if word.isEmpty then "unexpected operator"
      else String.ofList word ++ ": unexpected operator")
  | _ => return holds

/-- The answer for all words of a condition. With three words the middle one decides, and with
four the outer ones are looked at first. Negations that are found in this way count once. -/
def answer (tree : Tree) : Nat → Bool → List Octets → Except String Bool
  | 0, _, _ => .ok false
  | fuel + 1, negated, words =>
    let settle (result : Except String Bool) : Except String Bool := result.map (· != negated)
    let plain := settle (holds tree words (role words))
    let outer : Except String Bool :=
      match words with
      | ['('] :: rest =>
        if rest.getLast? = some [')'] then settle (holds tree rest.dropLast (role rest.dropLast))
        else plain
      | ['!'] :: rest => answer tree fuel true rest
      | _ => plain
    match words with
    | [] => .ok negated
    | [_, operator, _] =>
      if roleOf operator = .binary then settle (holds tree words .operand) else outer
    | [_, _, _, _] => outer
    | _ => plain

end Condition

/-- The answer of `test`, or what is wrong with the words. -/
def testAnswer (tree : Tree) (words : List Octets) : Except String Bool :=
  Condition.answer tree (words.length + 1) false words

end PhaseBench.Host
