import PhaseBench.Host.Shell.Redirection

/-!
# Commands built into the shell

What the commands built into the shell have in common: what they yield, how their
options are read, and how they show texts.
-/

namespace PhaseBench.Host

/-- What a built-in command writes, and its exit code. -/
structure Yield where
  output : Octets := []
  status : Nat := 0

namespace Builtin

/-! ## Options -/

/-- The letters of a word of options, and the letter that takes a value with what follows it
in the word. -/
def letters (plain valued : List Char) : Octets →
    Except Octets (List Char × Option (Char × Octets))
  | [] => .ok ([], none)
  | c :: rest =>
    if valued.contains c then .ok ([], some (c, rest))
    else if plain.contains c then
      match letters plain valued rest with
      | .ok (more, value?) => .ok (c :: more, value?)
      | .error message => .error message
    else .error ("Illegal option -".toList ++ [c])

/-- The options at the beginning of arguments, each with its value, and the arguments behind
them. -/
def options (plain valued : List Char) : List Octets →
    Except Octets (List (Char × Octets) × List Octets)
  | [] => .ok ([], [])
  | word :: rest =>
    match word with
    | ['-', '-'] => .ok ([], rest)
    | '-' :: c :: more =>
      match letters plain valued (c :: more) with
      | .error message => .error message
      | .ok (found, value?) =>
        let found := found.map fun letter => (letter, [])
        match value?, rest with
        | none, rest => (options plain valued rest).map fun (more, rest) => (found ++ more, rest)
        | some (letter, []), value :: rest =>
          (options plain valued rest).map fun (more, rest) =>
            (found ++ (letter, value) :: more, rest)
        | some (letter, []), [] =>
          .error ("No arg for -".toList ++ letter :: " option".toList)
        | some (letter, value), rest =>
          (options plain valued rest).map fun (more, rest) =>
            (found ++ (letter, value) :: more, rest)
    | _ => .ok ([], word :: rest)

end Builtin

namespace Run

/-- The options of a built-in command and the arguments behind them. -/
def options (plain valued : String) (arguments : List Octets) :
    Run (List (Char × Octets) × List Octets) :=
  match Builtin.options plain.toList valued.toList arguments with
  | .ok result => return result
  | .error message => fail message

/-- The arguments of a built-in command that has no options. -/
def operands (arguments : List Octets) : Run (List Octets) := do
  return (← options "" "" arguments).2

/-- Breaks off because a text cannot name a variable. -/
def badName {α : Type} (name : Octets) : Run α := fail (name ++ ": bad variable name".toList)

end Run

/-! ## Quoting -/

/-- Puts a text between single quotes, and the single quotes in it between double quotes. -/
def singleQuoted (text : Octets) : Octets := go (text.length + 1) text
where
  /-- Quotes the next part that has no single quotes, and those behind it. -/
  go : Nat → Octets → Octets
    | 0, _ => []
    | fuel + 1, text =>
      let plain := text.takeWhile (· != '\x27')
      let quotes := (text.drop plain.length).takeWhile (· == '\x27')
      let rest := text.drop (plain.length + quotes.length)
      ['\x27'] ++ plain ++ ['\x27'] ++
        (if quotes.isEmpty then [] else ['"'] ++ quotes ++ ['"']) ++
        if rest.isEmpty then [] else go fuel rest

end PhaseBench.Host
