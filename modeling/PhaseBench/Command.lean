import PhaseBench.Child
import PhaseBench.Tree.Basic

/-!
# Commands

A command is a program and its arguments. As a template its arguments may hold
two marks, one for the label of a configuration and one for the path of an input;
filling them in never changes the program or the number of arguments.
-/

namespace PhaseBench

namespace Text

/-- Replaces the occurrences of a mark, from left to right and without overlaps. `skip` is
the number of characters that still belong to the occurrence before. -/
def replaceFrom (mark value : List Char) : Nat → List Char → List Char
  | _, [] => []
  | skip + 1, _ :: rest => replaceFrom mark value skip rest
  | 0, c :: rest =>
    if mark.isPrefixOf (c :: rest) then value ++ replaceFrom mark value (mark.length - 1) rest
    else c :: replaceFrom mark value 0 rest

/-- Replaces every occurrence of a mark in a text. -/
def replaceAll (mark value text : String) : String :=
  String.ofList (replaceFrom mark.toList value.toList 0 text.toList)

end Text

/-- A program and its arguments. -/
structure Command where
  program : String
  arguments : List String
deriving DecidableEq

namespace Command

/-- The mark in whose place the label of the configuration is put. -/
def featuresMark : String := "\x7bfeatures\x7d"

/-- The mark in whose place the path of the input is put. -/
def inputMark : String := "\x7binput\x7d"

/-- The template that is used when none is given. -/
def standardTemplate : List String :=
  ["cargo", "run", "-q", "--features", featuresMark, "--", inputMark]

/-- The command made of the given words. -/
def ofWords : List String → Except Cause Command
  | [] => .error .emptyCommand
  | program :: arguments => .ok ⟨program, arguments⟩

/-- An argument with the marks filled in: first the label everywhere, then the path
everywhere. -/
def fillArgument (configuration : Configuration) (path argument : String) : String :=
  Text.replaceAll inputMark path (Text.replaceAll featuresMark configuration.label argument)

/-- The command for one run. -/
def fill (template : Command) (configuration : Configuration) (path : String) : Command :=
  { template with arguments := template.arguments.map (fillArgument configuration path) }

/-- What is shown in the place of a word that holds a NUL character. -/
def shownWord (word : String) : String := if hasNul word then "<string-with-nul>" else word

/-- Holds for a command that cannot be started because a word holds a NUL character. -/
def hasNul (command : Command) : Bool :=
  PhaseBench.hasNul command.program || command.arguments.any PhaseBench.hasNul

/-- A command as messages show it. -/
def description (command : Command) : String :=
  " ".intercalate (Text.quoteProgram (shownWord command.program) ::
    command.arguments.map fun argument => Text.quote (shownWord argument))

/-- The outcome of a command that is waited for without a limit. -/
def outcome (command : Command) (finished : Except Cause Finished) : Except Trace String :=
  within (.command command.description) (Finished.text finished)

/-- The outcome of a command that is waited for up to a limit. -/
def outcomeIn (command : Command) (limit : Duration) (child : Except Cause Child) :
    Except Trace String := do
  match ← within (.command command.description) (Child.text? child) with
  | some text => return text
  | none => throw (.ofCause (.timedOut command.description limit))

end Command

end PhaseBench
