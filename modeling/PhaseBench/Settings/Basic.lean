import PhaseBench.Campaign

/-!
# Settings

What the command line decides. Each setting that is not given has a standard
value.
-/

namespace PhaseBench

/-- The settings of a run of the program. -/
structure Settings where
  dir : String := Plan.standardDir
  features : List String := []
  runs : Nat := Plan.standardRuns
  command : Option String := none
  /-- The limit of a single run, in seconds. -/
  timeout : Option Nat := none
  onFailure : FailurePolicy := .abort
  svg : Bool := false
  svgDir : Option String := none
  noWait : Bool := false
deriving DecidableEq

namespace Settings

/-- The configurations to benchmark: the features that were given, or the standard ones
when there are none. An empty feature text counts as given. -/
def configurations (settings : Settings) : List Configuration :=
  if settings.features.isEmpty then Plan.standardConfigurations
  else settings.features.map Configuration.mk

/-- Holds when charts are drawn into files. -/
def drawsFiles (settings : Settings) : Bool := settings.svg || settings.svgDir.isSome

end Settings

/-- Why a command line was not accepted. -/
inductive UsageError
  /-- Help was asked for. -/
  | help
  /-- Nothing was asked for. -/
  | nothingGiven
  | unknownCommand
  | unknownArgument
  /-- A value is missing, empty where that is not allowed, or none of those possible. -/
  | invalidValue
  /-- A value is not a number in range. -/
  | notNumber
  | givenTwice
  | valueForSwitch
deriving DecidableEq

/-- The exit code of the program when the command line is not accepted. -/
def UsageError.exitCode : UsageError → Nat
  | .help => 0
  | _ => 2

end PhaseBench
