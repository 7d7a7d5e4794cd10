import PhaseBench.Duration
import PhaseBench.Table.Basic

/-!
# Failures

A failure is a `Cause` together with the steps that were under way when it arose,
the outermost first: its `Trace`. The wording of causes and steps is here and
nowhere else.
-/

namespace PhaseBench

/-- What the operating system answers to a request that it refuses. -/
inductive OsError
  | noEntry
  | noProcess
  | interrupted
  | argumentsTooLong
  | noExecutable
  | badDescriptor
  | noAccess
  | alreadyExists
  | notDirectory
  | isDirectory
  | noSpace
  | brokenPipe
  | nameTooLong
  | tooManyLinks
deriving DecidableEq

namespace OsError

/-- The wording and the number of an error. -/
def description : OsError → String × Nat
  | .noEntry => ("No such file or directory", 2)
  | .noProcess => ("No such process", 3)
  | .interrupted => ("Interrupted system call", 4)
  | .argumentsTooLong => ("Argument list too long", 7)
  | .noExecutable => ("Exec format error", 8)
  | .badDescriptor => ("Bad file descriptor", 9)
  | .noAccess => ("Permission denied", 13)
  | .alreadyExists => ("File exists", 17)
  | .notDirectory => ("Not a directory", 20)
  | .isDirectory => ("Is a directory", 21)
  | .noSpace => ("No space left on device", 28)
  | .brokenPipe => ("Broken pipe", 32)
  | .nameTooLong => ("File name too long", 36)
  | .tooManyLinks => ("Too many levels of symbolic links", 40)

/-- The message of an error. -/
def message (error : OsError) : String :=
  let (wording, number) := error.description
  wording ++ " (os error " ++ Text.decimal number ++ ")"

end OsError

/-- How a process ended. -/
inductive Ending
  | exit (code : Nat)
  /-- A signal ended it, and its memory may have been dumped to a file. -/
  | signal (number : Nat) (dumped : Bool := false)
deriving DecidableEq

namespace Ending

/-- Holds for a process that ended well. -/
def succeeded (ending : Ending) : Bool := ending = .exit 0

/-- The names of the signals, by number. -/
def signalNames : List (Nat × String) := [
  (1, "SIGHUP"), (2, "SIGINT"), (3, "SIGQUIT"), (4, "SIGILL"), (5, "SIGTRAP"), (6, "SIGABRT"),
  (7, "SIGBUS"), (8, "SIGFPE"), (9, "SIGKILL"), (10, "SIGUSR1"), (11, "SIGSEGV"),
  (12, "SIGUSR2"), (13, "SIGPIPE"), (14, "SIGALRM"), (15, "SIGTERM"), (16, "SIGSTKFLT"),
  (17, "SIGCHLD"), (18, "SIGCONT"), (19, "SIGSTOP"), (20, "SIGTSTP"), (21, "SIGTTIN"),
  (22, "SIGTTOU"), (23, "SIGURG"), (24, "SIGXCPU"), (25, "SIGXFSZ"), (26, "SIGVTALRM"),
  (27, "SIGPROF"), (28, "SIGWINCH"), (29, "SIGIO"), (30, "SIGPWR"), (31, "SIGSYS")]

/-- The text of an ending; a signal without a name is given by its number alone. -/
def text : Ending → String
  | .exit code => "exit status: " ++ Text.decimal code
  | .signal number dumped =>
    let name := match signalNames.find? fun entry => entry.1 == number with
      | some (_, name) => " (" ++ name ++ ")"
      | none => ""
    "signal: " ++ Text.decimal number ++ name ++ if dumped then " (core dumped)" else ""

end Ending

/-- Why something failed. -/
inductive Cause
  | os (error : OsError)
  /-- A path holds a NUL character. -/
  | nulInPath
  /-- A word of a command holds a NUL character. -/
  | nulInCommand
  | emptyCommand
  | noRuns
  | repeated (configuration : Configuration)
  | notDirectory (path : String)
  | ended (ending : Ending)
  | timedOut (command : String) (limit : Duration)
  /-- The thread that reads the output of a command broke down. -/
  | readerLost
  /-- A message in words that are not the program's own. -/
  | reported (message : String)
deriving DecidableEq

/-- The message of a cause. -/
def Cause.message : Cause → String
  | .os error => error.message
  | .nulInPath => "file name contained an unexpected NUL byte"
  | .nulInCommand => "nul byte found in provided data"
  | .emptyCommand => "empty command"
  | .noRuns => "the number of runs must be at least 1"
  | .repeated configuration => "configuration " ++ configuration.display ++ " given more than once"
  | .notDirectory path => Text.quote path ++ " is not a directory"
  | .ended ending => "exited with non-zero status " ++ ending.text
  | .timedOut command limit => command ++ " timed out after " ++ limit.text
  | .readerLost => "stdout reader panicked"
  | .reported message => message

/-- A step that was under way when something failed. -/
inductive Step
  | makeInvoker
  | makePlan
  | matrix
  | makeGallery
  | present
  | inputFiles
  | readDirectory (path : String)
  | cell (configuration : Configuration) (path : String)
  | run (index : Nat)
  | command (description : String)
  | output
  | spawn
  | wait
  | killAfterLimit
  | killGroup
  | waitAfterKill
  | read
  | createDirectory (path : String)
  | makeScratch
  | write (path : String)
  | flush
  | readInput
deriving DecidableEq

/-- The message of a step. -/
def Step.message : Step → String
  | .makeInvoker => "CommandInvoker::new"
  | .makePlan => "Bench::new"
  | .matrix => "bench"
  | .makeGallery => "SvgViewer::new"
  | .present => "show"
  | .inputFiles => "input files"
  | .readDirectory path => "read dir " ++ Text.quote path
  | .cell configuration path => "bench " ++ configuration.display ++ " on " ++ Text.quote path
  | .run index => "run " ++ Text.decimal index
  | .command description => description
  | .output => "output"
  | .spawn => "spawn"
  | .wait => "wait"
  | .killAfterLimit => "kill after timeout"
  | .killGroup => "killpg"
  | .waitAfterKill => "wait after kill"
  | .read => "read"
  | .createDirectory path => "create_dir " ++ Text.quote path
  | .makeScratch => "tempdir"
  | .write path => "write " ++ Text.quote path
  | .flush => "flush"
  | .readInput => "read stdin"

/-- A cause with the steps around it, the outermost first. -/
structure Trace where
  steps : List Step
  cause : Cause
deriving DecidableEq

namespace Trace

/-- A cause that arose outside of any step. -/
def ofCause (cause : Cause) : Trace := ⟨[], cause⟩

/-- The failure seen from one step further out. -/
def within (step : Step) (trace : Trace) : Trace := ⟨step :: trace.steps, trace.cause⟩

/-- The messages of the steps and of the cause, the outermost first. -/
def messages (trace : Trace) : List String :=
  trace.steps.map Step.message ++ [trace.cause.message]

/-- The messages on one line. -/
def line (trace : Trace) : String := ": ".intercalate trace.messages

/-- The messages as the program reports them before it ends: the outermost one, then the
others one below the other, numbered when there are several. -/
def report (trace : Trace) : String :=
  match trace.messages with
  | [] => "Error:"
  | [only] => "Error: " ++ only
  | [outer, inner] => "Error: " ++ outer ++ "\n\nCaused by:\n    " ++ inner
  | outer :: inner =>
    "Error: " ++ outer ++ "\n\nCaused by:" ++
      String.join (inner.zipIdx.map fun (message, index) =>
        "\n" ++ Text.padStart 5 (Text.decimal index) ++ ": " ++ message)

end Trace

/-- Adds a step around the failure of a result. -/
def within {α : Type} (step : Step) : Except Trace α → Except Trace α
  | .ok value => .ok value
  | .error trace => .error (trace.within step)

/-- Takes the result of a step, whose failure has no steps inside of it yet. -/
def attempt {α : Type} (step : Step) : Except Cause α → Except Trace α
  | .ok value => .ok value
  | .error cause => .error ⟨[step], cause⟩

end PhaseBench
