import PhaseBench.Text.Utf8
import PhaseBench.Trace

/-!
# Children

A child is a command that was started. Without a limit it is waited for until it has
ended and all that it wrote was read. With a limit it leads a process group of its own,
and when it does not end in time the whole group is killed.
-/

namespace PhaseBench

/-! ## How a command is started -/

/-- What a command reads as its standard input. -/
inductive Input
  | nothing
  /-- What the program would read itself. -/
  | inherited
deriving DecidableEq

/-- The process group in which a command is started. -/
inductive ProcessGroup
  /-- That of the program. -/
  | shared
  /-- One of its own. -/
  | own
deriving DecidableEq

/-- How a command is started. -/
structure StartMode where
  input : Input
  group : ProcessGroup
deriving DecidableEq

namespace StartMode

/-- How a command is started that is waited for without a limit. -/
def collected : StartMode := ⟨.nothing, .shared⟩

/-- How a command is started that is waited for up to a limit. -/
def watched : StartMode := ⟨.inherited, .own⟩

end StartMode

/-! ## What became of it -/

/-- A command that has ended, and all that it wrote. -/
structure Finished where
  output : ByteArray
  ending : Ending

/-- What came of killing a process group. -/
inductive Kill
  | done
  /-- There was nobody in it any more. -/
  | nobody
  | refused (cause : Cause)
deriving DecidableEq

/-- A command that was waited for up to a limit. -/
inductive Child
  /-- It could not be waited for. -/
  | lost (cause : Cause)
  /-- It ended in time. What it wrote was read meanwhile, unless the reader broke down. -/
  | ended (ending : Ending) (output? : Option (Except Cause ByteArray))
  /-- It did not end in time; its process group was killed, and then it was waited for. -/
  | overran (kill : Kill) (reaped : Except Cause Unit)

/-- Refuses an ending other than a good one. -/
def Ending.check (ending : Ending) : Except Trace Unit :=
  if ending.succeeded then .ok () else .error (.ofCause (.ended ending))

/-- The text of a command that is waited for without a limit: its whole output is taken, and
then its ending is looked at. -/
def Finished.text (finished : Except Cause Finished) : Except Trace String := do
  let finished ← attempt .output finished
  finished.ending.check
  return Text.textOfBytes finished.output

/-- Refuses a process group that could not be killed. That nobody was in it is no failure. -/
def Kill.check : Kill → Except Trace Unit
  | .done => .ok ()
  | .nobody => .ok ()
  | .refused cause => .error ⟨[.killGroup], cause⟩

namespace Child

/-- The bytes that a reader gives. -/
def readAll : Option (Except Cause ByteArray) → Except Trace ByteArray
  | none => .error (.ofCause .readerLost)
  | some output => attempt .read output

/-- The text of a command that is waited for up to a limit, nothing when it did not end in
time. What it wrote until then is dropped. -/
def text? (child : Except Cause Child) : Except Trace (Option String) := do
  match ← attempt .spawn child with
  | .lost cause => throw ⟨[.wait], cause⟩
  | .ended ending output? =>
    let output ← readAll output?
    ending.check
    return some (Text.textOfBytes output)
  | .overran kill reaped =>
    within .killAfterLimit kill.check
    attempt .waitAfterKill reaped
    return none

end Child

end PhaseBench
