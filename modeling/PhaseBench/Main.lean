import PhaseBench.Host.Standard
import PhaseBench.Session

/-!
# The command line program

Runs a session on the standard machine with an empty working directory, prints
what it printed and ends as it ended.
-/

/-- Runs the program with the given arguments. A session without an end goes on for ever. -/
def main (arguments : List String) : IO UInt32 := do
  let session := PhaseBench.Host.standard.session arguments
    { tree := PhaseBench.Host.standardTree }
  IO.print session.world.printed
  if let .failed trace := session.verdict then IO.eprintln trace.report
  while session.verdict = .stuck do IO.sleep 1000
  -- A process that aborts is reported like one that a signal ended.
  return (session.verdict.exitCode?.getD 134).toUInt32
