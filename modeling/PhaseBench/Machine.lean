import PhaseBench.Campaign
import PhaseBench.Command

/-!
# Machines

A machine is what the program finds around it: files, memory, commands that can be
started, and perhaps a user. The program works on a `World`, the state of the machine
together with what the program itself has done to be seen: what it printed and which
commands it started. Standard output takes whatever is printed, one after the other.
-/

namespace PhaseBench

universe u

/-- A machine and what it lets a program do. -/
structure Machine (σ : Type u) where
  /-- The files that a state holds. -/
  tree : σ → Tree
  withTree : σ → Tree → σ
  tree_withTree : ∀ state files, tree (withTree state files) = files
  memory : Memory
  /-- Starts a command and waits until it has ended and all that it wrote was read; nothing
  when this never happens. -/
  collect : StartMode → Command → σ → Option (Except Cause Finished × σ)
  /-- Starts a command and waits for it up to a limit; nothing when the program has to wait
  for ever nevertheless. -/
  watch : StartMode → Duration → Command → σ → Option (Except Cause Child × σ)
  /-- Makes a directory for files that are not kept, under a name of its own choice. -/
  makeScratch : σ → Except Cause String × σ
  /-- A user sits at the standard input. -/
  attended : σ → Bool
  /-- Makes sure that what was said to the user is seen. -/
  flush : σ → Except Cause Unit
  /-- Waits for a line on the standard input; nothing when none ever comes. -/
  readLine : σ → Option (Except Cause Unit × σ)

/-- What a program works on. -/
structure World (σ : Type u) where
  state : σ
  /-- What the program has written to its standard output. -/
  printed : String := ""
  /-- The commands that the program has started, the first one first. -/
  started : List Command := []
  /-- The program waits for something that never comes, and does nothing any more. -/
  stuck : Bool := false

namespace World

variable {σ : Type u}

/-- Prints a line. -/
def print (world : World σ) (line : String) : World σ :=
  { world with printed := world.printed ++ line ++ "\n" }

end World

namespace Machine

variable {σ : Type u}

/-! ## Commands -/

/-- Runs a command without a limit. A command with a NUL character is never started. -/
def collectCommand (machine : Machine σ) (command : Command) (state : σ) :
    Option (Except Cause Finished × σ) :=
  if command.hasNul then some (.error .nulInCommand, state)
  else machine.collect .collected command state

/-- Runs a command up to a limit. A command with a NUL character is never started. -/
def watchCommand (machine : Machine σ) (limit : Duration) (command : Command) (state : σ) :
    Option (Except Cause Child × σ) :=
  if command.hasNul then some (.error .nulInCommand, state)
  else machine.watch .watched limit command state

/-- Runs a command with or without a limit: its outcome, and the state that it leaves. -/
def invoke? (machine : Machine σ) (limit? : Option Duration) (command : Command) (state : σ) :
    Option (Except Trace String × σ) :=
  match limit? with
  | none => (machine.collectCommand command state).map fun (finished, state) =>
      (command.outcome finished, state)
  | some limit => (machine.watchCommand limit command state).map fun (child, state) =>
      (command.outcomeIn limit child, state)

/-- The invoker that runs a command on the machine. Once the program waits for ever there are
no more calls. -/
def invoker (machine : Machine σ) (template : Command) (limit? : Option Duration) :
    Invoker (World σ) :=
  fun call world =>
    if world.stuck then (.ok "", world)
    else
      let command := template.fill call.configuration call.path
      let world := { world with started := world.started ++ [command] }
      match machine.invoke? limit? command world.state with
      | some (reply, state) => (reply, { world with state })
      | none => (.ok "", { world with stuck := true })

/-- The bench of a command on the machine. -/
def bench (machine : Machine σ) (template : Command) (limit? : Option Duration) :
    Bench (World σ) :=
  ⟨machine.invoker template limit?, fun world => machine.tree world.state⟩

end Machine

end PhaseBench
