import PhaseBench.Child
import PhaseBench.Host.Kernel.Answer

/-!
# Running processes

The process that is ready first does the next step. A command is started as a
process whose output is collected outside; it is waited for until it has ended and
nobody can add to its output any more. With a limit its group of processes is killed
when the process itself has not ended in time.
-/

namespace PhaseBench.Host

namespace Kernel

/-- The process that does the next step: of those that can, the one that is ready first. -/
def next? (kernel : Kernel) : Option Process := kernel.processes.foldl Process.first none

/-- The child that a process starts, in the group of the process and with its open files. -/
def offspring (process : Process) (id : Nat) (task : Task) : Process :=
  { process with
    id, parent := process.id, task, ready := process.ready + childDelay
    caught := [], pending := [], held := [] }

/-- A process starts a child and goes on. -/
def fork (kernel : Kernel) (process : Process) (child : Task) (next : Nat → Task) : Kernel :=
  let id := kernel.lastId + 1
  let kernel := { kernel with lastId := id }.change process.id fun process =>
    { process with task := next id, ready := process.ready + forkCost }
  { kernel with processes := kernel.processes ++ [offspring process id child] }

/-- What a process does in its next step, at the time that the clock shows. -/
def act (kernel : Kernel) (process : Process) : Kernel :=
  match process.doom, process.task with
  | some signal, _ => kernel.finish process.id (.signal signal)
  | none, .ended code => kernel.finish process.id (.exit (code % 256))
  | none, .fork child next => kernel.fork process child next
  | none, .ask request next =>
    match kernel.answer process request with
    | none => kernel.change process.id fun process => { process with blocked := true }
    | some answer =>
      answer.kernel.change process.id fun current =>
        if current.ending.isSome then current
        else { current with
          task := next answer.reply, ready := process.ready + answer.cost, blocked := false }

/-- A process does its next step. -/
def step (kernel : Kernel) (process : Process) : Kernel :=
  act { kernel with clock := max kernel.clock process.ready } process

/-- What came of running processes. -/
inductive Halt
  /-- The process that is waited for has ended, and nobody can add to its output any more. -/
  | ended (ending : Ending)
  /-- It has not ended in time. -/
  | overran
  /-- It is waited for in vain. -/
  | stuck

/-- What comes of processes that do nothing any more: one that has not ended overruns a
deadline when there is one. -/
def idle (ending? : Option Ending) (deadline? : Option Nat) : Halt :=
  if ending?.isNone && deadline?.isSome then .overran else .stuck

/-- Runs the processes until one of them has ended and a pipe has no writer left, for a
number of steps at most. -/
def run (main pipe : Nat) (deadline? : Option Nat) : Nat → Kernel → Halt × Kernel
  | 0, kernel => (idle ((kernel.process? main).bind (·.ending)) deadline?, kernel)
  | fuel + 1, kernel =>
    match kernel.process? main with
    | none => (.stuck, kernel)
    | some process =>
      match process.ending with
      | some ending =>
        if !kernel.hasWriter pipe then (.ended ending, kernel)
        else
          match kernel.next? with
          | none => (.stuck, kernel)
          | some process => run main pipe deadline? fuel (kernel.step process)
      | none =>
        match kernel.next? with
        | none => (idle none deadline?, kernel)
        | some process =>
          if deadline?.any (· ≤ process.ready) then (.overran, kernel)
          else run main pipe deadline? fuel (kernel.step process)

/-- The number of steps after which nothing more is expected of a command. -/
def stepLimit : Nat := 3000000

/-- The time that it takes to start a command. -/
def startCost : Nat := 800000

/-- A process that was started from outside: its number, and the pipe that takes its output. -/
structure Started where
  id : Nat
  pipe : Nat
  kernel : Kernel

/-- The standard input of a command that is started from outside. -/
def inputOf (kernel : Kernel) : Input → OpenFile
  | .nothing => .nothing
  | .inherited => kernel.input

/-- Starts a task from outside. -/
def start (kernel : Kernel) (mode : StartMode) (task : Task) : Started :=
  let id := kernel.lastId + 1
  let (pipe, kernel) := kernel.addPipe { collected := true }
  let (input, kernel) := kernel.addFile (kernel.inputOf mode.input)
  let (output, kernel) := kernel.addFile
    { channel := .sink pipe, readable := false, writable := true }
  let (errors, kernel) := kernel.addFile
    { channel := .device .null, readable := true, writable := true }
  let process : Process := {
    id, parent := outside
    group := match mode.group with
      | .shared => outerGroup
      | .own => id
    task, ready := kernel.clock + startCost
    descriptors := [⟨0, input, false⟩, ⟨1, output, false⟩, ⟨2, errors, false⟩]
    home := kernel.tree.home }
  ⟨id, pipe, { kernel with processes := kernel.processes ++ [process], lastId := id }⟩

/-- All that was written to a pipe. -/
def written (kernel : Kernel) (pipe : Nat) : ByteArray :=
  (kernel.pipes[pipe]?.map (·.content)).getD ByteArray.empty

/-- Starts a task and waits for it without a limit. -/
def collect (kernel : Kernel) (mode : StartMode) (task : Task) : Option (Finished × Kernel) :=
  let started := kernel.start mode task
  match run started.id started.pipe none stepLimit started.kernel with
  | (.ended ending, kernel) =>
    some (⟨kernel.written started.pipe, ending⟩, kernel.forget started.id)
  | _ => none

/-- Starts a task and waits for it, at most as long as the limit says. -/
def watch (kernel : Kernel) (mode : StartMode) (limit : Duration) (task : Task) :
    Option (Child × Kernel) :=
  let started := kernel.start mode task
  let deadline := kernel.clock + limit.nanoseconds
  match run started.id started.pipe (some deadline) stepLimit started.kernel with
  | (.ended ending, kernel) =>
    some (.ended ending (some (.ok (kernel.written started.pipe))), kernel.forget started.id)
  | (.overran, kernel) =>
    some (.overran .done (.ok ()), (kernel.killGroup started.id).forget started.id)
  | (.stuck, _) => none

end Kernel

end PhaseBench.Host
