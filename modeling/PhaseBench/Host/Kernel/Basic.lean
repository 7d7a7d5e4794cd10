import PhaseBench.Host.Task

/-!
# The kernel

The kernel holds the files, the processes with their open files, and the pipes
between them. Processes run side by side: each has a time of its own from which on
it can do its next step, and the clock shows the time of the step done last.
-/

namespace PhaseBench.Host

/-! ## Pipes -/

/-- Octets that were written and not yet read. -/
structure Pipe where
  content : ByteArray := ByteArray.empty
  /-- The number of octets of the content that were read. -/
  taken : Nat := 0
  /-- What is written is collected outside of the kernel, without a limit. -/
  collected : Bool := false

namespace Pipe

/-- The number of octets that a pipe holds at most. -/
def capacity : Nat := 65536

/-- The number of octets up to which a write is not divided. -/
def undivided : Nat := 4096

/-- The number of octets to read. -/
def size (pipe : Pipe) : Nat := pipe.content.size - pipe.taken

/-- The number of octets that there is room for. -/
def room (pipe : Pipe) : Nat := capacity - pipe.size

/-- Takes the first octets. -/
def take (pipe : Pipe) (count : Nat) : ByteArray × Pipe :=
  let behind := min pipe.content.size (pipe.taken + count)
  (pipe.content.extract pipe.taken behind, { pipe with taken := behind })

/-- The number of octets up to the end of the first line that begins at a place. -/
def lineLength (content : ByteArray) : Nat → Nat → Nat → Nat
  | 0, _, length => length
  | fuel + 1, place, length =>
    match content[place]? with
    | some 10 => length + 1
    | some _ => lineLength content fuel (place + 1) (length + 1)
    | none => length

/-- Adds octets, and forgets what was read before when that is much. -/
def push (pipe : Pipe) (bytes : ByteArray) : Pipe :=
  if pipe.taken = 0 then { pipe with content := pipe.content ++ bytes }
  else if capacity ≤ 2 * pipe.taken || pipe.size = 0 then
    { pipe with
      content := pipe.content.extract pipe.taken pipe.content.size ++ bytes, taken := 0 }
  else { pipe with content := pipe.content ++ bytes }

end Pipe

/-! ## Processes -/

/-- A descriptor of a process. -/
structure Descriptor where
  number : Nat
  /-- The number of the open file. -/
  file : Nat
  /-- It is closed when the process becomes another program. -/
  transient : Bool := false

/-- A process. -/
structure Process where
  id : Nat
  parent : Nat
  group : Nat
  task : Task
  /-- The time from which on it can do its next step. -/
  ready : Nat
  /-- It waits for something that another process does. -/
  blocked : Bool := false
  /-- A signal made it halt. -/
  halted : Bool := false
  descriptors : List Descriptor := []
  home : Location := []
  ignored : List Nat := []
  caught : List Nat := []
  /-- The caught signals that it has not seen yet. -/
  pending : List Nat := []
  /-- The signals that came while it was halted. -/
  held : List Nat := []
  /-- The signal that its next step ends it with. -/
  doom : Option Nat := none
  ending : Option Ending := none

namespace Process

/-- Holds for a process that can do a step. -/
def canStep (process : Process) : Bool :=
  process.ending.isNone && (process.doom.isSome || (!process.blocked && !process.halted))

/-- The number of the open file of a descriptor. -/
def file? (process : Process) (descriptor : Nat) : Option Nat :=
  (process.descriptors.find? (·.number == descriptor)).map (·.file)

/-- The least descriptor from a number on that is free. -/
def freeDescriptor (process : Process) (least : Nat) : Nat :=
  let numbers := process.descriptors.map (·.number)
  ((List.range (numbers.length + 1)).map (· + least)).find? (fun n => !numbers.contains n)
    |>.getD least

/-- Without a descriptor. -/
def without (process : Process) (descriptor : Nat) : Process :=
  { process with descriptors := process.descriptors.filter (·.number != descriptor) }

/-- With a descriptor that leads to an open file. -/
def holding (process : Process) (descriptor : Descriptor) : Process :=
  let others := process.without descriptor.number
  { others with descriptors := descriptor :: others.descriptors }

/-- The parent of processes that have lost theirs. -/
def orphanage : Nat := 1

/-- What is left of a process when the one with a number, whose parent is given, ends. -/
def survive (id parent : Nat) (ending : Ending) (process : Process) : Option Process :=
  if process.id == id then
    if parent == orphanage then none
    else some { process with
      ending := some ending, descriptors := [], blocked := false, halted := false
      pending := [], held := [], task := .hang }
  else if process.parent == id then
    if process.ending.isSome then none else some { process with parent := orphanage }
  else if process.id == parent && process.caught.contains Signal.childEnded then
    some { process with pending := process.pending ++ [Signal.childEnded] }
  else some process

/-- Of two processes the one that does a step first, if the second one can do one at all. -/
def first (best? : Option Process) (process : Process) : Option Process :=
  if process.canStep then
    match best? with
    | some best => if process.ready < best.ready then some process else best?
    | none => some process
  else best?

end Process

/-! ## The kernel -/

/-- What is read by the one for whom there is nothing to read. -/
def OpenFile.nothing : OpenFile :=
  { channel := .device .null, readable := true, writable := false }

/-- The files, the processes and what they have in common. -/
structure Kernel where
  tree : Tree
  /-- The time in nanoseconds. -/
  clock : Nat := 0
  /-- The processes in the order in which they were started. -/
  processes : List Process := []
  /-- All files that were opened. -/
  files : Array OpenFile := #[]
  pipes : Array Pipe := #[]
  /-- The number of the process that was started last. -/
  lastId : Nat := 100
  /-- What the one reads who starts processes from outside. -/
  input : OpenFile := .nothing

namespace Kernel

/-- The parent of processes that are started from outside. -/
def outside : Nat := 0

/-- The group of the one who starts processes from outside. -/
def outerGroup : Nat := 2

/-- A process by number. -/
def process? (kernel : Kernel) (id : Nat) : Option Process :=
  kernel.processes.find? (·.id == id)

/-- Changes a process. -/
def change (kernel : Kernel) (id : Nat) (f : Process → Process) : Kernel :=
  { kernel with processes := kernel.processes.map fun process =>
      if process.id == id then f process else process }

/-- Lets the processes that wait for something look again. -/
def stir (kernel : Kernel) : Kernel :=
  if kernel.processes.any (·.blocked) then
    { kernel with processes := kernel.processes.map fun process =>
        if process.blocked then
          { process with blocked := false, ready := max process.ready kernel.clock }
        else process }
  else kernel

/-! ## Open files -/

/-- The open file of a descriptor. -/
def openFile? (kernel : Kernel) (process : Process) (descriptor : Nat) : Option OpenFile :=
  (process.file? descriptor).bind fun file => kernel.files[file]?

/-- Holds when some process has an open file that satisfies a condition. -/
def anyOpen (kernel : Kernel) (condition : Channel → Bool) : Bool :=
  kernel.processes.any fun process => process.descriptors.any fun descriptor =>
    match kernel.files[descriptor.file]? with
    | some file => condition file.channel
    | none => false

/-- Holds for a pipe that some process can write to. -/
def hasWriter (kernel : Kernel) (pipe : Nat) : Bool :=
  kernel.anyOpen fun
    | .sink other => other == pipe
    | _ => false

/-- Holds for a pipe that is read, by a process or outside. -/
def hasReader (kernel : Kernel) (pipe : Nat) : Bool :=
  (kernel.pipes[pipe]?.map (·.collected)).getD false ||
  kernel.anyOpen fun
    | .source other => other == pipe
    | _ => false

/-- Moves the place of an open file. -/
def setOffset (kernel : Kernel) (file offset : Nat) : Kernel :=
  { kernel with files := kernel.files.modify file fun entry => { entry with offset } }

/-- A new pipe. -/
def addPipe (kernel : Kernel) (pipe : Pipe) : Nat × Kernel :=
  (kernel.pipes.size, { kernel with pipes := kernel.pipes.push pipe })

/-- A new open file. -/
def addFile (kernel : Kernel) (file : OpenFile) : Nat × Kernel :=
  (kernel.files.size, { kernel with files := kernel.files.push file })

/-- Gives a process an open file at its least free descriptor. -/
def giveFile (kernel : Kernel) (id : Nat) (file : OpenFile) : Nat × Kernel :=
  let (number, kernel) := kernel.addFile file
  match kernel.process? id with
  | some process =>
    let descriptor := process.freeDescriptor 0
    (descriptor, kernel.change id (·.holding { number := descriptor, file := number }))
  | none => (0, kernel)

/-! ## Ends of processes -/

/-- Ends a process. Its children lose their parent, and it stays known until its parent has
asked for it. -/
def finish (kernel : Kernel) (id : Nat) (ending : Ending) : Kernel :=
  let parent := ((kernel.process? id).map (·.parent)).getD Process.orphanage
  stir { kernel with processes := kernel.processes.filterMap (·.survive id parent ending) }

/-- The first child of a process that has ended, and how. -/
def endedChild? (kernel : Kernel) (parent : Nat) : Option (Nat × Ending) :=
  kernel.processes.findSome? fun process =>
    if process.parent == parent then process.ending.map fun ending => (process.id, ending)
    else none

/-- Forgets a process that has ended. -/
def forget (kernel : Kernel) (id : Nat) : Kernel :=
  { kernel with processes := kernel.processes.filter (·.id != id) }

/-! ## Signals -/

/-- The time after which a process that waits has noticed a signal, in nanoseconds. -/
def noticeDelay : Nat := 200000

/-- The time after which a signal has ended another process. -/
def doomDelay : Nat := 60000

/-- A signal ends a process: at once the sender itself, another one a little later. -/
def strike (kernel : Kernel) (sender id signal : Nat) : Kernel :=
  if sender = id then kernel.finish id (.signal signal)
  else
    kernel.change id fun process =>
      if process.doom.isSome then process
      else { process with doom := some signal, ready := kernel.clock + doomDelay }

/-- What a signal does to a process that is not halted. -/
def affect (kernel : Kernel) (sender id signal : Nat) : Kernel :=
  match kernel.process? id with
  | none => kernel
  | some process =>
    let free := !Signal.isSovereign signal
    if free && process.ignored.contains signal then kernel
    else if free && process.caught.contains signal then
      kernel.change id fun process => { process with
        pending := if process.pending.contains signal then process.pending
          else process.pending ++ [signal]
        blocked := false
        ready := if process.blocked then max process.ready (kernel.clock + noticeDelay)
          else process.ready }
    else
      match Signal.effect signal with
      | .nothing => kernel
      | .halts => kernel.change id fun process => { process with halted := true }
      | .ends => kernel.strike sender id signal

/-- A process receives a signal. One that ended needs no signals any more; one that is halted
sees them when it goes on. -/
def deliver (kernel : Kernel) (sender id signal : Nat) : Kernel :=
  match kernel.process? id with
  | none => kernel
  | some process =>
    if process.ending.isSome || signal = 0 then kernel
    else if signal = Signal.kill then kernel.strike sender id signal
    else if signal = Signal.resume then
      if process.halted then
        let kernel := kernel.change id fun process => { process with
          halted := false, held := [], ready := max process.ready kernel.clock }
        process.held.foldl (fun kernel held => kernel.affect sender id held)
          (kernel.affect sender id signal)
      else kernel.affect sender id signal
    else if process.halted && signal != Signal.halt then
      kernel.change id fun process => { process with held := process.held ++ [signal] }
    else kernel.affect sender id signal

/-- The processes that a target stands for: one by its number, a group by a negative number,
or the own group. -/
def targets (kernel : Kernel) (sender : Process) (target : Int) : List Nat :=
  let inGroup (group : Nat) : List Nat :=
    (kernel.processes.filter (·.group == group)).map (·.id)
  match target with
  | .ofNat 0 => inGroup sender.group
  | .ofNat id => (kernel.processes.filter (·.id == id)).map (·.id)
  | .negSucc 0 =>
    (kernel.processes.filter (·.id != sender.id)).map (·.id)
  | .negSucc n => inGroup (n + 1)

/-- Ends all processes of a group at once. -/
def killGroup (kernel : Kernel) (group : Nat) : Kernel :=
  ((kernel.processes.filter (·.group == group)).map (·.id)).foldl
    (fun kernel id => kernel.finish id (.signal Signal.kill)) kernel

end Kernel

end PhaseBench.Host
