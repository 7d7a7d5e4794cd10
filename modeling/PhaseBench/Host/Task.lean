import PhaseBench.Host.Signal
import PhaseBench.Trace
import PhaseBench.Tree.Basic

/-!
# Tasks

A task is what a process still has to do, as a tree of requests: it ends, asks the
kernel for something and goes on with the reply, or starts a child. It says nothing
about when the requests are answered, so that several tasks can be interleaved.

An `Act` is a part of a task that yields a value to what follows it.
-/

namespace PhaseBench.Host

/-! ## Requests -/

/-- What an open file leads to. -/
inductive Channel
  | file (location : Location)
  | directory
  | device (kind : Device)
  /-- The end of a pipe that is read. -/
  | source (pipe : Nat)
  /-- The end of a pipe that is written. -/
  | sink (pipe : Nat)

/-- An open file. Descriptors that were duplicated from each other share it. -/
structure OpenFile where
  channel : Channel
  readable : Bool
  writable : Bool
  /-- What is written goes to the end of the file. -/
  appends : Bool := false
  /-- The place of the next octet. -/
  offset : Nat := 0

/-- How a file is opened. -/
structure OpenMode where
  reads : Bool := false
  writes : Bool := false
  /-- A file that does not exist is made. -/
  creates : Bool := false
  /-- The file must not exist. -/
  exclusive : Bool := false
  truncates : Bool := false
  appends : Bool := false

/-- How a process takes a signal. -/
inductive Disposition
  | customary
  | ignored
  | caught

/-- What came of waiting for a child. -/
inductive Awaited
  | child (id : Nat) (ending : Ending)
  | noChild
  /-- A signal was caught meanwhile. -/
  | interrupted (signal : Nat)

/-- What a process asks of the kernel. -/
inductive Request
  /-- Time passes. -/
  | pass (nanoseconds : Nat)
  /-- Nothing happens ever after. -/
  | hang
  | read (descriptor limit : Nat)
  /-- Reads to the end of a line, or as much of it as there is. -/
  | readLine (descriptor : Nat)
  | write (descriptor : Nat) (bytes : ByteArray)
  | openFile (path : String) (mode : OpenMode)
  | close (descriptor : Nat)
  /-- Duplicates a descriptor to a free one that no program started later sees. -/
  | keep (descriptor least : Nat)
  /-- Makes a descriptor lead to where another one does. -/
  | redirect (source target : Nat)
  | pipe
  /-- Steps back in an open file. -/
  | stepBack (descriptor count : Nat)
  | inspect (descriptor : Nat)
  /-- The files, as they are seen from the working directory. -/
  | look
  | enter (location : Location)
  | await (interruptible : Bool)
  /-- Asks for a child that has ended, without waiting. -/
  | reap
  | send (target : Int) (signal : Nat)
  | dispose (signal : Nat) (disposition : Disposition)
  /-- Takes the signals that were caught. -/
  | takeSignals
  /-- The signals that the process ignores. -/
  | ignoredSignals
  | self
  /-- The process becomes another program. -/
  | become

/-- The reply to a request. -/
def Request.Reply : Request → Type
  | .pass _ => Unit
  | .hang => Empty
  | .read _ _ => Except OsError ByteArray
  | .readLine _ => Except OsError ByteArray
  | .write _ _ => Except OsError Nat
  | .openFile _ _ => Except OsError Nat
  | .close _ => Unit
  | .keep _ _ => Except OsError Nat
  | .redirect _ _ => Except OsError Unit
  | .pipe => Nat × Nat
  | .stepBack _ _ => Unit
  | .inspect _ => Option OpenFile
  | .look => Tree
  | .enter _ => Unit
  | .await _ => Awaited
  | .reap => Option (Nat × Ending)
  | .send _ _ => Except OsError Unit
  | .dispose _ _ => Unit
  | .takeSignals => List Nat
  | .ignoredSignals => List Nat
  | .self => Nat
  | .become => Unit

/-! ## Tasks -/

/-- What a process still has to do. -/
inductive Task
  | ended (code : Nat)
  | ask (request : Request) (next : request.Reply → Task)
  /-- Starts a child and goes on with its number. -/
  | fork (child : Task) (next : Nat → Task)

/-- A task that does nothing and does not end. -/
def Task.hang : Task := .ask .hang fun never => nomatch never

/-- A part of a task: from what follows a value it makes the whole task. -/
def Act (α : Type) : Type := (α → Task) → Task

namespace Act

instance : Monad Act where
  pure a := fun next => next a
  bind act f := fun next => act fun a => f a next

/-- Asks the kernel for something. -/
def ask (request : Request) : Act request.Reply := fun next => .ask request next

/-- Ends the process. -/
def exit {α : Type} (code : Nat) : Act α := fun _ => .ended code

/-- Does nothing ever after. -/
def hang {α : Type} : Act α := fun _ => Task.hang

/-- The task of an act that gives the exit code. -/
def task (act : Act Nat) : Task := act .ended

/-- Writes bytes to a descriptor, in as many parts as it takes. -/
def writeBytes (descriptor : Nat) : Nat → ByteArray → Act (Except OsError Unit)
  | 0, _ => hang
  | fuel + 1, bytes => do
    if bytes.isEmpty then return .ok ()
    else
      match ← ask (.write descriptor bytes) with
      | .error error => return .error error
      | .ok count =>
        if count < bytes.size then writeBytes descriptor fuel (bytes.extract count bytes.size)
        else return .ok ()

/-- Writes octets to a descriptor. -/
def write (descriptor : Nat) (octets : Octets) : Act (Except OsError Unit) :=
  let bytes := octets.toBytes
  writeBytes descriptor (bytes.size + 1) bytes

/-- Writes octets to a descriptor, whatever comes of it. -/
def tell (descriptor : Nat) (octets : Octets) : Act Unit := do
  let _ ← write descriptor octets

/-- Opens a file to read it. -/
def openRead (path : String) : Act (Except OsError Nat) := ask (.openFile path { reads := true })

end Act

end PhaseBench.Host
