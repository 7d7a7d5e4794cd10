import PhaseBench.Host.Kernel.Basic

/-!
# Answers

What the kernel does when a process asks for something. Without an answer the
process has to wait until another process has done something.
-/

namespace PhaseBench.Host

/-- The reply to a request, the kernel after it and the time that it took. -/
structure Answer (α : Type) where
  reply : α
  kernel : Kernel
  cost : Nat := 1000

namespace Kernel

/-! ## Times -/

/-- The time after which a started child does its first step, in nanoseconds. -/
def childDelay : Nat := 250000

/-- The time that starting a child takes its parent. -/
def forkCost : Nat := 150000

/-- The time that it takes a process to become another program. -/
def programCost : Nat := 600000

/-- The time that reading and writing take. -/
def transferCost : Nat := 4000

/-! ## Reading -/

/-- Reads from an open file, up to a number of octets that depends on what there is. -/
def readFrom (kernel : Kernel) (process : Process) (descriptor : Nat)
    (wanted : ByteArray → Nat → Nat) : Option (Answer (Except OsError ByteArray)) :=
  let done (reply : Except OsError ByteArray) (kernel : Kernel) :
      Option (Answer (Except OsError ByteArray)) := some ⟨reply, kernel, transferCost⟩
  match process.file? descriptor with
  | none => done (.error .badDescriptor) kernel
  | some number =>
    match kernel.files[number]? with
    | none => done (.error .badDescriptor) kernel
    | some file =>
      if !file.readable then done (.error .badDescriptor) kernel
      else
        match file.channel with
        | .directory => done (.error .isDirectory) kernel
        | .sink _ => done (.error .badDescriptor) kernel
        | .file location =>
          match kernel.tree.node? location with
          | some (.file content) =>
            let behind := min content.size (file.offset + wanted content file.offset)
            done (.ok (content.extract file.offset behind))
              (kernel.setOffset number (max file.offset behind))
          | _ => done (.ok ByteArray.empty) kernel
        | .device .null => done (.ok ByteArray.empty) kernel
        | .device (.descriptor _) => done (.ok ByteArray.empty) kernel
        | .device _ =>
          let zeros := ByteArray.mk (Array.replicate (wanted ByteArray.empty 0) 0)
          if zeros.isEmpty then none else done (.ok zeros) kernel
        | .source pipe =>
          match kernel.pipes[pipe]? with
          | none => done (.ok ByteArray.empty) kernel
          | some content =>
            if content.size = 0 then
              if !kernel.hasWriter pipe then done (.ok ByteArray.empty) kernel
              else if process.pending.isEmpty then none
              else done (.error .interrupted) kernel
            else
              let (bytes, content) := content.take (wanted content.content content.taken)
              done (.ok bytes)
                (stir { kernel with pipes := kernel.pipes.setIfInBounds pipe content })

/-! ## Writing -/

/-- The content of a file after writing bytes at a place. -/
def overwrite (content : ByteArray) (offset : Nat) (bytes : ByteArray) : ByteArray :=
  if offset = content.size then content ++ bytes
  else
    let gap := ByteArray.mk (Array.replicate (offset - content.size) 0)
    content.extract 0 offset ++ gap ++ bytes ++
      content.extract (offset + bytes.size) content.size

/-- Writes to an open file. -/
def writeTo (kernel : Kernel) (process : Process) (descriptor : Nat) (bytes : ByteArray) :
    Option (Answer (Except OsError Nat)) :=
  let done (reply : Except OsError Nat) (kernel : Kernel) : Option (Answer (Except OsError Nat)) :=
    some ⟨reply, kernel, transferCost⟩
  match process.file? descriptor with
  | none => done (.error .badDescriptor) kernel
  | some number =>
    match kernel.files[number]? with
    | none => done (.error .badDescriptor) kernel
    | some file =>
      if !file.writable then done (.error .badDescriptor) kernel
      else
        match file.channel with
        | .directory => done (.error .badDescriptor) kernel
        | .source _ => done (.error .badDescriptor) kernel
        | .device .full => done (.error .noSpace) kernel
        | .device _ => done (.ok bytes.size) kernel
        | .file location =>
          match kernel.tree.node? location with
          | some (.file content) =>
            let offset := if file.appends then content.size else file.offset
            let tree := kernel.tree.put location (.file (overwrite content offset bytes))
            done (.ok bytes.size) ({ kernel with tree }.setOffset number (offset + bytes.size))
          | _ => done (.ok bytes.size) kernel
        | .sink pipe =>
          match kernel.pipes[pipe]? with
          | none => done (.ok bytes.size) kernel
          | some content =>
            if !kernel.hasReader pipe then
              done (.error .brokenPipe) (kernel.deliver process.id process.id Signal.brokenPipe)
            else
              let count :=
                if content.collected || bytes.size ≤ content.room then bytes.size
                else if bytes.size ≤ Pipe.undivided then 0
                else content.room
              if count = 0 then none
              else
                let pipes := kernel.pipes.modify pipe (·.push (bytes.extract 0 count))
                done (.ok count) (stir { kernel with pipes })

/-! ## Opening -/

/-- The channel that a path leads to, and the files after it was opened. -/
def openPath (kernel : Kernel) (process : Process) (path : String) (mode : OpenMode) :
    Except OsError (Channel × Tree) :=
  let tree := { kernel.tree with home := process.home }
  let opened (location : Location) (node : Node) : Except OsError (Channel × Tree) :=
    if mode.exclusive then .error .alreadyExists
    else
      match node with
      | .directory =>
        if mode.writes then .error .isDirectory else .ok (.directory, kernel.tree)
      | .device (.descriptor number) =>
        match kernel.openFile? process number with
        | some file =>
          match file.channel with
          | .file location =>
            if mode.truncates then
              .ok (.file location, kernel.tree.put location (.file ByteArray.empty))
            else .ok (.file location, kernel.tree)
          | channel => .ok (channel, kernel.tree)
        | none => .error .noEntry
      | .device kind => .ok (.device kind, kernel.tree)
      | .link _ => .error .tooManyLinks
      | .program _ => .ok (.file location, kernel.tree)
      | .file _ =>
        .ok (.file location,
          if mode.truncates then kernel.tree.put location (.file ByteArray.empty)
          else kernel.tree)
  match tree.spot (if mode.creates then .write else .reach) path with
  | .error error => .error error
  | .ok (.found location node) => opened location node
  | .ok (.vacant parent name) =>
    if mode.creates then
      let location := parent ++ [name]
      .ok (.file location, kernel.tree.put location (.file ByteArray.empty))
    else .error .noEntry

/-! ## Requests -/

/-- The answer to a request of a process. -/
def answer (kernel : Kernel) (process : Process) :
    (request : Request) → Option (Answer request.Reply)
  | .pass nanoseconds => some ⟨(), kernel, nanoseconds⟩
  | .hang => none
  | .read descriptor limit => kernel.readFrom process descriptor fun _ _ => limit
  | .readLine descriptor =>
    kernel.readFrom process descriptor fun content place =>
      Pipe.lineLength content (content.size - place) place 0
  | .write descriptor bytes => kernel.writeTo process descriptor bytes
  | .openFile path mode =>
    match kernel.openPath process path mode with
    | .error error => some ⟨.error error, kernel, 2000⟩
    | .ok (channel, tree) =>
      let file : OpenFile := {
        channel, readable := mode.reads, writable := mode.writes, appends := mode.appends }
      let (descriptor, kernel) := { kernel with tree }.giveFile process.id file
      some ⟨.ok descriptor, kernel, 2000⟩
  | .close descriptor =>
    some ⟨(), stir (kernel.change process.id (·.without descriptor)), 1000⟩
  | .keep descriptor least =>
    match process.file? descriptor with
    | none => some ⟨.error .badDescriptor, kernel, 1000⟩
    | some file =>
      let number := process.freeDescriptor least
      some ⟨.ok number,
        kernel.change process.id (·.holding { number, file, transient := true }), 1000⟩
  | .redirect source target =>
    match process.file? source with
    | none => some ⟨.error .badDescriptor, kernel, 1000⟩
    | some file =>
      some ⟨.ok (), stir (kernel.change process.id (·.holding { number := target, file })), 1000⟩
  | .pipe =>
    let (pipe, kernel) := kernel.addPipe {}
    let (source, kernel) := kernel.giveFile process.id
      { channel := .source pipe, readable := true, writable := false }
    let (sink, kernel) := kernel.giveFile process.id
      { channel := .sink pipe, readable := false, writable := true }
    some ⟨(source, sink), kernel, 2000⟩
  | .stepBack descriptor count =>
    match process.file? descriptor with
    | none => some ⟨(), kernel, 1000⟩
    | some number =>
      match kernel.files[number]? with
      | some { channel := .file _, offset, .. } =>
        some ⟨(), kernel.setOffset number (offset - count), 1000⟩
      | _ => some ⟨(), kernel, 1000⟩
  | .inspect descriptor => some ⟨kernel.openFile? process descriptor, kernel, 500⟩
  | .look => some ⟨{ kernel.tree with home := process.home }, kernel, 500⟩
  | .enter location =>
    some ⟨(), kernel.change process.id fun process => { process with home := location }, 1000⟩
  | .await interruptible =>
    match kernel.endedChild? process.id with
    | some (id, ending) => some ⟨.child id ending, kernel.forget id, 20000⟩
    | none =>
      if !kernel.processes.any (·.parent == process.id) then some ⟨.noChild, kernel, 1000⟩
      else if !interruptible then none
      else process.pending.getLast?.map fun signal => ⟨.interrupted signal, kernel, 1000⟩
  | .reap =>
    match kernel.endedChild? process.id with
    | some (id, ending) => some ⟨some (id, ending), kernel.forget id, 5000⟩
    | none => some ⟨none, kernel, 500⟩
  | .send target signal =>
    match kernel.targets process target with
    | [] => some ⟨.error .noProcess, kernel, 2000⟩
    | ids => some ⟨.ok (), ids.foldl (fun kernel id => kernel.deliver process.id id signal) kernel, 5000⟩
  | .dispose signal disposition =>
    let others (signals : List Nat) : List Nat := signals.filter (· != signal)
    some ⟨(), kernel.change process.id fun process =>
      match disposition with
      | .customary =>
        { process with ignored := others process.ignored, caught := others process.caught }
      | .ignored =>
        { process with
          ignored := signal :: others process.ignored
          caught := others process.caught, pending := others process.pending }
      | .caught =>
        { process with
          ignored := others process.ignored, caught := signal :: others process.caught }, 1000⟩
  | .takeSignals =>
    if process.pending.isEmpty then some ⟨[], kernel, 0⟩
    else
      some ⟨process.pending,
        kernel.change process.id fun process => { process with pending := [] }, 0⟩
  | .ignoredSignals => some ⟨process.ignored, kernel, 0⟩
  | .self => some ⟨process.id, kernel, 0⟩
  | .become =>
    some ⟨(), stir (kernel.change process.id fun process => { process with
      descriptors := process.descriptors.filter (!·.transient)
      caught := [], pending := [] }), programCost⟩

end Kernel

end PhaseBench.Host
