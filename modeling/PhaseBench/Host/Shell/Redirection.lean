import PhaseBench.Host.Shell.Process

/-!
# Redirections

Before a command runs, the words of its redirections are expanded; then descriptors
are made to lead elsewhere. The descriptors as they were before are kept in a frame,
from which they come back at the end of the command.
-/

namespace PhaseBench.Host

/-- Where a redirection leads, when its word has been expanded. -/
inductive Target
  | file (opening : Opening) (path : Octets)
  /-- Another descriptor; without one the descriptor is closed. -/
  | descriptor (source? : Option Nat)
  | text (word : Word)

namespace Run

/-! ## Words -/

/-- Expands the words of redirections. -/
def expandTargets (engine : Engine) : List Redirect → Run (List (Nat × Target))
  | [] => return []
  | redirect :: redirects => do
    let target ← match redirect.opening with
      | .text number =>
        let text := ((← get).texts.find? (·.1 == number)).map (·.2)
        pure (Target.text (text.getD []))
      | .duplicate =>
        match ← expandText (substitute engine) false redirect.target with
        | ['-'] => pure (Target.descriptor none)
        | [c] =>
          if c.isDigit then pure (Target.descriptor (some (c.toNat - 48))) else badDescriptor
        | _ => badDescriptor
      | opening => pure (.file opening (← expandText (substitute engine) false redirect.target))
    return (redirect.descriptor, target) :: (← expandTargets engine redirects)
where
  /-- Breaks off because a word names no descriptor. -/
  badDescriptor : Run Target := fail "Syntax error: Bad fd number".toList

/-! ## Opening -/

/-- What a shell says about a file that it cannot open. -/
def openMessage (creates : Bool) : OsError → String
  | .noEntry => if creates then "Directory nonexistent" else "No such file"
  | .notDirectory => if creates then "Directory nonexistent" else "No such file"
  | error => error.description.1

/-- Breaks off because a file cannot be opened. -/
def openFailure {α : Type} (creates : Bool) (path : Octets) (error : OsError) : Run α :=
  fail ((if creates then "cannot create ".toList else "cannot open ".toList) ++ path ++
    ": ".toList ++ (openMessage creates error).toList)

/-- Opens a file in a mode. -/
def openIn (mode : OpenMode) (path : Octets) : Run Nat := do
  match ← ask (.openFile path.toText mode) with
  | .ok descriptor => return descriptor
  | .error error => openFailure mode.creates path error

/-- Opens the file of a redirection. -/
def openFile (opening : Opening) (path : Octets) : Run Nat := do
  let clobber : OpenMode := { writes := true, creates := true, truncates := true }
  match opening with
  | .read => openIn { reads := true } path
  | .readWrite => openIn { reads := true, writes := true, creates := true } path
  | .append => openIn { writes := true, creates := true, appends := true } path
  | .write =>
    if (← get).has 'C' then
      match (← ask .look).resolve path.toText with
      | .error _ => openIn { writes := true, creates := true, exclusive := true } path
      | .ok (_, node) =>
        if node.isRegular then openFailure true path .alreadyExists
        else openIn { writes := true } path
    else openIn clobber path
  | _ => openIn clobber path

/-- The number of octets of a text that a pipe takes at once. -/
def textLimit : Nat := 4096

/-- Opens a pipe from which a text can be read. A long text is written by a child. -/
def openText (engine : Engine) (word : Word) : Run Nat := do
  let text := Glyph.text (← expandPieces (substitute engine) { splits := false } false word)
  let (source, sink) ← ask .pipe
  if text.length ≤ textLimit then act (Act.tell sink text)
  else
    let _ ← fork do
      enterChild false false
      ask (.close source)
      ask (.dispose Signal.interrupt .ignored)
      ask (.dispose Signal.quit .ignored)
      act (Act.tell sink text)
      setStatus 0
  ask (.close sink)
  return source

/-! ## Frames -/

/-- Notes in the innermost frame what a descriptor was before. -/
def noteKept (descriptor : Nat) (kept? : Option Nat) : Run Unit :=
  modify fun shell =>
    match shell.kept with
    | frame :: outer => { shell with kept := ((descriptor, kept?) :: frame) :: outer }
    | [] => shell

/-- Keeps a descriptor that is about to lead elsewhere, unless the innermost frame has it. -/
def keepDescriptor (descriptor : Nat) : Run Unit := do
  if !((← get).kept.head?.getD []).any (·.1 == descriptor) then
    match ← ask (.keep descriptor 10) with
    | .ok number =>
      ask (.close descriptor)
      noteKept descriptor (some number)
    | .error _ => noteKept descriptor none

/-- Puts back the descriptors of a frame, or, to let them be as they are now, only forgets
what they were. -/
def putBack (forget : Bool) : List (Nat × Option Nat) → Run Unit
  | [] => return
  | (descriptor, kept?) :: rest => do
    match kept? with
    | some kept =>
      if !forget then
        let _ ← ask (.redirect kept descriptor)
      ask (.close kept)
    | none => if !forget then ask (.close descriptor)
    putBack forget rest

/-- Runs something with a frame of its own for the descriptors that it redirects. -/
def withFrame {α : Type} (forget : Bool) (run : Run α) : Run α := do
  modify fun shell => { shell with kept := [] :: shell.kept }
  let result ← attempt run
  let frame := (← get).kept.head?.getD []
  modify fun shell => { shell with kept := shell.kept.tail }
  putBack forget frame
  resume result

/-! ## Redirecting -/

/-- Makes a descriptor lead to a target. -/
def redirectOne (engine : Engine) (keeps : Bool) (descriptor : Nat) (target : Target) :
    Run Unit := do
  let moveTo (source : Nat) : Run Unit := do
    if source = descriptor then
      if keeps then noteFresh
    else
      if keeps then keepDescriptor descriptor
      let _ ← ask (.redirect source descriptor)
      ask (.close source)
  match target with
  | .file opening path => moveTo (← openFile opening path)
  | .text word => moveTo (← openText engine word)
  | .descriptor none =>
    if keeps then keepDescriptor descriptor
    ask (.close descriptor)
  | .descriptor (some source) =>
    if source != descriptor then
      if keeps then keepDescriptor descriptor
      match ← ask (.redirect source descriptor) with
      | .ok () => return
      | .error error =>
        fail (Octets.ofNat source ++ ": ".toList ++ error.description.1.toList)
where
  /-- Notes that the descriptor was closed before. -/
  noteFresh : Run Unit := do
    if !((← get).kept.head?.getD []).any (·.1 == descriptor) then noteKept descriptor none

/-- Makes descriptors lead to targets, one after the other. -/
def redirectAll (engine : Engine) (keeps : Bool) : List (Nat × Target) → Run Unit
  | [] => return
  | (descriptor, target) :: rest => do
    redirectOne engine keeps descriptor target
    redirectAll engine keeps rest

/-- Makes descriptors lead to targets and tells whether that was possible. -/
def redirectSafely (engine : Engine) (targets : List (Nat × Target)) : Run Bool := do
  match ← attempt (redirectAll engine true targets) with
  | .ok () => return true
  | .error .failure => return false
  | .error flow => throw flow

end Run

end PhaseBench.Host
