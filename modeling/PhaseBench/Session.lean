import PhaseBench.Chart.Terminal
import PhaseBench.Gallery
import PhaseBench.Machine
import PhaseBench.Settings.Parser

/-!
# Sessions

A session is one run of the whole program on a machine: it reads the command
line, checks what was asked for, runs the campaign and presents the charts. Each part
takes the world as the part before left it, and a part that fails leaves what was done
before it.
-/

namespace PhaseBench

universe u

/-- How a session ended. -/
inductive Verdict
  /-- Everything was done. -/
  | done
  /-- The command line was wrong, or asked for help. What is said then is not modelled. -/
  | usage (error : UsageError)
  | failed (trace : Trace)
  /-- The samples were too many for any memory, or a chart could not be shown. -/
  | crashed
  /-- The memory had no room for the samples, which ends the program with a signal. -/
  | outOfMemory
  /-- The program does not end. -/
  | stuck
deriving DecidableEq

namespace Verdict

/-- The exit code of the program, if it ends with one. -/
def exitCode? : Verdict → Option Nat
  | .done => some 0
  | .usage error => some error.exitCode
  | .failed _ => some 1
  | .crashed => some 101
  | .outOfMemory => none
  | .stuck => none

/-- The failure seen from one step further out. -/
def within (step : Step) : Verdict → Verdict
  | .failed trace => .failed (trace.within step)
  | verdict => verdict

end Verdict

/-- A session, or a part of one, that has come to its end: its verdict, and the world that it
leaves. -/
structure Session (σ : Type u) where
  verdict : Verdict
  world : World σ

namespace Machine

variable {σ : Type u}

/-! ## Preparation -/

/-- The words of the command to benchmark. -/
def commandWords (settings : Settings) : List String :=
  match settings.command with
  | some command => Text.splitBlank command
  | none => Command.standardTemplate

/-- Checks the settings in order: the directory, the command, then the plan. -/
def prepare (tree : Tree) (settings : Settings) : Except Trace (Command × Plan) := do
  if !tree.isDirectory settings.dir then throw (.ofCause (.notDirectory settings.dir))
  let template ← (Command.ofWords (commandWords settings)).mapError
    fun cause => ⟨[.makeInvoker], cause⟩
  let plan ← (Plan.make settings.configurations settings.dir settings.runs
    settings.onFailure).mapError fun cause => ⟨[.makePlan], cause⟩
  return (template, plan)

/-! ## Waiting for the user -/

/-- Holds when the charts are to be looked at before the program ends: there is a user, who
did not ask for the contrary. -/
def waits (machine : Machine σ) (settings : Settings) (state : σ) : Bool :=
  !settings.noWait && machine.attended state

/-- Waits for the user to press Enter. -/
def waitForEnter (machine : Machine σ) (world : World σ) : Session σ :=
  match machine.flush world.state with
  | .error cause => ⟨.failed ⟨[.flush], cause⟩, world⟩
  | .ok () =>
    match machine.readLine world.state with
    | some (.ok (), state) => ⟨.done, { world with state }⟩
    | some (.error cause, state) => ⟨.failed ⟨[.readInput], cause⟩, { world with state }⟩
    | none => ⟨.stuck, { world with stuck := true }⟩

/-! ## Charts as text -/

/-- Prints the texts of charts one after the other, up to the first that cannot be shown. -/
def printTexts : List Chart → World σ → Session σ
  | [], world => ⟨.done, world⟩
  | chart :: charts, world =>
    match chart.text? with
    | some text => printTexts charts (world.print text)
    | none => ⟨.crashed, world⟩

/-- Shows charts as text. -/
def showTexts (machine : Machine σ) (settings : Settings) (charts : List Chart)
    (world : World σ) : Session σ :=
  match printTexts charts world with
  | ⟨.done, world⟩ =>
    if machine.waits settings world.state then machine.waitForEnter world else ⟨.done, world⟩
  | ended => ended

/-! ## Charts in files -/

/-- Opens a gallery in the directory that was asked for, or in one that is not kept. -/
def openGallery (machine : Machine σ) (dir? : Option String) (world : World σ) :
    Except Trace Gallery × World σ :=
  match dir? with
  | some dir =>
    let (tree, gallery) := Gallery.openIn (machine.tree world.state) dir
    (gallery, { world with state := machine.withTree world.state tree })
  | none =>
    let (made, state) := machine.makeScratch world.state
    ((attempt .makeScratch made).map fun dir => ⟨dir, []⟩, { world with state })

/-- Draws charts into a gallery. -/
def drawAll (machine : Machine σ) (gallery : Gallery) (charts : List Chart) (world : World σ) :
    Except Trace Gallery × World σ :=
  let tree := machine.tree world.state
  let (after, drawn) := gallery.addAll tree charts
  (drawn, { world with
    state := machine.withTree world.state after
    printed := world.printed ++ gallery.echo tree charts })

/-- Takes a directory away that was not asked for. -/
def discard (machine : Machine σ) (settings : Settings) (dir : String) (world : World σ) :
    World σ :=
  if settings.svgDir.isSome then world
  else
    let tree := (machine.tree world.state).removeAll dir
    { world with state := machine.withTree world.state tree }

/-- Prints the paths of drawn charts. A directory that was not asked for is kept when nobody
could look at it before the program ends. -/
def showPaths (machine : Machine σ) (settings : Settings) (gallery : Gallery)
    (world : World σ) : Session σ :=
  let waits := machine.waits settings world.state
  let world := gallery.files.foldl World.print world
  if waits then
    match machine.waitForEnter world with
    | ⟨.stuck, world⟩ => ⟨.stuck, world⟩
    | ⟨verdict, world⟩ => ⟨verdict, machine.discard settings gallery.dir world⟩
  else ⟨.done, world⟩

/-- Shows charts as files. -/
def showFiles (machine : Machine σ) (settings : Settings) (gallery : Gallery)
    (charts : List Chart) (world : World σ) : Session σ :=
  match machine.drawAll gallery charts world with
  | (.error trace, world) => ⟨.failed trace, machine.discard settings gallery.dir world⟩
  | (.ok drawn, world) => machine.showPaths settings drawn world

/-! ## The whole program -/

/-- Presents charts as the settings ask. -/
def present (machine : Machine σ) (settings : Settings) (charts : List Chart)
    (world : World σ) : Session σ :=
  if settings.drawsFiles then
    match machine.openGallery settings.svgDir world with
    | (.error trace, world) => ⟨.failed (trace.within .makeGallery), world⟩
    | (.ok gallery, world) =>
      let session := machine.showFiles settings gallery charts world
      { session with verdict := session.verdict.within .present }
  else
    let session := machine.showTexts settings charts world
    { session with verdict := session.verdict.within .present }

/-- The verdict on a campaign whose samples the memory has no room for. -/
def crash (plan : Plan) : Verdict := if plan.fits .largest then .outOfMemory else .crashed

/-- Runs the program with the given settings. -/
def perform (machine : Machine σ) (settings : Settings) (world : World σ) : Session σ :=
  match prepare (machine.tree world.state) settings with
  | .error trace => ⟨.failed trace, world⟩
  | .ok (template, plan) =>
    let bench := machine.bench template (settings.timeout.map Duration.ofSeconds)
    match bench.runIn? machine.memory plan world with
    | none => ⟨crash plan, world⟩
    | some outcome =>
      if outcome.state.stuck then ⟨.stuck, outcome.state⟩
      else
        match outcome.result with
        | .error trace => ⟨.failed (trace.within .matrix), outcome.state⟩
        | .ok table =>
          machine.present settings (Chart.ofSummary table.summarize) outcome.state

/-- Runs the program with the given arguments. -/
def session (machine : Machine σ) (arguments : List String) (state : σ) : Session σ :=
  match Settings.parse arguments with
  | .error error => ⟨.usage error, { state }⟩
  | .ok settings => machine.perform settings { state }

end Machine

end PhaseBench
