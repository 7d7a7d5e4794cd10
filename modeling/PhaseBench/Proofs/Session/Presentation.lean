import PhaseBench.Proofs.Gallery.Scratch
import PhaseBench.Session

/-!
# What presenting charts prints

Each part of a session prints a text of its own behind what was printed before, and starts no
command (`World.Prints`). `Machine.Presented` says what becomes of charts that are presented as
text or in files, and `presented_present` that this becomes of them on every machine.

A directory for files that are not kept is made by the machine. What can be expected of it is
`Machine.ScratchFresh`.
-/

namespace PhaseBench

universe u

/-! ## Printing -/

/-- A part of a session printed a text and started no command. -/
structure World.Prints {σ : Type u} (text : String) (before after : World σ) : Prop where
  printed_eq : after.printed = before.printed ++ text
  started_eq : after.started = before.started

namespace World.Prints

variable {σ : Type u} {world middle after : World σ} {text more : String}

theorem nothing (same : after.printed = world.printed) (started : after.started = world.started) :
    Prints "" world after :=
  ⟨by rw [same, String.append_empty], started⟩

theorem trans (first : Prints text world middle) (second : Prints more middle after) :
    Prints (text ++ more) world after :=
  ⟨by rw [second.printed_eq, first.printed_eq, String.append_assoc],
    second.started_eq.trans first.started_eq⟩

theorem quietly (first : Prints text world middle) (second : Prints "" middle after) :
    Prints text world after := by
  have both := first.trans second
  rwa [String.append_empty] at both

theorem print (world : World σ) (line : String) : Prints (line ++ "\n") world (world.print line) :=
  ⟨String.append_assoc, rfl⟩

theorem foldl_print (world : World σ) (lines : List String) :
    Prints (Text.unlines lines) world (lines.foldl World.print world) := by
  induction lines generalizing world with
  | nil => exact nothing rfl rfl
  | cons line lines ih =>
      have joined : Text.unlines (line :: lines) = line ++ "\n" ++ Text.unlines lines := by
        simp [Text.unlines, String.join_cons]
      rw [joined]
      exact (print world line).trans (ih _)

end World.Prints

@[simp]
theorem Verdict.exitCode?_within (step : Step) (verdict : Verdict) :
    (verdict.within step).exitCode? = verdict.exitCode? := by
  cases verdict <;> rfl

namespace Machine

variable {σ : Type u} {machine : Machine σ} {settings : Settings} {world : World σ}

theorem prints_waitForEnter (machine : Machine σ) (world : World σ) :
    World.Prints "" world (machine.waitForEnter world).world := by
  unfold waitForEnter
  split
  · exact .nothing rfl rfl
  · split <;> exact .nothing rfl rfl

theorem prints_discard (machine : Machine σ) (settings : Settings) (dir : String)
    (world : World σ) : World.Prints "" world (machine.discard settings dir world) := by
  unfold discard
  split <;> exact .nothing rfl rfl

theorem printTexts_of_forall₂ {charts : List Chart} {texts : List String}
    (shown : List.Forall₂ (fun chart text => chart.text? = some text) charts texts) :
    ∀ world : World σ, printTexts charts world = ⟨.done, texts.foldl World.print world⟩ := by
  induction shown with
  | nil => exact fun _ => rfl
  | cons first _ ih =>
      intro world
      rw [printTexts, first]
      exact ih _

theorem state_foldl_print (lines : List String) (world : World σ) :
    (lines.foldl World.print world).state = world.state := by
  induction lines generalizing world with
  | nil => rfl
  | cons line lines ih => exact ih _

/-! ## Presenting charts -/

theorem prints_showTexts {charts : List Chart} {texts : List String}
    (shown : List.Forall₂ (fun chart text => chart.text? = some text) charts texts) :
    World.Prints (Text.unlines texts) world (machine.showTexts settings charts world).world := by
  rw [showTexts, printTexts_of_forall₂ shown]
  have printed := World.Prints.foldl_print world texts
  dsimp only
  split
  · exact printed.quietly (prints_waitForEnter machine _)
  · exact printed

theorem showTexts_of_not_waits {charts : List Chart} {texts : List String}
    (shown : List.Forall₂ (fun chart text => chart.text? = some text) charts texts)
    (busy : machine.waits settings world.state = false) :
    machine.showTexts settings charts world = ⟨.done, texts.foldl World.print world⟩ := by
  rw [showTexts, printTexts_of_forall₂ shown]
  simp only [state_foldl_print, busy, Bool.false_eq_true, if_false]

/-- The directory for charts can be had, the one that was asked for or else a new one, and
`opened` is the state with it. -/
def Opens (machine : Machine σ) (dir? : Option String) (state : σ) (dir : String) (opened : σ) :
    Prop :=
  match dir? with
  | some given => dir = given ∧ hasNul dir = false ∧ ∃ tree,
      (machine.tree state).makeDirectories dir = (tree, none) ∧
        opened = machine.withTree state tree
  | none => machine.makeScratch state = (.ok dir, opened)

theorem Opens.unique {dir? : Option String} {state opened other : σ} {dir path : String}
    (opens : machine.Opens dir? state dir opened) (again : machine.Opens dir? state path other) :
    dir = path ∧ opened = other := by
  cases dir? with
  | some given =>
      obtain ⟨rfl, -, tree, made, rfl⟩ := opens
      obtain ⟨rfl, -, same, remade, rfl⟩ := again
      rw [made] at remade
      cases remade
      exact ⟨rfl, rfl⟩
  | none =>
      have same := Eq.trans (Eq.symm opens) again
      cases same
      exact ⟨rfl, rfl⟩

theorem openGallery_of_opens {dir? : Option String} {dir : String} {opened : σ}
    (opens : machine.Opens dir? world.state dir opened) :
    machine.openGallery dir? world = (.ok ⟨dir, []⟩, { world with state := opened }) := by
  cases dir? with
  | some given =>
      obtain ⟨rfl, noNul, tree, made, rfl⟩ := opens
      simp only [openGallery, Gallery.openIn, noNul, Bool.false_eq_true, if_false, made]
  | none =>
      have made : machine.makeScratch world.state = (.ok dir, opened) := opens
      simp only [openGallery, made]
      rfl

/-- Without a directory the session fails, and the refusal of a new directory is all that
happened. -/
theorem openGallery_of_not_opens {dir? : Option String}
    (unopened : ¬ ∃ dir opened, machine.Opens dir? world.state dir opened) :
    ∃ trace state, machine.openGallery dir? world = (.error trace, { world with state }) ∧
      (dir? = none → ∃ cause, machine.makeScratch world.state = (.error cause, state)) := by
  cases dir? with
  | some given =>
      cases nul : hasNul given with
      | true =>
          refine ⟨⟨[.createDirectory given], .nulInPath⟩,
            machine.withTree world.state (machine.tree world.state), ?_, nofun⟩
          simp only [openGallery, Gallery.openIn, nul, if_true]
      | false =>
          cases made : (machine.tree world.state).makeDirectories given with
          | mk tree error? =>
              cases error? with
              | none => exact absurd ⟨given, _, rfl, nul, tree, made, rfl⟩ unopened
              | some error =>
                  refine ⟨⟨[.createDirectory given], .os error⟩,
                    machine.withTree world.state tree, ?_, nofun⟩
                  simp only [openGallery, Gallery.openIn, nul, Bool.false_eq_true, if_false, made]
  | none =>
      cases made : machine.makeScratch world.state with
      | mk result state =>
          cases result with
          | ok dir => exact absurd ⟨dir, state, made⟩ unopened
          | error cause =>
              refine ⟨⟨[.makeScratch], cause⟩, state, ?_, fun _ => ⟨cause, rfl⟩⟩
              simp only [openGallery, made]
              rfl

theorem prints_showPaths (machine : Machine σ) (settings : Settings) (gallery : Gallery)
    (world : World σ) :
    World.Prints (Text.unlines gallery.files) world
      (machine.showPaths settings gallery world).world := by
  have printed := World.Prints.foldl_print world gallery.files
  unfold showPaths
  dsimp only
  split
  · have waited := prints_waitForEnter machine (gallery.files.foldl World.print world)
    split
    · next world' stuck =>
        rw [stuck] at waited
        exact printed.quietly waited
    · next verdict world' _ ended =>
        rw [ended] at waited
        exact (printed.quietly waited).quietly (prints_discard machine settings _ _)
  · exact printed

/-- What a machine does that makes a directory for files that are not kept: the directory is new
and empty, and where none could be made nothing has changed. -/
structure ScratchFresh (machine : Machine σ) : Prop where
  made : ∀ state dir after, machine.makeScratch state = (.ok dir, after) →
    ∃ location, Tree.Fresh dir location (machine.tree state) (machine.tree after)
  refused : ∀ state cause after, machine.makeScratch state = (.error cause, after) →
    machine.tree after = machine.tree state

/-- What becomes of charts that are drawn into a directory, which was opened in the state `left`
and gave the state `opened`. -/
structure Drawn (machine : Machine σ) (settings : Settings) (charts : List Chart) (left : σ)
    (dir : String) (opened : σ) (session : Session σ) : Prop where
  /-- A chart cannot be written: no path is printed, whatever was written before it. -/
  stopped : ∀ error, Gallery.writeFrom dir 0 charts (machine.tree opened) = .error error →
    session.verdict.exitCode? = some 1 ∧ ∃ count < charts.length,
      (∃ before, Gallery.writeFrom dir 0 (charts.take count) (machine.tree opened) = .ok before) ∧
        session.world.printed =
          String.join (Gallery.echoedFrom dir 0 (charts.take count) (machine.tree opened))
  /-- All charts are written: their paths are printed, a line break behind each. -/
  complete : ∀ after, Gallery.writeFrom dir 0 charts (machine.tree opened) = .ok after →
    session.world.printed =
        String.join (Gallery.echoedFrom dir 0 charts (machine.tree opened)) ++
          String.join ((Gallery.pathsFrom dir 0 charts).map (· ++ "\n")) ∧
      (machine.waits settings (machine.withTree opened after) = false →
        session.verdict = .done ∧ session.world.state = machine.withTree opened after)
  /-- No document in a new directory goes to the output, and nothing is left of the directory when
  a chart could not be written or when the user has looked at the charts. -/
  scratch : settings.svgDir = none → machine.ScratchFresh →
    (∀ some_, Gallery.echoedFrom dir 0 some_ (machine.tree opened) = []) ∧
    (∀ error, Gallery.writeFrom dir 0 charts (machine.tree opened) = .error error →
      ∀ location, (machine.tree session.world.state).node? location =
        (machine.tree left).node? location) ∧
    ∀ after entered, Gallery.writeFrom dir 0 charts (machine.tree opened) = .ok after →
      machine.waits settings (machine.withTree opened after) = true →
      machine.flush (machine.withTree opened after) = .ok () →
      machine.readLine (machine.withTree opened after) = some (.ok (), entered) →
      machine.tree entered = after →
      session.verdict = .done ∧ ∀ location,
        (machine.tree session.world.state).node? location = (machine.tree left).node? location

/-- What becomes of charts: the session that presents them, from the world `left` on, in which
nothing was printed yet. -/
structure Presented (machine : Machine σ) (settings : Settings) (charts : List Chart)
    (left : World σ) (session : Session σ) : Prop where
  started_eq : session.world.started = left.started
  /-- As text: the texts of all charts are printed. -/
  text : settings.drawsFiles = false → ∃ texts,
    List.Forall₂ (fun chart text => chart.text? = some text) charts texts ∧
      session.world.printed = String.join (texts.map (· ++ "\n")) ∧
      (machine.waits settings left.state = false →
        session.verdict = .done ∧ session.world.state = left.state)
  /-- There is no directory for the charts: nothing is printed. -/
  unopened : settings.drawsFiles = true →
    (¬ ∃ dir opened, machine.Opens settings.svgDir left.state dir opened) →
    session.verdict.exitCode? = some 1 ∧ session.world.printed = "" ∧
      (settings.svgDir = none → machine.ScratchFresh →
        machine.tree session.world.state = machine.tree left.state)
  drawn : settings.drawsFiles = true → ∀ dir opened,
    machine.Opens settings.svgDir left.state dir opened →
      machine.Drawn settings charts left.state dir opened session

theorem showFiles_of_stopped {gallery : Gallery} {charts : List Chart} {after : Tree} {trace : Trace}
    (added : gallery.addAll (machine.tree world.state) charts = (after, .error trace)) :
    machine.showFiles settings gallery charts world =
      ⟨.failed trace, machine.discard settings gallery.dir { world with
        state := machine.withTree world.state after
        printed := world.printed ++ gallery.echo (machine.tree world.state) charts }⟩ := by
  simp only [showFiles, drawAll, added]

theorem showFiles_of_complete {gallery drawn : Gallery} {charts : List Chart} {after : Tree}
    (added : gallery.addAll (machine.tree world.state) charts = (after, .ok drawn)) :
    machine.showFiles settings gallery charts world =
      machine.showPaths settings drawn { world with
        state := machine.withTree world.state after
        printed := world.printed ++ gallery.echo (machine.tree world.state) charts } := by
  simp only [showFiles, drawAll, added]

theorem showPaths_of_not_waits {gallery : Gallery}
    (busy : machine.waits settings world.state = false) :
    machine.showPaths settings gallery world = ⟨.done, gallery.files.foldl World.print world⟩ := by
  simp only [showPaths, busy, Bool.false_eq_true, if_false]

/-- Once the user has pressed Enter, a directory that was not asked for is taken away. -/
theorem showPaths_of_dismissed (gallery : Gallery) {entered : σ}
    (unasked : settings.svgDir = none) (waiting : machine.waits settings world.state = true)
    (flushed : machine.flush world.state = .ok ())
    (dismissed : machine.readLine world.state = some (.ok (), entered)) :
    ∃ left, machine.showPaths settings gallery world = ⟨.done, left⟩ ∧
      machine.tree left.state = (machine.tree entered).removeAll gallery.dir := by
  refine ⟨machine.discard settings gallery.dir
    { gallery.files.foldl World.print world with state := entered }, ?_, ?_⟩
  · simp only [showPaths, waiting, if_true, waitForEnter, state_foldl_print, flushed, dismissed]
  · simp only [discard, unasked, Option.isSome_none, Bool.false_eq_true, if_false,
      machine.tree_withTree]

theorem fresh_of_opens {dir : String} {left opened : σ}
    (opens : machine.Opens settings.svgDir left dir opened) (unasked : settings.svgDir = none)
    (scratch : machine.ScratchFresh) :
    ∃ location, Tree.Fresh dir location (machine.tree left) (machine.tree opened) := by
  rw [unasked] at opens
  exact scratch.made left dir opened opens

/-- A chart could not be written. -/
theorem drawn_of_stopped {dir : String} {left : σ} {charts : List Chart} {after : Tree}
    {error : OsError} {trace : Trace} (opens : machine.Opens settings.svgDir left dir world.state)
    (silent : world.printed = "")
    (failed : Gallery.writeFrom dir 0 charts (machine.tree world.state) = .error error)
    (added : Gallery.addAll ⟨dir, []⟩ (machine.tree world.state) charts = (after, .error trace)) :
    machine.Drawn settings charts left dir world.state
      (machine.showFiles settings ⟨dir, []⟩ charts world) := by
  rw [showFiles_of_stopped added]
  refine ⟨?stopped, ?complete, ?scratch⟩
  case stopped =>
    intro _ _
    obtain ⟨count, less, before, drawn, echoed⟩ :=
      Gallery.echo_of_stopped ⟨dir, []⟩ failed
    refine ⟨rfl, count, less, ⟨before, drawn⟩, ?_⟩
    rw [(prints_discard machine settings dir _).printed_eq, String.append_empty]
    simp only [silent, String.empty_append, echoed]
    rfl
  case complete =>
    intro after written
    rw [failed] at written
    cases written
  case scratch =>
    intro unasked scratch
    obtain ⟨location, fresh⟩ := fresh_of_opens opens unasked scratch
    refine ⟨fun some => Gallery.echoedFrom_of_fresh fresh 0 some, ?_, ?_⟩
    · intro _ _ other
      have removed := Gallery.node?_removeAll_addAll fresh charts other
      rw [added] at removed
      simpa only [discard, unasked, Option.isSome_none, Bool.false_eq_true, if_false,
        machine.tree_withTree] using removed
    · intro after entered written
      rw [failed] at written
      cases written

/-- All charts were written. -/
theorem drawn_of_complete {dir : String} {left : σ} {charts : List Chart} {after : Tree}
    (opens : machine.Opens settings.svgDir left dir world.state) (silent : world.printed = "")
    (written : Gallery.writeFrom dir 0 charts (machine.tree world.state) = .ok after)
    (added : Gallery.addAll ⟨dir, []⟩ (machine.tree world.state) charts =
      (after, .ok ⟨dir, Gallery.pathsFrom dir 0 charts⟩)) :
    machine.Drawn settings charts left dir world.state
      (machine.showFiles settings ⟨dir, []⟩ charts world) := by
  rw [showFiles_of_complete added]
  have same : ∀ other, Gallery.writeFrom dir 0 charts (machine.tree world.state) = .ok other →
      after = other := by
    intro other again
    rw [written] at again
    exact Except.ok.inj again
  have not_failed : ∀ error,
      Gallery.writeFrom dir 0 charts (machine.tree world.state) ≠ .error error := by
    intro error failed
    rw [written] at failed
    cases failed
  refine ⟨fun error failed => absurd failed (not_failed error), ?complete, ?scratch⟩
  case complete =>
    intro other again
    obtain rfl := same other again
    refine ⟨?_, ?_⟩
    · rw [(prints_showPaths machine settings _ _).printed_eq]
      simp only [silent, String.empty_append]
      rw [Gallery.echo_of_written ⟨dir, []⟩ written]
      rfl
    · intro busy
      rw [showPaths_of_not_waits busy]
      exact ⟨rfl, state_foldl_print _ _⟩
  case scratch =>
    intro unasked scratch
    obtain ⟨location, fresh⟩ := fresh_of_opens opens unasked scratch
    refine ⟨fun some => Gallery.echoedFrom_of_fresh fresh 0 some,
      fun error failed => absurd failed (not_failed error), ?_⟩
    intro other entered again waiting flushed dismissed untouched
    obtain rfl := same other again
    generalize printed : world.printed ++
      Gallery.echo ⟨dir, []⟩ (machine.tree world.state) charts = text
    obtain ⟨final, shown, tree_eq⟩ := @showPaths_of_dismissed σ machine settings
      { world with state := machine.withTree world.state after, printed := text }
      ⟨dir, Gallery.pathsFrom dir 0 charts⟩ entered unasked waiting flushed dismissed
    rw [shown]
    refine ⟨rfl, ?_⟩
    intro other
    have removed := Gallery.node?_removeAll_addAll fresh charts other
    rw [added] at removed
    rw [tree_eq, untouched]
    exact removed

theorem drawn_showFiles {dir : String} {left : σ} {charts : List Chart}
    (opens : machine.Opens settings.svgDir left dir world.state) (silent : world.printed = "") :
    machine.Drawn settings charts left dir world.state
      (machine.showFiles settings ⟨dir, []⟩ charts world) := by
  rcases Gallery.addAll_cases ⟨dir, []⟩ (machine.tree world.state) charts with
    ⟨after, written, added⟩ | ⟨error, after, trace, failed, added⟩
  · exact drawn_of_complete opens silent written added
  · exact drawn_of_stopped opens silent failed added

theorem started_showFiles (machine : Machine σ) (settings : Settings) (gallery : Gallery)
    (charts : List Chart) (world : World σ) :
    (machine.showFiles settings gallery charts world).world.started = world.started := by
  unfold showFiles drawAll
  dsimp only
  split
  · next added =>
      obtain ⟨-, rfl⟩ := Prod.mk.inj added
      exact (prints_discard machine settings _ _).started_eq
  · next added =>
      obtain ⟨-, rfl⟩ := Prod.mk.inj added
      exact (prints_showPaths machine settings _ _).started_eq

/-- The same is said of a session and of the part that ended it. -/
theorem Drawn.within {charts : List Chart} {left opened : σ} {dir : String} {session : Session σ}
    (drawn : machine.Drawn settings charts left dir opened session) (step : Step) :
    machine.Drawn settings charts left dir opened
      { session with verdict := session.verdict.within step } := by
  refine ⟨?_, ?_, ?_⟩
  · intro error failed
    obtain ⟨failed, echoed⟩ := drawn.stopped error failed
    exact ⟨(Verdict.exitCode?_within _ _).trans failed, echoed⟩
  · intro after written
    obtain ⟨printed, done⟩ := drawn.complete after written
    refine ⟨printed, fun busy => ?_⟩
    obtain ⟨verdict, state⟩ := done busy
    exact ⟨by rw [verdict]; rfl, state⟩
  · intro unasked scratch
    obtain ⟨echoed, removed, dismissed⟩ := drawn.scratch unasked scratch
    refine ⟨echoed, removed, ?_⟩
    intro after entered written waiting flushed pressed untouched
    obtain ⟨verdict, removed⟩ := dismissed after entered written waiting flushed pressed untouched
    exact ⟨by rw [verdict]; rfl, removed⟩

/-- What becomes of the charts of a summary. -/
theorem presented_present (machine : Machine σ) (settings : Settings) (summary : SummaryTable)
    {left : World σ} (silent : left.printed = "") :
    machine.Presented settings (Chart.ofSummary summary) left
      (machine.present settings (Chart.ofSummary summary) left) := by
  cases inFiles : settings.drawsFiles with
  | false =>
      rw [present, inFiles, if_neg Bool.false_ne_true]
      obtain ⟨texts, shown⟩ := exists_texts summary
      have prints := @prints_showTexts σ machine settings left _ _ shown
      have none_drawn : settings.drawsFiles ≠ true := by simp [inFiles]
      refine ⟨prints.started_eq, ?_, fun files => absurd files none_drawn,
        fun files => absurd files none_drawn⟩
      intro _
      refine ⟨texts, shown, ?_, ?_⟩
      · rw [prints.printed_eq, silent, String.empty_append]
        rfl
      · intro busy
        rw [showTexts_of_not_waits shown busy]
        exact ⟨rfl, state_foldl_print _ _⟩
  | true =>
      rw [present, if_pos inFiles]
      have none_shown : settings.drawsFiles ≠ false := by simp [inFiles]
      by_cases opens : ∃ dir opened, machine.Opens settings.svgDir left.state dir opened
      · obtain ⟨dir, opened, opens⟩ := opens
        rw [openGallery_of_opens opens]
        refine ⟨started_showFiles machine settings _ _ _, fun texts => absurd texts none_shown,
          fun _ nowhere => absurd ⟨dir, opened, opens⟩ nowhere, ?_⟩
        intro _ other state again
        obtain ⟨rfl, rfl⟩ := Opens.unique opens again
        exact (@drawn_showFiles σ machine settings { left with state := opened } dir left.state _
          opens silent).within .present
      · obtain ⟨trace, state, failed, refused⟩ := openGallery_of_not_opens opens
        rw [failed]
        refine ⟨rfl, fun texts => absurd texts none_shown, ?_, fun _ dir opened found => absurd ⟨dir, opened, found⟩ opens⟩
        intro _ _
        refine ⟨rfl, silent, ?_⟩
        intro unasked scratch
        obtain ⟨cause, made⟩ := refused unasked
        exact scratch.refused left.state cause state made

end Machine

end PhaseBench
