import PhaseBench.Host.Standard
import PhaseBench.Proofs.Campaign.Charts
import PhaseBench.Proofs.Session.Preparation
import PhaseBench.Proofs.Session.Presentation

/-!
# What a session prints and leaves

A session checks its settings, runs its campaign and presents the charts, in this order. One
that ends at the check or at the campaign has printed nothing and has changed nothing
itself, since calls do not print (`printed_after`). `session_all_or_nothing` says this of every
machine, and what is printed and left by every other session.

What is printed is not always one line for each chart: a path may hold a line break, and a
document goes to the standard output where the path of its file leads there
(`paths_not_lines`).
-/

namespace PhaseBench

universe u

namespace Machine

variable {σ : Type u} {machine : Machine σ} {settings : Settings} {world : World σ}

/-! ## Calls -/

/-- A call prints nothing. -/
theorem printed_invoker (template : Command) (limit? : Option Duration) (call : Call)
    (world : World σ) :
    (machine.invoker template limit? call world).2.printed = world.printed := by
  unfold invoker
  split
  · rfl
  · dsimp only
    split <;> rfl

theorem printed_after (template : Command) (limit? : Option Duration) (calls : List Call)
    (world : World σ) :
    ((machine.bench template limit?).after calls world).printed = world.printed := by
  induction calls generalizing world with
  | nil => rfl
  | cons call calls ih =>
      rw [Bench.after_cons, ih]
      exact printed_invoker template limit? call world

/-- The bench of the command that is given by settings. -/
def benchOf (machine : Machine σ) {tree : Tree} (startable : settings.Startable tree) :
    Bench (World σ) :=
  machine.bench startable.template (settings.timeout.map Duration.ofSeconds)

/-! ## Ends of a session -/

theorem perform_of_not_startable
    (unstartable : ¬ settings.Startable (machine.tree world.state)) :
    ∃ trace, machine.perform settings world = ⟨.failed trace, world⟩ := by
  cases prepared : prepare (machine.tree world.state) settings with
  | ok ready => exact absurd (Settings.startable_of_prepare prepared) unstartable
  | error trace => exact ⟨trace, by rw [perform, prepared]⟩

theorem exitCode?_crash_ne_one (plan : Plan) : (crash plan).exitCode? ≠ some 1 := by
  unfold crash
  split <;> simp [Verdict.exitCode?]

section

variable (startable : settings.Startable (machine.tree world.state))

theorem perform_of_crowded
    (crowded : (machine.benchOf startable).Crowded machine.memory startable.plan world) :
    machine.perform settings world = ⟨crash startable.plan, world⟩ := by
  have none_returned := Bench.runIn?_eq_none_iff.mpr crowded
  rw [benchOf] at none_returned
  simp only [perform, startable.prepare_eq, none_returned]

variable {outcome : Outcome (World σ) SampleTable}
  (returned : (machine.benchOf startable).runIn? machine.memory startable.plan world = some outcome)

include returned

theorem perform_of_stuck (stuck : outcome.state.stuck = true) :
    machine.perform settings world = ⟨.stuck, outcome.state⟩ := by
  rw [benchOf] at returned
  simp only [perform, startable.prepare_eq, returned, stuck, if_true]

theorem perform_of_error {trace : Trace} (going : outcome.state.stuck = false)
    (error : outcome.result = .error trace) :
    machine.perform settings world = ⟨.failed (trace.within .matrix), outcome.state⟩ := by
  rw [benchOf] at returned
  simp only [perform, startable.prepare_eq, returned, going, Bool.false_eq_true, if_false, error]

theorem perform_of_ok {table : SampleTable} (going : outcome.state.stuck = false)
    (ok : outcome.result = .ok table) :
    machine.perform settings world =
      machine.present settings (Chart.ofSummary table.summarize) outcome.state := by
  rw [benchOf] at returned
  simp only [perform, startable.prepare_eq, returned, going, Bool.false_eq_true, if_false, ok]

end

end Machine

/-- A session prints everything or nothing of its own: the texts of all charts, or the paths of all
their files, and no text and no path when anything went wrong before, be it the last chart that
cannot be written. -/
theorem session_all_or_nothing {σ : Type u} (machine : Machine σ) (arguments : List String)
    (settings : Settings) (parsed : Settings.parse arguments = .ok settings) (state : σ) :
    let session := machine.session arguments state
    let before : World σ := { state }
    -- Without a directory, a command, a run or distinct configurations nothing is done at all.
    (¬ settings.Startable (machine.tree state) →
      session.verdict.exitCode? = some 1 ∧ session.world = before) ∧
    ∀ startable : settings.Startable (machine.tree state),
      let bench := machine.benchOf startable
      let plan := startable.plan
      -- Samples that there is no room for end the program before the first call.
      (bench.Crowded machine.memory plan before →
        session.verdict.exitCode? ≠ some 1 ∧ session.world = before) ∧
      (¬ bench.Crowded machine.memory plan before →
        ∃ outcome, bench.runIn? machine.memory plan before = some outcome) ∧
      ∀ outcome, bench.runIn? machine.memory plan before = some outcome →
        -- The campaign prints nothing, and leaves what its calls left.
        outcome.state = bench.after outcome.calls before ∧ outcome.state.printed = "" ∧
        -- A command that is waited for without end keeps the session from ending.
        (outcome.state.stuck = true → session = ⟨.stuck, outcome.state⟩) ∧
        -- Where a listing or a call fails, the session ends with that.
        (outcome.state.stuck = false → bench.Fails plan before →
          session.verdict.exitCode? = some 1 ∧ session.world = outcome.state) ∧
        -- Otherwise there is one chart for each configuration, in order, and these are presented.
        (outcome.state.stuck = false → ¬ bench.Fails plan before → ∃ table,
          outcome.result = .ok table ∧
          (∃ visits, bench.Walk plan before visits outcome.state ∧
            visits.map (·.configuration) = settings.configurations ∧
            List.Forall₂ Visit.Charted visits (Chart.ofSummary table.summarize)) ∧
          machine.Presented settings (Chart.ofSummary table.summarize) outcome.state session) := by
  intro session before
  have performed : session = machine.perform settings before := by
    unfold session before
    rw [Machine.session, parsed]
  clear_value session
  subst performed
  refine ⟨?unstartable, fun startable => ⟨?crowded, ?roomy, ?returned⟩⟩
  case unstartable =>
    intro unstartable
    obtain ⟨trace, failed⟩ :=
      @Machine.perform_of_not_startable _ machine settings before unstartable
    rw [failed]
    exact ⟨rfl, rfl⟩
  case crowded =>
    intro crowded
    rw [Machine.perform_of_crowded startable crowded]
    exact ⟨Machine.exitCode?_crash_ne_one _, rfl⟩
  case roomy =>
    intro room
    exact Option.ne_none_iff_exists'.mp (mt Bench.runIn?_eq_none_iff.mp room)
  case returned =>
    intro outcome returned
    have ran := Bench.eq_run_of_runIn? returned
    have left : outcome.state = (machine.benchOf startable).after outcome.calls before := by
      rw [ran]
      exact Bench.run_state _ _ _
    have silent : outcome.state.printed = "" := by
      rw [left]
      exact Machine.printed_after _ _ _ _
    refine ⟨left, silent, Machine.perform_of_stuck startable returned, ?failing, ?presenting⟩
    case failing =>
      intro going fails
      obtain ⟨trace, error⟩ := Bench.run_error_iff.mpr fails
      rw [← ran] at error
      rw [Machine.perform_of_error startable returned going error]
      exact ⟨rfl, rfl⟩
    case presenting =>
      intro going onward
      cases result : outcome.result with
      | error trace =>
          rw [ran] at result
          exact absurd (Bench.run_error_iff.mp ⟨trace, result⟩) onward
      | ok table =>
          refine ⟨table, rfl, ?_, ?_⟩
          · have ok := result
            rw [ran] at ok ⊢
            obtain ⟨visits, walk, visited, -, -, rfl⟩ := Bench.completed_of_ok ok
            exact ⟨visits, walk, visited, forall₂_charted _ visits⟩
          · rw [Machine.perform_of_ok startable returned going result]
            exact Machine.presented_present machine settings _ silent

namespace Sample

/-- A machine that counts the commands it starts; the second cannot be started. -/
def machine : Machine (Tree × Nat) where
  tree := (·.1)
  withTree := fun state tree => (tree, state.2)
  tree_withTree := fun _ _ => rfl
  memory := .largest
  collect := fun _ _ (tree, number) =>
    match number with
    | 1 => some (.error (.reported "boom"), tree, 2)
    | _ => some (.ok ⟨ByteArray.empty, .exit 0⟩, tree, number + 1)
  watch := fun _ _ _ state => some (.error (.os .noAccess), state)
  makeScratch := fun state => (.error (.os .noAccess), state)
  attended := fun _ => false
  flush := fun _ => .ok ()
  readLine := fun _ => none

/-- One run on each file of a directory. -/
def settings (policy : FailurePolicy) (svgDir : Option String) : Settings where
  dir := "d"
  features := ["A"]
  runs := 1
  command := some "x"
  onFailure := policy
  svgDir := svgDir

/-- The world before the first command. -/
def world : World (Tree × Nat) where
  state := (tree, 0)

theorem startable (policy : FailurePolicy) (svgDir : Option String) :
    (settings policy svgDir).Startable (machine.tree world.state) where
  directory := show tree.isDirectory "d" = true by decide +kernel
  worded := by
    rintro command ⟨rfl⟩
    exact ⟨'x', by decide, by decide⟩
  runs_pos := Nat.one_pos
  distinct := List.nodup_singleton _

theorem exists_walk_machine (policy : FailurePolicy) (svgDir : Option String) :
    ∃ final, (machine.benchOf (startable policy svgDir)).Walk (startable policy svgDir).plan
      world [⟨⟨"A"⟩, [⟨"a", "d/a"⟩, ⟨"b", "d/b"⟩]⟩] final :=
  ⟨_, .visit inputFiles_tree .done⟩

theorem not_crowded_machine (policy : FailurePolicy) (svgDir : Option String) :
    ¬ (machine.benchOf (startable policy svgDir)).Crowded machine.memory
      (startable policy svgDir).plan world := by
  rintro ⟨-, many, -⟩
  exact absurd many (by decide : ¬ Nat.pow 2 60 - 1 < 1)

theorem fails_machine : (machine.benchOf (startable .abort (some "out"))).Fails
    (startable .abort (some "out")).plan world := by
  obtain ⟨final, walk⟩ := exists_walk_machine .abort (some "out")
  refine .stopped rfl walk List.prefix_rfl (List.mem_cons_of_mem _ List.mem_cons_self) ?_
  decide +kernel

theorem not_fails_machine : ¬ (machine.benchOf (startable .zero none)).Fails
    (startable .zero none).plan world := by
  obtain ⟨final, walk⟩ := exists_walk_machine .zero none
  rw [← Bench.run_error_iff, Bench.run_of_goesOn walk [] rfl (Bench.goesOn_zero _)]
  rintro ⟨trace, ⟨⟩⟩

/-- A command changes no file, and the program never waits for one without end. -/
theorem invoker_machine (template : Command) (call : Call) {world : World (Tree × Nat)}
    (going : world.stuck = false) :
    (machine.invoker template none call world).2.stuck = false ∧
      (machine.invoker template none call world).2.state.1 = world.state.1 := by
  obtain ⟨⟨tree, number⟩, printed, started, stuck⟩ := world
  obtain rfl : stuck = false := going
  simp only [Machine.invoker, Machine.invoke?, Machine.collectCommand]
  cases (template.fill call.configuration call.path).hasNul with
  | true => exact ⟨rfl, rfl⟩
  | false =>
      match number with
      | 0 => exact ⟨rfl, rfl⟩
      | 1 => exact ⟨rfl, rfl⟩
      | number + 2 => exact ⟨rfl, rfl⟩

theorem after_machine (template : Command) (calls : List Call) {world : World (Tree × Nat)}
    (going : world.stuck = false) :
    ((machine.bench template none).after calls world).stuck = false ∧
      ((machine.bench template none).after calls world).state.1 = world.state.1 := by
  induction calls generalizing world with
  | nil => exact ⟨going, rfl⟩
  | cons call calls ih =>
      obtain ⟨onward, kept⟩ := invoker_machine template call going
      obtain ⟨still, same⟩ := ih onward
      exact ⟨still, same.trans kept⟩

/-- A session that draws its charts and stops at a failure. -/
def drawing : Session (Tree × Nat) :=
  machine.session ["bench", "--dir=d", "-fA", "-n1", "--command=x", "--svg-dir=out"] world.state

/-- A session that shows its charts and goes on after a failure. -/
def showing : Session (Tree × Nat) :=
  machine.session ["bench", "--dir=d", "-fA", "-n1", "--command=x", "--on-failure=zero"]
    world.state

end Sample

/-- The second call fails. Where the session stops, nothing is printed and the directory for
the charts is not made; where it goes on, the chart is shown. -/
theorem session_all_or_nothing_second_call :
    (Sample.drawing.verdict.exitCode? = some 1 ∧ Sample.drawing.world.printed = "" ∧
      Sample.drawing.world.state.1 = Sample.tree) ∧
    ∃ (chart : Chart) (text : String), chart.title = "A" ∧ chart.text? = some text ∧
      Sample.showing.verdict = .done ∧ Sample.showing.world.printed = text ++ "\n" := by
  refine ⟨?_, ?_⟩
  · have parsed : Settings.parse
        ["bench", "--dir=d", "-fA", "-n1", "--command=x", "--svg-dir=out"] =
        .ok (Sample.settings .abort (some "out")) := by decide +kernel
    obtain ⟨-, started⟩ := session_all_or_nothing Sample.machine _ _ parsed Sample.world.state
    obtain ⟨-, roomy, returns⟩ := started (Sample.startable .abort (some "out"))
    obtain ⟨outcome, returned⟩ := roomy (Sample.not_crowded_machine .abort (some "out"))
    obtain ⟨left, silent, -, failing, -⟩ := returns outcome returned
    obtain ⟨going, kept⟩ := Sample.after_machine
      (Sample.startable .abort (some "out")).template outcome.calls
      (show Sample.world.stuck = false from rfl)
    obtain ⟨exitCode, world_eq⟩ := failing (left ▸ going) Sample.fails_machine
    unfold Sample.drawing
    rw [world_eq]
    refine ⟨exitCode, silent, ?_⟩
    rw [left]
    exact kept
  · have parsed : Settings.parse
        ["bench", "--dir=d", "-fA", "-n1", "--command=x", "--on-failure=zero"] =
        .ok (Sample.settings .zero none) := by decide +kernel
    obtain ⟨-, started⟩ := session_all_or_nothing Sample.machine _ _ parsed Sample.world.state
    obtain ⟨-, roomy, returns⟩ := started (Sample.startable .zero none)
    obtain ⟨outcome, returned⟩ := roomy (Sample.not_crowded_machine .zero none)
    obtain ⟨left, -, -, -, presenting⟩ := returns outcome returned
    obtain ⟨going, -⟩ := Sample.after_machine (Sample.startable .zero none).template outcome.calls
      (show Sample.world.stuck = false from rfl)
    obtain ⟨table, -, ⟨visits, -, visited, charted⟩, presented⟩ :=
      presenting (left ▸ going) Sample.not_fails_machine
    obtain ⟨texts, shown, printed, done⟩ := presented.text rfl
    obtain ⟨verdict, -⟩ := done rfl
    obtain ⟨visit, rfl, configuration⟩ := List.map_eq_singleton_iff.mp visited
    generalize Chart.ofSummary table.summarize = charts at charted shown
    obtain ⟨chart, charts, single, none_later, rfl⟩ := List.forall₂_cons_left_iff.mp charted
    obtain rfl := List.forall₂_nil_left_iff.mp none_later
    obtain ⟨text, texts, first, no_text, rfl⟩ := List.forall₂_cons_left_iff.mp shown
    obtain rfl := List.forall₂_nil_left_iff.mp no_text
    have title : chart.title = "A" := by
      rw [single.title_eq, configuration]
      rfl
    unfold Sample.showing
    refine ⟨chart, text, title, first, verdict, ?_⟩
    rw [printed]
    simp [String.join]

namespace Sample

/-- An empty directory of input files, and one in which the place of the first chart is taken by a
link to the standard output. -/
def redirected : Tree :=
  ((Host.standardTree.put ["work", "d"] .directory).put ["work", "o"] .directory).put
    ["work", "o", "00-a.svg"] (.link "/dev/stdout")

/-- A session that draws the chart of one configuration. -/
def filing (svgDir : String) : Session Host.Kernel :=
  Host.standard.session ["bench", "--dir=d", "-fA", "-n1", "--command=true", svgDir, "--no-wait"]
    { tree := redirected }

end Sample

/-- One chart is written, and still what is printed is not one line with its path: the path takes
two lines, or the document goes before it. -/
theorem paths_not_lines :
    (Sample.filing "--svg-dir=o\nx").verdict = .done ∧
      (Sample.filing "--svg-dir=o\nx").world.printed = "o\nx/00-a.svg\n" ∧
      (Sample.filing "--svg-dir=o").verdict = .done ∧
      (Sample.filing "--svg-dir=o").world.printed.startsWith "<svg" = true := by
  decide +kernel

end PhaseBench
