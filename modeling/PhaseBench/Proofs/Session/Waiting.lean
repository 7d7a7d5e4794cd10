import PhaseBench.Host.Standard
import PhaseBench.Proofs.Campaign.Failure
import PhaseBench.Proofs.Text.Lossy

/-!
# Waiting with and without a limit

Without a limit a command reads nothing and stays in the process group of the program.
With a limit it reads what the program would read, in a group of its own. `Fate` is what
becomes of a command that is started in one of these ways, and a machine may report it
for each (`Machine.Collects`, `Machine.Watches`). What the program makes of a fate does
not depend on the way: a command that ends in time with the same bytes and the same
ending has the same outcome (`invoke_agrees`). The ways themselves are not the same, and
a command can tell them apart (`group_told_apart`).
-/

namespace PhaseBench

universe u

/-! ## Fates -/

/-- What becomes of a command that is started and waited for. -/
inductive Fate
  /-- It cannot be started. -/
  | refused (cause : Cause)
  /-- It ends, having written the given bytes. -/
  | ends (output : ByteArray) (ending : Ending)
  /-- It does not end as long as it is waited for. -/
  | lasts

namespace Machine

variable {σ : Type u}

/-- Without a limit the machine tells why a command could not be started, or all that it wrote
and how it ended, and tells nothing when it does not end. -/
def Collects (machine : Machine σ) (command : Command) (state : σ) : Fate → Prop
  | .refused cause => ∃ left, machine.collectCommand command state = some (.error cause, left)
  | .ends output ending =>
    ∃ left, machine.collectCommand command state = some (.ok ⟨output, ending⟩, left)
  | .lasts => machine.collectCommand command state = none

/-- With a limit the machine tells why a command could not be started, or all that it wrote and
how it ended, or that it did not end in time. -/
def Watches (machine : Machine σ) (limit : Duration) (command : Command) (state : σ) :
    Fate → Prop
  | .refused cause => ∃ left, machine.watchCommand limit command state = some (.error cause, left)
  | .ends output ending => ∃ left, machine.watchCommand limit command state =
      some (.ok (.ended ending (some (.ok output))), left)
  | .lasts => ∃ kill reaped left, machine.watchCommand limit command state =
      some (.ok (.overran kill reaped), left)

/-- The bytes and the ending of a command that is waited for without a limit, if it ends. -/
def collectedEnd? (machine : Machine σ) (command : Command) (state : σ) :
    Option (ByteArray × Ending) :=
  match machine.collectCommand command state with
  | some (.ok finished, _) => some (finished.output, finished.ending)
  | _ => none

/-- The bytes and the ending of a command that is waited for up to a limit, if it ends in
time. -/
def watchedEnd? (machine : Machine σ) (limit : Duration) (command : Command) (state : σ) :
    Option (ByteArray × Ending) :=
  match machine.watchCommand limit command state with
  | some (.ok (.ended ending (some (.ok output))), _) => some (output, ending)
  | _ => none

theorem collects_ends_iff {machine : Machine σ} {command : Command} {state : σ}
    {output : ByteArray} {ending : Ending} :
    machine.Collects command state (.ends output ending) ↔
      machine.collectedEnd? command state = some (output, ending) := by
  unfold Collects collectedEnd?
  constructor
  · rintro ⟨left, collected⟩
    rw [collected]
  · intro seen
    split at seen
    · next finished left collected =>
        cases seen
        exact ⟨left, collected⟩
    · cases seen

theorem watches_ends_iff {machine : Machine σ} {limit : Duration} {command : Command} {state : σ}
    {output : ByteArray} {ending : Ending} :
    machine.Watches limit command state (.ends output ending) ↔
      machine.watchedEnd? limit command state = some (output, ending) := by
  unfold Watches watchedEnd?
  constructor
  · rintro ⟨left, watched⟩
    rw [watched]
  · intro seen
    split at seen
    · next left watched =>
        cases seen
        exact ⟨left, watched⟩
    · cases seen

/-- The outcome of a command, nothing when the program waits for it without end. -/
def reply? (machine : Machine σ) (limit? : Option Duration) (command : Command) (state : σ) :
    Option (Except Trace String) :=
  (machine.invoke? limit? command state).map (·.1)

theorem reply?_none (machine : Machine σ) (command : Command) (state : σ) :
    machine.reply? none command state =
      (machine.collectCommand command state).map fun seen => command.outcome seen.1 := by
  rw [reply?, invoke?, Option.map_map]
  rfl

theorem reply?_some (machine : Machine σ) (limit : Duration) (command : Command) (state : σ) :
    machine.reply? (some limit) command state =
      (machine.watchCommand limit command state).map fun seen =>
        command.outcomeIn limit seen.1 := by
  rw [reply?, invoke?, Option.map_map]
  rfl

end Machine

/-! ## Outcomes -/

theorem Trace.line_ofCause (cause : Cause) : (Trace.ofCause cause).line = cause.message :=
  String.intercalate_singleton

theorem Ending.check_of_ne {ending : Ending} (bad : ending ≠ .exit 0) :
    ending.check = .error (.ofCause (.ended ending)) := by
  simp [Ending.check, Ending.succeeded, bad]

theorem Kill.check_of_not_refused {kill : Kill} (killed : ∀ cause, kill ≠ .refused cause) :
    kill.check = .ok () := by
  cases kill with
  | done => rfl
  | nobody => rfl
  | refused cause => exact absurd rfl (killed cause)

/-- What the outcome of a command says of its end: the text of its output when it ended well and
only then, and otherwise how it ended. -/
structure Told (command : Command) (output : ByteArray) (ending : Ending)
    (reply : Except Trace String) : Prop where
  ok_iff : (∃ text, reply = .ok text) ↔ ending = .exit 0
  /-- The text is that of the whole output. -/
  text_iff : ∀ text, reply = .ok text ↔ ending = .exit 0 ∧ Text.Lossy output.toList text.toList
  utf8 : ∀ text : String, ending = .exit 0 → output = text.toUTF8 → reply = .ok text
  failed : ending ≠ .exit 0 → ∃ trace, reply = .error trace ∧ trace.line =
    ": ".intercalate [command.description, "exited with non-zero status " ++ ending.text]

namespace Command

variable (command : Command) (limit : Duration) (output : ByteArray)

theorem outcome_exit_zero :
    command.outcome (.ok ⟨output, .exit 0⟩) = .ok (Text.textOfBytes output) := rfl

theorem outcome_of_ne {ending : Ending} (bad : ending ≠ .exit 0) :
    command.outcome (.ok ⟨output, ending⟩) =
      .error ((Trace.ofCause (.ended ending)).within (.command command.description)) := by
  simp only [outcome, Finished.text, attempt, bind, Except.bind, Ending.check_of_ne bad]
  rfl

/-- The two ways to wait make the same of a command that has ended, although with a limit its
text comes wrapped in one layer more. -/
theorem outcomeIn_ended (ending : Ending) :
    command.outcomeIn limit (.ok (.ended ending (some (.ok output)))) =
      command.outcome (.ok ⟨output, ending⟩) := by
  by_cases good : ending = .exit 0
  · subst good
    rfl
  · rw [outcome_of_ne command output good]
    simp only [outcomeIn, Child.text?, Child.readAll, attempt, bind, Except.bind,
      Ending.check_of_ne good]
    rfl

theorem told_outcome (ending : Ending) :
    Told command output ending (command.outcome (.ok ⟨output, ending⟩)) := by
  by_cases good : ending = .exit 0
  · subst good
    rw [outcome_exit_zero]
    refine ⟨⟨fun _ => rfl, fun _ => ⟨_, rfl⟩⟩, ?_, ?_, fun bad => absurd rfl bad⟩
    · intro text
      rw [← Text.textOfBytes_eq_iff]
      simp
    · rintro text - rfl
      rw [Text.textOfBytes_toUTF8]
  · rw [outcome_of_ne command output good]
    exact ⟨by simp [good], by simp [good], fun _ exit => absurd exit good, fun _ => ⟨_, rfl, rfl⟩⟩

/-- Two ends have the same outcome when the endings are the same, and also the texts if these
are shown. -/
theorem outcome_eq_iff {other : ByteArray} {ending another : Ending} :
    command.outcome (.ok ⟨other, another⟩) = command.outcome (.ok ⟨output, ending⟩) ↔
      another = ending ∧
        (ending = .exit 0 → Text.textOfBytes other = Text.textOfBytes output) := by
  by_cases good : ending = .exit 0
  · subst good
    by_cases same : another = .exit 0
    · subst same
      simp [outcome_exit_zero]
    · simp [outcome_exit_zero, outcome_of_ne command other same, same]
  · by_cases same : another = ending
    · subst same
      simp [outcome_of_ne command _ good, good]
    · by_cases fine : another = .exit 0
      · subst fine
        simp [outcome_exit_zero, outcome_of_ne command output good, same]
      · simp [outcome_of_ne command _ good, outcome_of_ne command _ fine, Trace.within,
          Trace.ofCause, same]

/-- A command that was not started fails with one step inside of it, named for the way it is
waited for. -/
theorem outcome_refused (cause : Cause) :
    (∃ trace, command.outcomeIn limit (.error cause) = .error trace ∧
      trace.line = ": ".intercalate [command.description, "spawn", cause.message]) ∧
    ∃ trace, command.outcome (.error cause) = .error trace ∧
      trace.line = ": ".intercalate [command.description, "output", cause.message] :=
  ⟨⟨_, rfl, rfl⟩, ⟨_, rfl, rfl⟩⟩

/-- A command that could not be waited for or whose output was lost fails with the step at which
this happened, however it ended. -/
theorem outcomeIn_lost (ending : Ending) (cause : Cause) :
    (∃ trace, command.outcomeIn limit (.ok (.lost cause)) = .error trace ∧
      trace.line = ": ".intercalate [command.description, "wait", cause.message]) ∧
    (∃ trace, command.outcomeIn limit (.ok (.ended ending none)) = .error trace ∧
      trace.line = ": ".intercalate [command.description, "stdout reader panicked"]) ∧
    ∃ trace, command.outcomeIn limit (.ok (.ended ending (some (.error cause)))) = .error trace ∧
      trace.line = ": ".intercalate [command.description, "read", cause.message] :=
  ⟨⟨_, rfl, rfl⟩, ⟨_, rfl, rfl⟩, ⟨_, rfl, rfl⟩⟩

end Command

/-- What the outcome of a command says when it did not end in time: that, if its process group
could be killed and it was waited for, and otherwise what went wrong there. -/
structure ToldLate (command : Command) (limit : Duration) (kill : Kill)
    (reaped : Except Cause Unit) (reply : Except Trace String) : Prop where
  timedOut : (∀ cause, kill ≠ .refused cause) → reaped = .ok () → ∃ trace,
    reply = .error trace ∧ trace.line = command.description ++ " timed out after " ++ limit.text
  notKilled : ∀ cause, kill = .refused cause → ∃ trace, reply = .error trace ∧ trace.line =
    ": ".intercalate [command.description, "kill after timeout", "killpg", cause.message]
  notReaped : ∀ cause, (∀ other, kill ≠ .refused other) → reaped = .error cause → ∃ trace,
    reply = .error trace ∧
      trace.line = ": ".intercalate [command.description, "wait after kill", cause.message]

theorem Command.toldLate_outcomeIn (command : Command) (limit : Duration) (kill : Kill)
    (reaped : Except Cause Unit) :
    ToldLate command limit kill reaped
      (command.outcomeIn limit (.ok (.overran kill reaped))) := by
  refine ⟨?timedOut, ?notKilled, ?notReaped⟩
  case timedOut =>
    rintro killed rfl
    refine ⟨.ofCause (.timedOut command.description limit), ?_, Trace.line_ofCause _⟩
    simp only [outcomeIn, Child.text?, attempt, bind, Except.bind, within,
      Kill.check_of_not_refused killed]
    rfl
  case notKilled =>
    rintro cause rfl
    exact ⟨_, rfl, rfl⟩
  case notReaped =>
    rintro cause killed rfl
    refine ⟨(⟨[.waitAfterKill], cause⟩ : Trace).within (.command command.description), ?_, rfl⟩
    simp only [outcomeIn, Child.text?, attempt, bind, Except.bind, within,
      Kill.check_of_not_refused killed]

/-! ## Agreement -/

namespace Machine

variable {σ : Type u}

/-- Waiting for a command with a limit gives what waiting without one gives, when it ends in time
with the same bytes and the same ending: its whole output as text when it ended well, and
otherwise the way it ended. A command that could not be started is told with one word of
difference, and one that does not end in time is told with the limit, whatever it wrote, once
its process group was killed. -/
theorem invoke_agrees (machine : Machine σ) (template : Command) (limit : Duration) (call : Call)
    (state : σ) (alone watched : Fate)
    (collects : machine.Collects (template.fill call.configuration call.path) state alone)
    (watches : machine.Watches limit (template.fill call.configuration call.path) state watched) :
    let command := template.fill call.configuration call.path
    let untimed := machine.reply? none command state
    let timed := machine.reply? (some limit) command state
    (∀ output ending other another, alone = .ends output ending →
      watched = .ends other another →
      (∃ reply, untimed = some reply ∧ Told command output ending reply) ∧
      (∃ reply, timed = some reply ∧ Told command other another reply) ∧
      (timed = untimed ↔ another = ending ∧
        (ending = .exit 0 → Text.textOfBytes other = Text.textOfBytes output))) ∧
    (∀ cause, watched = .refused cause → ∃ trace, timed = some (.error trace) ∧
      trace.line = ": ".intercalate [command.description, "spawn", cause.message]) ∧
    (∀ cause, alone = .refused cause → ∃ trace, untimed = some (.error trace) ∧
      trace.line = ": ".intercalate [command.description, "output", cause.message]) ∧
    (∀ kill reaped left,
      machine.watchCommand limit command state = some (.ok (.overran kill reaped), left) →
      ∃ reply, timed = some reply ∧ ToldLate command limit kill reaped reply) ∧
    (alone = .lasts → untimed = none) := by
  intro command untimed timed
  have untimed_eq : untimed = (machine.collectCommand command state).map fun seen =>
      command.outcome seen.1 := reply?_none _ _ _
  have timed_eq : timed = (machine.watchCommand limit command state).map fun seen =>
      command.outcomeIn limit seen.1 := reply?_some _ _ _ _
  refine ⟨?ended, ?spawn, ?output, ?late, ?lasting⟩
  case ended =>
    rintro output ending other another rfl rfl
    obtain ⟨left, collected⟩ := collects
    obtain ⟨later, seen⟩ := watches
    rw [collected, Option.map_some] at untimed_eq
    rw [seen, Option.map_some, Command.outcomeIn_ended] at timed_eq
    refine ⟨⟨_, untimed_eq, command.told_outcome output ending⟩,
      ⟨_, timed_eq, command.told_outcome other another⟩, ?_⟩
    rw [untimed_eq, timed_eq, Option.some_inj]
    exact command.outcome_eq_iff output
  case spawn =>
    rintro cause rfl
    obtain ⟨left, seen⟩ := watches
    rw [seen, Option.map_some] at timed_eq
    obtain ⟨⟨trace, failed, line⟩, -⟩ := command.outcome_refused limit cause
    exact ⟨trace, timed_eq.trans (congrArg some failed), line⟩
  case output =>
    rintro cause rfl
    obtain ⟨left, collected⟩ := collects
    rw [collected, Option.map_some] at untimed_eq
    obtain ⟨-, trace, failed, line⟩ := command.outcome_refused limit cause
    exact ⟨trace, untimed_eq.trans (congrArg some failed), line⟩
  case late =>
    intro kill reaped left seen
    rw [seen, Option.map_some] at timed_eq
    exact ⟨_, timed_eq, command.toldLate_outcomeIn limit kill reaped⟩
  case lasting =>
    rintro rfl
    rw [untimed_eq, show machine.collectCommand command state = none from collects,
      Option.map_none]

end Machine

namespace Sample

/-- A machine with an empty working directory, on which nothing was done yet. -/
def idle : Host.Kernel := { tree := Host.standardTree }

/-- Writes a byte that is no text of its own. -/
def latin : Command := ⟨"printf", ["caf\\351"]⟩

/-- Kills its process group and tells if it is still alive. -/
def suicidal : Command := ⟨"sh", ["-c", "kill -9 -$$; echo alive"]⟩

end Sample

/-- The byte is shown in the same way with a limit and without one. -/
theorem invoke_agrees_invalid_byte :
    Host.standard.reply? none Sample.latin Sample.idle = some (.ok "caf\uFFFD") ∧
      Host.standard.reply? (some ⟨60000000000⟩) Sample.latin Sample.idle =
        some (.ok "caf\uFFFD") := by
  have collects : Host.standard.Collects Sample.latin Sample.idle
      (.ends ⟨#[99, 97, 102, 233]⟩ (.exit 0)) :=
    Machine.collects_ends_iff.mpr (by decide +kernel)
  have watches : Host.standard.Watches ⟨60000000000⟩ Sample.latin Sample.idle
      (.ends ⟨#[99, 97, 102, 233]⟩ (.exit 0)) :=
    Machine.watches_ends_iff.mpr (by decide +kernel)
  obtain ⟨ended, -⟩ := Host.standard.invoke_agrees Sample.latin ⟨60000000000⟩ ⟨⟨""⟩, ""⟩
    Sample.idle _ _ collects watches
  obtain ⟨⟨reply, untimed, told⟩, -, agree⟩ := ended _ _ _ _ rfl rfl
  have shown : reply = .ok "caf\uFFFD" :=
    (told.text_iff _).mpr ⟨rfl, Text.textOfBytes_eq_iff.mp (by decide +kernel)⟩
  subst shown
  exact ⟨untimed, (agree.mpr ⟨rfl, fun _ => rfl⟩).trans untimed⟩

/-- Without a limit the command is not in the group that it kills, and goes on; with a limit it
leads that group and dies. -/
theorem group_told_apart :
    Host.standard.reply? none Sample.suicidal Sample.idle = some (.ok "alive\n") ∧
      ∃ trace, Host.standard.reply? (some ⟨30000000000⟩) Sample.suicidal Sample.idle =
        some (.error trace) ∧ trace.cause = .ended (.signal 9) := by
  have collects : Host.standard.Collects Sample.suicidal Sample.idle
      (.ends "alive\n".toUTF8 (.exit 0)) :=
    Machine.collects_ends_iff.mpr (by decide +kernel)
  have watches : Host.standard.Watches ⟨30000000000⟩ Sample.suicidal Sample.idle
      (.ends ByteArray.empty (.signal 9)) :=
    Machine.watches_ends_iff.mpr (by decide +kernel)
  obtain ⟨left, collected⟩ := collects
  obtain ⟨later, watched⟩ := watches
  rw [Machine.reply?_none, Machine.reply?_some, collected, watched, Option.map_some,
    Option.map_some, Command.outcomeIn_ended, Command.outcome_exit_zero,
    Text.textOfBytes_toUTF8, Command.outcome_of_ne _ _ (by decide)]
  exact ⟨rfl, _, rfl, rfl⟩

end PhaseBench
