import PhaseBench.Proofs.Campaign.Acceptance
import PhaseBench.Session

/-!
# Settings that can be run

A session begins with a check of its settings. `Settings.Startable` says which settings pass it,
and `Settings.Startable.plan` and `template` are the campaign and the command that they give
(`prepare_eq`, `startable_of_prepare`).
-/

namespace PhaseBench

namespace Text

theorem wordsStep_eq (c : Char) (inWord : Bool) (words : List (List Char)) :
    wordsStep c (inWord, words) = if isBlank c then (false, words)
      else match inWord, words with
        | true, word :: rest => (true, (c :: word) :: rest)
        | _, words => (true, [c] :: words) := rfl

theorem wordsStep_of_blank {c : Char} (blank : isBlank c = true)
    (words : Bool × List (List Char)) : (wordsStep c words).2 = words.2 := by
  obtain ⟨inWord, words⟩ := words
  rw [wordsStep_eq, if_pos blank]

theorem wordsStep_ne_nil {c : Char} (visible : isBlank c = false)
    (words : Bool × List (List Char)) : (wordsStep c words).2 ≠ [] := by
  obtain ⟨inWord, words⟩ := words
  rw [wordsStep_eq, visible, if_neg Bool.false_ne_true]
  split <;> simp

theorem wordsOf_eq_nil_iff {cs : List Char} :
    wordsOf cs = [] ↔ ∀ c ∈ cs, isBlank c = true := by
  unfold wordsOf
  induction cs with
  | nil => simp
  | cons c cs ih =>
      rw [List.foldr_cons, List.forall_mem_cons, ← ih]
      cases blank : isBlank c with
      | true => rw [wordsStep_of_blank blank, eq_self, true_and]
      | false =>
          simp only [wordsStep_ne_nil blank, Bool.false_eq_true, false_and]

end Text

theorem Command.ofWords_of_ne_nil {words : List String} (nonempty : words ≠ []) :
    ofWords words = .ok ⟨words.head nonempty, words.tail⟩ := by
  cases words with
  | nil => exact absurd rfl nonempty
  | cons program arguments => rfl

/-- Settings that a campaign can be made of. -/
structure Settings.Startable (settings : Settings) (tree : Tree) : Prop where
  directory : tree.isDirectory settings.dir = true
  /-- A command that is given is not blank. -/
  worded : ∀ command, settings.command = some command →
    ∃ c ∈ command.toList, Text.isBlank c = false
  runs_pos : 0 < settings.runs
  distinct : settings.configurations.Nodup

theorem Machine.commandWords_ne_nil_iff {settings : Settings} :
    commandWords settings ≠ [] ↔ ∀ command, settings.command = some command →
      ∃ c ∈ command.toList, Text.isBlank c = false := by
  unfold commandWords
  split
  · next command given => simp [given, Text.splitBlank, Text.wordsOf_eq_nil_iff]
  · next absent => simp [absent, Command.standardTemplate]

namespace Settings.Startable

variable {settings : Settings} {tree : Tree}

theorem commandWords_ne_nil (startable : settings.Startable tree) :
    Machine.commandWords settings ≠ [] :=
  Machine.commandWords_ne_nil_iff.mpr startable.worded

/-- The command that is benchmarked. -/
def template (startable : settings.Startable tree) : Command where
  program := (Machine.commandWords settings).head startable.commandWords_ne_nil
  arguments := (Machine.commandWords settings).tail

/-- The campaign that is run. -/
def plan (startable : settings.Startable tree) : Plan where
  configurations := settings.configurations
  dir := settings.dir
  runs := settings.runs
  policy := settings.onFailure
  distinct := startable.distinct
  runs_pos := startable.runs_pos

theorem make_plan (startable : settings.Startable tree) :
    Plan.make settings.configurations settings.dir settings.runs settings.onFailure =
      .ok startable.plan :=
  Plan.make_eq_ok_iff.mpr ⟨startable.runs_pos, startable.distinct, rfl, rfl, rfl, rfl⟩

theorem prepare_eq (startable : settings.Startable tree) :
    Machine.prepare tree settings = .ok (startable.template, startable.plan) := by
  simp only [Machine.prepare, startable.directory,
    Command.ofWords_of_ne_nil startable.commandWords_ne_nil, startable.make_plan]
  rfl

end Settings.Startable

theorem Settings.startable_of_prepare {settings : Settings} {tree : Tree}
    {prepared : Command × Plan} (ready : Machine.prepare tree settings = .ok prepared) :
    settings.Startable tree := by
  unfold Machine.prepare at ready
  cases directory : tree.isDirectory settings.dir with
  | false =>
      rw [directory] at ready
      cases ready
  | true =>
      cases words : Machine.commandWords settings with
      | nil =>
          rw [directory, words] at ready
          cases ready
      | cons program arguments =>
          cases made : Plan.make settings.configurations settings.dir settings.runs
              settings.onFailure with
          | error cause =>
              rw [directory, words, made] at ready
              cases ready
          | ok plan =>
              obtain ⟨runs_pos, distinct, -⟩ := Plan.make_eq_ok_iff.mp made
              have worded := Machine.commandWords_ne_nil_iff.mp (words ▸ List.cons_ne_nil _ _)
              exact ⟨directory, worded, runs_pos, distinct⟩

end PhaseBench
