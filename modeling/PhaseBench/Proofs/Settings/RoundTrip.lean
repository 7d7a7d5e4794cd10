import PhaseBench.Proofs.Text.Numeral
import PhaseBench.Settings.Parser

/-!
# Settings written and read

A setting is written as one argument, its name and its value (`Given.argument`). A
command line spells settings when each is written once, those with their standard
value may be left out, and the features stand in their own order (`Spells`); nothing
else is asked of the order of the arguments.

Reading an argument gives its value to the draft (`step_argument`), whatever
characters the value holds. What was given to the draft and what is still to be read
make up the settings all along (`Completes.give`), so at the end the draft is the
settings (`parse_spelled`).
-/

namespace PhaseBench

/-- The name of a policy on the command line. -/
def FailurePolicy.name : FailurePolicy → String
  | .abort => "abort"
  | .zero => "zero"

namespace Settings

/-! ## Arguments -/

/-- The long name of an option that takes a value. -/
def Key.name : Key → String
  | .dir => "dir"
  | .features => "features"
  | .runs => "runs"
  | .command => "command"
  | .timeout => "timeout"
  | .onFailure => "on-failure"
  | .svgDir => "svg-dir"

/-- The long name of an option that takes none. -/
def Switch.name : Switch → String
  | .svg => "svg"
  | .noWait => "no-wait"
  | .help => "help"

theorem longName?_key (key : Key) : longName? key.name = some (.inl key) := by
  cases key <;> rfl

theorem longName?_switch (switch : Switch) : longName? switch.name = some (.inr switch) := by
  cases switch <;> rfl

theorem equals_notMem_key (key : Key) : '=' ∉ key.name.toList := by
  cases key <;> decide

theorem equals_notMem_switch (switch : Switch) : '=' ∉ switch.name.toList := by
  cases switch <;> decide

/-- A setting as it is given on the command line. -/
inductive Given
  | value (key : Key) (text : String)
  | on (switch : Switch)
deriving DecidableEq

/-- The argument that gives a setting. -/
def Given.argument : Given → String
  | .value key text => "--" ++ key.name ++ "=" ++ text
  | .on switch => "--" ++ switch.name

theorem splitEquals_append {name : List Char} (plain : '=' ∉ name) (value : List Char) :
    splitEquals (name ++ '=' :: value) = (name, some value) := by
  have names : ∀ c ∈ name, (c != '=') = true := by
    intro c member
    simp only [bne_iff_ne, ne_eq]
    rintro rfl
    exact plain member
  unfold splitEquals
  rw [List.dropWhile_append_of_pos names, List.takeWhile_append_of_pos names]
  simp

theorem splitEquals_of_notMem {name : List Char} (plain : '=' ∉ name) :
    splitEquals name = (name, none) := by
  have none_left : name.dropWhile (· != '=') = [] := by
    rw [List.dropWhile_eq_nil_iff]
    intro c member
    simp only [bne_iff_ne, ne_eq]
    rintro rfl
    exact plain member
  unfold splitEquals
  rw [none_left]

theorem ofText_long {argument : String} {rest : List Char} (nonempty : rest ≠ [])
    (chars : argument.toList = '-' :: '-' :: rest) :
    Argument.ofText argument =
      .long (String.ofList (splitEquals rest).1) ((splitEquals rest).2.map String.ofList) := by
  cases rest with
  | nil => exact absurd rfl nonempty
  | cons c rest =>
      unfold Argument.ofText
      rw [chars]
      rfl

/-- The value of an option is everything behind the first equals sign. -/
theorem ofText_value (key : Key) (text : String) :
    Argument.ofText (Given.value key text).argument = .long key.name (some text) := by
  have chars : (Given.value key text).argument.toList =
      '-' :: '-' :: (key.name.toList ++ '=' :: text.toList) := by
    simp [Given.argument]
  rw [ofText_long (by simp) chars, splitEquals_append (equals_notMem_key key)]
  simp

theorem ofText_on (switch : Switch) :
    Argument.ofText (Given.on switch).argument = .long switch.name none := by
  have chars : (Given.on switch).argument.toList = '-' :: '-' :: switch.name.toList := by
    simp [Given.argument]
  have nonempty : switch.name.toList ≠ [] := by cases switch <;> decide
  rw [ofText_long nonempty chars, splitEquals_of_notMem (equals_notMem_switch switch)]
  simp

theorem argument_ne_terminator (given : Given) : given.argument ≠ "--" := by
  intro same
  have terminator : Argument.ofText given.argument = .terminator := by
    rw [same]
    decide
  cases given with
  | value key text =>
      rw [ofText_value] at terminator
      cases terminator
  | on switch =>
      rw [ofText_on] at terminator
      cases terminator

/-! ## Reading arguments -/

/-- Takes over a setting that is given. -/
def Draft.give (draft : Draft) : Given → Except UsageError Draft
  | .value key text => draft.assign key text
  | .on switch => draft.turnOn switch

/-- Reading an argument takes over its setting and leaves nothing pending. -/
theorem step_argument (draft : Draft) (given : Given) :
    draft.step none given.argument = (draft.give given).map fun draft => (draft, none) := by
  unfold Draft.step
  cases given with
  | value key text =>
      simp only [ofText_value, longName?_key]
      show (draft.assign key text).bind _ = (draft.assign key text).map _
      cases draft.assign key text <;> rfl
  | on switch =>
      simp only [ofText_on, longName?_switch]
      show (draft.turnOn switch).bind _ = (draft.turnOn switch).map _
      cases draft.turnOn switch <;> rfl

theorem readOptions_cons {draft next : Draft} {given : Given}
    (taken : draft.give given = .ok next) (rest : List String) :
    readOptions draft none (given.argument :: rest) = readOptions next none rest := by
  rw [readOptions, if_neg (argument_ne_terminator given), step_argument, taken]
  rfl

/-! ## Command lines that spell settings -/

/-- The texts that are given for an option. -/
def values (key : Key) (line : List Given) : List String :=
  line.filterMap fun given =>
    match given with
    | .value other text => if other = key then some text else none
    | .on _ => none

/-- The texts of a setting, each of which is given by an argument of its own: one for each
feature, one for a number, a policy or a directory, none for an option that is not set. -/
def texts (settings : Settings) : Key → List String
  | .dir => [settings.dir]
  | .features => settings.features
  | .runs => [Text.decimal settings.runs]
  | .command => settings.command.toList
  | .timeout => (settings.timeout.map Text.decimal).toList
  | .onFailure => [settings.onFailure.name]
  | .svgDir => settings.svgDir.toList

/-- The switches that are on. Help is no setting. -/
def isOn (settings : Settings) : Switch → Bool
  | .svg => settings.svg
  | .noWait => settings.noWait
  | .help => false

/-- Settings whose values can be given: paths are not empty and numbers fit in 64 bits. -/
structure Writable (settings : Settings) : Prop where
  dir_ne : settings.dir ≠ ""
  svgDir_ne : settings.svgDir ≠ some ""
  runs_lt : settings.runs < 2 ^ 64
  timeout_lt : ∀ seconds, settings.timeout = some seconds → seconds < 2 ^ 64

/-- A command line that spells settings: it gives the texts of every setting in their order,
except that a setting with its standard value may be left out, and it turns on exactly the
switches that are on, each once. -/
structure Spells (line : List Given) (settings : Settings) : Prop where
  values_eq : ∀ key, values key line = settings.texts key ∨
    values key line = [] ∧ settings.texts key = texts {} key
  switches : ∀ switch, line.count (.on switch) = if settings.isOn switch then 1 else 0

/-! ## What a draft holds -/

/-- The texts that were given to a draft. -/
def Draft.texts (draft : Draft) : Key → List String
  | .dir => draft.dir.toList
  | .features => draft.features
  | .runs => (draft.runs.map Text.decimal).toList
  | .command => draft.command.toList
  | .timeout => (draft.timeout.map Text.decimal).toList
  | .onFailure => (draft.onFailure.map FailurePolicy.name).toList
  | .svgDir => draft.svgDir.toList

/-- The switches that were turned on in a draft. -/
def Draft.isOn (draft : Draft) : Switch → Bool
  | .svg => draft.svg
  | .noWait => draft.noWait
  | .help => false

/-- What was given to a draft and the rest of a command line spell settings together. -/
structure Completes (draft : Draft) (rest : List Given) (settings : Settings) : Prop where
  values_eq : ∀ key, draft.texts key ++ values key rest = settings.texts key ∨
    draft.texts key ++ values key rest = [] ∧ settings.texts key = texts {} key
  switches : ∀ switch, (if draft.isOn switch then 1 else 0) + rest.count (.on switch) =
    if settings.isOn switch then 1 else 0

variable {draft : Draft} {line rest : List Given} {settings : Settings}

theorem Spells.completes (spelled : Spells line settings) : Completes {} line settings := by
  refine ⟨?_, ?_⟩
  · intro key
    have empty : Draft.texts {} key = [] := by cases key <;> rfl
    rw [empty, List.nil_append]
    exact spelled.values_eq key
  · intro switch
    have off : Draft.isOn {} switch = false := by cases switch <;> rfl
    rw [off, if_neg Bool.false_ne_true, Nat.zero_add]
    exact spelled.switches switch

theorem decimal_injective : Function.Injective Text.decimal := by
  intro m n same
  have digits : Nat.toDigits 10 m = Nat.toDigits 10 n := by
    simpa [Text.decimal] using congrArg String.toList same
  rw [← Nat.ofDigitChars_ten_toDigits (n := m), digits, Nat.ofDigitChars_ten_toDigits]

theorem number_decimal {n : Nat} (word : n < 2 ^ 64) : number (Text.decimal n) = .ok n := by
  have digits : ∀ c ∈ Nat.toDigits 10 n, c.isDigit := fun c member =>
    isDigit_of_mem_toDigits member
  have value := decimalValue?_toDigits n
  have small : n < Word.count := word
  unfold number
  rw [Text.decimal, String.toList_ofList]
  rcases numeral : Nat.toDigits 10 n with _ | ⟨c, cs⟩
  · exact absurd numeral Nat.toDigits_ne_nil
  · rw [numeral] at digits value
    have unsigned : c ≠ '+' := by
      rintro rfl
      exact absurd (digits '+' List.mem_cons_self) (by decide)
    simp [unsigned, value, small]

theorem policy_name (onFailure : FailurePolicy) : policy onFailure.name = .ok onFailure := by
  cases onFailure <;> rfl

/-- An option that is set once was not given before, and its text is the one that is set. -/
theorem eq_of_append_eq_toList (only : Option String) {before later : List String} {text : String}
    (whole : before ++ text :: later = only.toList) : before = [] ∧ only = some text := by
  cases only with
  | none => simp at whole
  | some one =>
      cases before with
      | nil =>
          obtain ⟨rfl, -⟩ : text = one ∧ later = [] := by simpa using whole
          exact ⟨rfl, rfl⟩
      | cons first before => simp at whole

/-- What it is for a draft to be the one before with a text more. -/
structure Draft.Extends (draft next : Draft) (key : Key) (text : String) : Prop where
  texts_eq : ∀ other, next.texts other = draft.texts other ++ if other = key then [text] else []
  isOn_eq : ∀ switch, next.isOn switch = draft.isOn switch

/-- A text of the settings can be given to a draft that has not got it yet. -/
theorem exists_assign (writable : settings.Writable) {key : Key} {text : String}
    {later : List String} (whole : draft.texts key ++ text :: later = settings.texts key) :
    ∃ next, draft.assign key text = .ok next ∧ draft.Extends next key text := by
  cases key with
  | dir =>
      obtain ⟨fresh, same⟩ := eq_of_append_eq_toList (some settings.dir) whole
      obtain rfl : settings.dir = text := by simpa using same
      have fresh : draft.dir = none := by simpa [Draft.texts] using fresh
      refine ⟨{ draft with dir := some settings.dir }, ?_, ?_, ?_⟩
      · simp [Draft.assign, once, fresh, path, writable.dir_ne, Except.map]
      · rintro ⟨⟩ <;> simp [Draft.texts, fresh]
      · rintro ⟨⟩ <;> rfl
  | features =>
      refine ⟨{ draft with features := draft.features ++ [text] }, rfl, ?_, ?_⟩
      · rintro ⟨⟩ <;> simp [Draft.texts]
      · rintro ⟨⟩ <;> rfl
  | runs =>
      obtain ⟨fresh, same⟩ := eq_of_append_eq_toList (some (Text.decimal settings.runs)) whole
      obtain rfl : Text.decimal settings.runs = text := by simpa using same
      have fresh : draft.runs = none := by simpa [Draft.texts] using fresh
      refine ⟨{ draft with runs := some settings.runs }, ?_, ?_, ?_⟩
      · simp [Draft.assign, once, fresh, number_decimal writable.runs_lt, Except.map]
      · rintro ⟨⟩ <;> simp [Draft.texts, fresh]
      · rintro ⟨⟩ <;> rfl
  | command =>
      obtain ⟨fresh, -⟩ := eq_of_append_eq_toList settings.command whole
      have fresh : draft.command = none := by simpa [Draft.texts] using fresh
      refine ⟨{ draft with command := some text }, ?_, ?_, ?_⟩
      · simp [Draft.assign, once, fresh, Except.map]
      · rintro ⟨⟩ <;> simp [Draft.texts, fresh]
      · rintro ⟨⟩ <;> rfl
  | timeout =>
      obtain ⟨fresh, same⟩ :=
        eq_of_append_eq_toList (settings.timeout.map Text.decimal) whole
      obtain ⟨seconds, given, rfl⟩ := Option.map_eq_some_iff.mp same
      have fresh : draft.timeout = none := by simpa [Draft.texts] using fresh
      refine ⟨{ draft with timeout := some seconds }, ?_, ?_, ?_⟩
      · simp [Draft.assign, once, fresh, number_decimal (writable.timeout_lt seconds given),
          Except.map]
      · rintro ⟨⟩ <;> simp [Draft.texts, fresh]
      · rintro ⟨⟩ <;> rfl
  | onFailure =>
      obtain ⟨fresh, same⟩ := eq_of_append_eq_toList (some settings.onFailure.name) whole
      obtain rfl : settings.onFailure.name = text := by simpa using same
      have fresh : draft.onFailure = none := by simpa [Draft.texts] using fresh
      refine ⟨{ draft with onFailure := some settings.onFailure }, ?_, ?_, ?_⟩
      · simp [Draft.assign, once, fresh, policy_name, Except.map]
      · rintro ⟨⟩ <;> simp [Draft.texts, fresh]
      · rintro ⟨⟩ <;> rfl
  | svgDir =>
      obtain ⟨fresh, same⟩ := eq_of_append_eq_toList settings.svgDir whole
      have fresh : draft.svgDir = none := by simpa [Draft.texts] using fresh
      have nonempty : text ≠ "" := fun empty => writable.svgDir_ne (empty ▸ same)
      refine ⟨{ draft with svgDir := some text }, ?_, ?_, ?_⟩
      · simp [Draft.assign, once, fresh, path, nonempty, Except.map]
      · rintro ⟨⟩ <;> simp [Draft.texts, fresh]
      · rintro ⟨⟩ <;> rfl

/-- A switch of the settings can be turned on in a draft where it is off. -/
theorem exists_turnOn {switch : Switch} (off : draft.isOn switch = false)
    (on : settings.isOn switch = true) :
    ∃ next, draft.turnOn switch = .ok next ∧ (∀ key, next.texts key = draft.texts key) ∧
      ∀ other, next.isOn other = if other = switch then true else draft.isOn other := by
  cases switch with
  | svg =>
      have off : draft.svg = false := off
      refine ⟨{ draft with svg := true }, ?_, ?_, ?_⟩
      · simp [Draft.turnOn, off]
      · rintro ⟨⟩ <;> rfl
      · rintro ⟨⟩ <;> rfl
  | noWait =>
      have off : draft.noWait = false := off
      refine ⟨{ draft with noWait := true }, ?_, ?_, ?_⟩
      · simp [Draft.turnOn, off]
      · rintro ⟨⟩ <;> rfl
      · rintro ⟨⟩ <;> rfl
  | help => cases on

/-! ## The whole command line -/

theorem values_cons_value (key other : Key) (text : String) (rest : List Given) :
    values other (.value key text :: rest) =
      (if other = key then [text] else []) ++ values other rest := by
  by_cases same : key = other
  · subst same
    simp [values]
  · simp [values, same, Ne.symm same]

/-- Every argument is taken over, and the draft and the remaining arguments still make up the
settings. -/
theorem Completes.give (writable : settings.Writable) {given : Given}
    (completes : Completes draft (given :: rest) settings) :
    ∃ next, draft.give given = .ok next ∧ Completes next rest settings := by
  obtain ⟨values_eq, switches⟩ := completes
  cases given with
  | value key text =>
      have whole : draft.texts key ++ text :: values key rest = settings.texts key := by
        have here := values_eq key
        rw [values_cons_value, if_pos rfl, List.singleton_append] at here
        simpa using here
      obtain ⟨next, assigned, extended⟩ := exists_assign writable whole
      refine ⟨next, assigned, ?_, ?_⟩
      · intro other
        rw [extended.texts_eq, List.append_assoc, ← values_cons_value]
        exact values_eq other
      · intro switch
        rw [extended.isOn_eq]
        simpa using switches switch
  | on switch =>
      have count := switches switch
      rw [List.count_cons_self] at count
      have off : draft.isOn switch = false := by
        by_contra on
        rw [Bool.not_eq_false] at on
        rw [if_pos on] at count
        split at count <;> omega
      have on : settings.isOn switch = true := by
        by_contra off
        rw [if_neg off] at count
        omega
      obtain ⟨next, turned, sameTexts, switched⟩ := exists_turnOn off on
      refine ⟨next, turned, ?_, ?_⟩
      · intro key
        rw [sameTexts]
        exact values_eq key
      · intro other
        rw [switched]
        have before := switches other
        by_cases same : other = switch
        · subst same
          rw [off, if_neg Bool.false_ne_true, List.count_cons_self] at before
          rw [if_pos rfl, if_pos rfl]
          omega
        · have others : (Given.on switch :: rest).count (.on other) = rest.count (.on other) := by
            simp [Ne.symm same]
          rw [if_neg same, ← others]
          exact before

section

variable {α : Type} {f : α → String} {given : Option α}

/-- An option that may be left out at its standard value. -/
theorem getD_eq_of_toList (injective : Function.Injective f) {value standard : α}
    (spelled : (given.map f).toList = [f value] ∨
      (given.map f).toList = [] ∧ [f value] = [f standard]) :
    given.getD standard = value := by
  cases given with
  | none =>
      have same : f value = f standard := by simpa using spelled
      exact (injective same).symm
  | some other =>
      have same : f other = f value := by simpa using spelled
      exact injective same

/-- An option without a standard value. -/
theorem eq_of_toList (injective : Function.Injective f) {value : Option α}
    (spelled : (given.map f).toList = (value.map f).toList ∨
      (given.map f).toList = [] ∧ (value.map f).toList = []) : given = value := by
  cases given with
  | none =>
      cases value with
      | none => rfl
      | some value => simp at spelled
  | some other =>
      cases value with
      | none => simp at spelled
      | some value =>
          have same : f other = f value := by simpa using spelled
          rw [injective same]

end

theorem name_injective : Function.Injective FailurePolicy.name := by
  rintro ⟨⟩ ⟨⟩ same <;> first | rfl | exact absurd same (by decide)

/-- A draft that makes up the settings alone is completed to them by the standard values. -/
theorem Completes.settings_eq (completes : Completes draft [] settings) :
    draft.settings = settings := by
  have spelled : ∀ key, draft.texts key = settings.texts key ∨
      draft.texts key = [] ∧ settings.texts key = texts {} key := by
    intro key
    simpa [values] using completes.values_eq key
  have switches : ∀ switch, draft.isOn switch = settings.isOn switch := by
    intro switch
    have count := completes.switches switch
    rw [List.count_nil, Nat.add_zero] at count
    cases off : draft.isOn switch <;> cases on : settings.isOn switch <;>
      simp [off, on] at count ⊢
  have dir : draft.dir.getD Plan.standardDir = settings.dir :=
    getD_eq_of_toList Function.injective_id (by rw [Option.map_id]; exact spelled .dir)
  have features : draft.features = settings.features := by
    rcases spelled .features with same | ⟨left, right⟩
    · exact same
    · exact left.trans right.symm
  have runs : draft.runs.getD Plan.standardRuns = settings.runs :=
    getD_eq_of_toList decimal_injective (spelled .runs)
  have command : draft.command = settings.command :=
    eq_of_toList Function.injective_id (by simp only [Option.map_id]; exact spelled .command)
  have timeout : draft.timeout = settings.timeout :=
    eq_of_toList decimal_injective (spelled .timeout)
  have onFailure : draft.onFailure.getD .abort = settings.onFailure :=
    getD_eq_of_toList name_injective (spelled .onFailure)
  have svgDir : draft.svgDir = settings.svgDir :=
    eq_of_toList Function.injective_id (by simp only [Option.map_id]; exact spelled .svgDir)
  have svg : draft.svg = settings.svg := switches .svg
  have noWait : draft.noWait = settings.noWait := switches .noWait
  rw [Draft.settings, dir, features, runs, command, timeout, onFailure, svg, svgDir, noWait]

/-- A command line that spells settings is read as these settings. -/
theorem readOptions_of_completes (writable : settings.Writable)
    (completes : Completes draft rest settings) :
    (readOptions draft none (rest.map Given.argument)).map Draft.settings = .ok settings := by
  induction rest generalizing draft with
  | nil => exact congrArg Except.ok completes.settings_eq
  | cons given rest ih =>
      obtain ⟨next, taken, onward⟩ := completes.give writable
      rw [List.map_cons, readOptions_cons taken]
      exact ih onward

theorem mem_values {key : Key} {text : String} :
    text ∈ values key line ↔ .value key text ∈ line := by
  unfold values
  rw [List.mem_filterMap]
  constructor
  · rintro ⟨given, member, found⟩
    cases given with
    | value other given =>
        obtain ⟨rfl, rfl⟩ : other = key ∧ given = text := by simpa using found
        exact member
    | on switch => cases found
  · intro member
    exact ⟨.value key text, member, by simp⟩

theorem Spells.features_eq (spelled : Spells line settings) :
    values .features line = settings.features := by
  rcases spelled.values_eq .features with same | ⟨left, right⟩
  · exact same
  · exact left.trans right.symm

/-- A command line that spells settings, in whatever order, is read as exactly these settings.
The configurations are the features that it gives, in their order, and the standard ones when it
gives none; an empty feature text counts as given. -/
theorem parse_spelled (settings : Settings) (line : List Given) (writable : settings.Writable)
    (spelled : Spells line settings) :
    parse ("bench" :: line.map Given.argument) = .ok settings ∧
    ((∀ text, .value .features text ∉ line) →
      settings.configurations = Plan.standardConfigurations) ∧
    ((∃ text, .value .features text ∈ line) →
      settings.configurations.map (·.label) = values .features line) := by
  refine ⟨readOptions_of_completes writable spelled.completes, ?_, ?_⟩
  · intro absent
    have none_given : settings.features = [] := by
      rw [← spelled.features_eq, List.eq_nil_iff_forall_not_mem]
      intro text member
      exact absent text (mem_values.mp member)
    rw [configurations, none_given]
    rfl
  · rintro ⟨text, present⟩
    have some_given : settings.features.isEmpty = false := by
      rw [← spelled.features_eq, List.isEmpty_eq_false_iff]
      exact List.ne_nil_of_mem (mem_values.mpr present)
    rw [configurations, some_given, spelled.features_eq]
    simp [Function.comp_def]

/-- Features with an empty text, with commas, spaces, equals signs and a dash in front stand
among other settings; the limit is the greatest number, and the policy is left out. -/
theorem parse_spelled_hostile :
    let settings : Settings :=
      { dir := "--dir", features := ["", "-a=b, c", ""], command := some "",
        timeout := some 18446744073709551615, svgDir := some "=", noWait := true }
    let arguments := ["--features=", "--svg-dir==", "--no-wait", "--features=-a=b, c",
      "--timeout=18446744073709551615", "--runs=10", "--command=", "--dir=--dir", "--features="]
    parse ("bench" :: arguments) = .ok settings ∧
      settings.configurations.map (·.label) = ["", "-a=b, c", ""] := by
  intro settings arguments
  have writable : settings.Writable :=
    ⟨by decide, by decide, by decide, by rintro seconds ⟨⟩; decide⟩
  let line : List Given := [.value .features "", .value .svgDir "=", .on .noWait,
    .value .features "-a=b, c", .value .timeout "18446744073709551615", .value .runs "10",
    .value .command "", .value .dir "--dir", .value .features ""]
  have spelled : Spells line settings := by
    refine ⟨?_, ?_⟩
    · rintro ⟨⟩ <;> decide
    · rintro ⟨⟩ <;> decide
  have whole := parse_spelled settings line writable spelled
  have written : line.map Given.argument = arguments := by decide +kernel
  rw [written] at whole
  exact ⟨whole.1, whole.2.2 ⟨"", List.mem_cons_self⟩⟩

end Settings

end PhaseBench
