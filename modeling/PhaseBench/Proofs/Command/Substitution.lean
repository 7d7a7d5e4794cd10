import PhaseBench.Proofs.Text.Replacement

/-!
# Filling in a template

An argument of a template is made of pieces: the two marks, and text without braces.
The label is filled in first and the path afterwards, by a second pass over what the
first one wrote. `fill_opaque_iff` says when this is the same as filling in both at
once.

The stretches of an argument are its parts between the input marks, with the label in
them. The second pass does to each stretch what it would do to the stretch alone
(`replaceFrom_intercalate`), so the label is inserted as it is exactly when no stretch
holds an input mark of its own. A label that is or holds the input mark breaks this,
and so does one whose end and beginning spell the mark across the text between two
labels; a label without one of the braces never does. What the path holds is of no
account, because nothing is filled in after it.
-/

namespace PhaseBench.Command

/-! ## Pieces -/

/-- A part of an argument of a template: a mark, or text without braces. -/
inductive Piece
  | features
  | input
  | literal (text : String) (plain : '\x7b' ∉ text.toList ∧ '\x7d' ∉ text.toList)

/-- A piece as the template has it. -/
def Piece.written : Piece → String
  | .features => featuresMark
  | .input => inputMark
  | .literal text _ => text

/-- A piece with the label or the path in the place of its mark. -/
def Piece.filled (label path : String) : Piece → String
  | .features => label
  | .input => path
  | .literal text _ => text

/-- The argument made of the given pieces. -/
def argumentOf (pieces : List Piece) : String := String.join (pieces.map Piece.written)

/-- The template of a program whose arguments are made of the given pieces. -/
def templateOf (program : String) (arguments : List (List Piece)) : Command :=
  ⟨program, arguments.map argumentOf⟩

/-- The argument with label and path filled in at once. -/
def filledAtOnce (label path : String) (pieces : List Piece) : String :=
  String.join (pieces.map (Piece.filled label path))

/-- The parts of an argument between its input marks, with the label filled in. -/
def stretches (label : String) : List Piece → List (List Char)
  | [] => [[]]
  | .input :: pieces => [] :: stretches label pieces
  | .features :: pieces => (stretches label pieces).modifyHead (label.toList ++ ·)
  | .literal text _ :: pieces => (stretches label pieces).modifyHead (text.toList ++ ·)

theorem toList_argumentOf_cons (piece : Piece) (pieces : List Piece) :
    (argumentOf (piece :: pieces)).toList = piece.written.toList ++ (argumentOf pieces).toList := by
  simp [argumentOf, String.toList_join]

theorem toList_filledAtOnce_cons (label path : String) (piece : Piece) (pieces : List Piece) :
    (filledAtOnce label path (piece :: pieces)).toList =
      (piece.filled label path).toList ++ (filledAtOnce label path pieces).toList := by
  simp [filledAtOnce, String.toList_join]

theorem stretches_ne_nil (label : String) (pieces : List Piece) : stretches label pieces ≠ [] := by
  induction pieces with
  | nil => simp [stretches]
  | cons piece pieces ih => cases piece <;> simp [stretches, ih]

/-- A brace in a stretch comes from the label. -/
theorem notMem_of_mem_stretches {c : Char} {label : String} {pieces : List Piece}
    {stretch : List Char} (brace : c = '\x7b' ∨ c = '\x7d') (absent : c ∉ label.toList)
    (member : stretch ∈ stretches label pieces) : c ∉ stretch := by
  have front (start : List Char) (without : c ∉ start) (rest : List (List Char))
      (all : ∀ stretch ∈ rest, c ∉ stretch) :
      ∀ stretch ∈ rest.modifyHead (start ++ ·), c ∉ stretch := by
    cases rest <;> simp_all
  induction pieces generalizing stretch with
  | nil => simp_all [stretches]
  | cons piece pieces ih =>
      cases piece with
      | features => exact front _ absent _ (fun stretch => ih) stretch member
      | input =>
          rcases List.mem_cons.mp member with rfl | later
          · simp
          · exact ih later
      | literal text plain =>
          have without : c ∉ text.toList := by
            rcases brace with rfl | rfl
            · exact plain.1
            · exact plain.2
          exact front _ without _ (fun stretch => ih) stretch member

/-! ## The two passes -/

theorem intercalate_modifyHead {parts : List (List Char)} (nonempty : parts ≠ [])
    (separator start : List Char) :
    separator.intercalate (parts.modifyHead (start ++ ·)) =
      start ++ separator.intercalate parts := by
  cases parts with
  | nil => exact absurd rfl nonempty
  | cons first rest =>
      cases rest with
      | nil => simp
      | cons second rest => simp [List.intercalate_cons_cons]

theorem toList_filledAtOnce (label path : String) (pieces : List Piece) :
    (filledAtOnce label path pieces).toList =
      path.toList.intercalate (stretches label pieces) := by
  induction pieces with
  | nil => rfl
  | cons piece pieces ih =>
      have some := stretches_ne_nil label pieces
      rw [toList_filledAtOnce_cons, ih]
      cases piece with
      | features => exact (intercalate_modifyHead some path.toList label.toList).symm
      | input =>
          rw [stretches, List.intercalate_cons_of_ne_nil some]
          rfl
      | literal text plain => exact (intercalate_modifyHead some path.toList text.toList).symm

/-- The first pass puts the label where its mark is and touches nothing else. -/
theorem replaceFrom_featuresMark (label : String) (pieces : List Piece) :
    Text.replaceFrom featuresMark.toList label.toList 0 (argumentOf pieces).toList =
      inputMark.toList.intercalate (stretches label pieces) := by
  have mark : featuresMark.toList = '\x7b' :: "features\x7d".toList := rfl
  induction pieces with
  | nil => rfl
  | cons piece pieces ih =>
      have some := stretches_ne_nil label pieces
      rw [toList_argumentOf_cons]
      cases piece with
      | features =>
          rw [Piece.written, Text.replaceFrom_mark (by decide), ih]
          exact (intercalate_modifyHead some _ _).symm
      | input =>
          have other : ¬ featuresMark.toList <+:
              '\x7b' :: ("input\x7d".toList ++ (argumentOf pieces).toList) := by
            rw [mark, List.cons_prefix_cons]
            rintro ⟨-, rest⟩
            exact absurd (List.cons_prefix_cons.mp rest).1 (by decide)
          rw [show Piece.input.written.toList = '\x7b' :: "input\x7d".toList from rfl,
            List.cons_append, Text.replaceFrom_cons other, mark,
            Text.replaceFrom_append_of_notMem (by decide), ← mark, ih, stretches,
            List.intercalate_cons_of_ne_nil some]
          rfl
      | literal text plain =>
          rw [Piece.written, mark, Text.replaceFrom_append_of_notMem plain.1, ← mark, ih]
          exact (intercalate_modifyHead some _ _).symm

/-- The second pass goes through the stretches one by one. -/
theorem replaceFrom_intercalate (path : List Char) (parts : List (List Char)) :
    Text.replaceFrom inputMark.toList path 0 (inputMark.toList.intercalate parts) =
      path.intercalate (parts.map (Text.replaceFrom inputMark.toList path 0)) := by
  have mark : inputMark.toList = '\x7b' :: "input\x7d".toList := rfl
  induction parts with
  | nil => rfl
  | cons first rest ih =>
      cases rest with
      | nil => simp
      | cons second rest =>
          rw [List.intercalate_cons_cons, mark, Text.replaceFrom_append_mark (by decide), ← mark,
            ih]
          simp [List.intercalate_cons_cons]

/-! ## Comparing the passes with one -/

theorem length_intercalate_le (separator : List Char) {parts longer : List (List Char)}
    (shorter : List.Forall₂ (fun a b => a.length ≤ b.length) parts longer) :
    (separator.intercalate parts).length ≤ (separator.intercalate longer).length := by
  induction shorter with
  | nil => exact Nat.le_refl _
  | cons first rest ih =>
      cases rest with
      | nil => simpa using first
      | cons second rest =>
          rw [List.intercalate_cons_cons, List.intercalate_cons_cons]
          simp only [List.length_append]
          omega

/-- Texts put together from shorter parts are the same only when the parts are. -/
theorem eq_of_intercalate_eq {separator : List Char} {parts longer : List (List Char)}
    (shorter : List.Forall₂ (fun a b => a.length ≤ b.length) parts longer)
    (same : separator.intercalate parts = separator.intercalate longer) : parts = longer := by
  induction shorter with
  | nil => rfl
  | cons first rest ih =>
      cases rest with
      | nil => simpa using same
      | cons second rest =>
          have tails := length_intercalate_le separator (List.Forall₂.cons second rest)
          rw [List.intercalate_cons_cons, List.intercalate_cons_cons, List.append_assoc,
            List.append_assoc] at same
          have lengths := congrArg List.length same
          simp only [List.length_append] at lengths
          obtain ⟨heads, others⟩ := List.append_inj same (by omega)
          rw [heads, ih (List.append_inj others rfl).2]

/-- The second pass makes no difference to the argument exactly when it makes none to each
stretch: all stretches that it changes become shorter, or all become longer. -/
theorem intercalate_replaceFrom_eq_iff (path : List Char) (parts : List (List Char)) :
    path.intercalate (parts.map (Text.replaceFrom inputMark.toList path 0)) =
        path.intercalate parts ↔
      ∀ part ∈ parts, Text.replaceFrom inputMark.toList path 0 part = part := by
  have nonempty : inputMark.toList ≠ [] := by decide
  have each : parts.map (Text.replaceFrom inputMark.toList path 0) = parts ↔
      ∀ part ∈ parts, Text.replaceFrom inputMark.toList path 0 part = part := by
    conv_lhs => rhs; rw [← List.map_id parts]
    exact List.map_inj_left
  rw [← each]
  constructor
  · intro same
    rcases Nat.le_total path.length inputMark.toList.length with shorter | longer
    · apply eq_of_intercalate_eq _ same
      rw [List.forall₂_map_left_iff, List.forall₂_same]
      exact fun part _ => Text.length_replaceFrom_le nonempty shorter part
    · symm
      apply eq_of_intercalate_eq _ same.symm
      rw [List.forall₂_map_right_iff, List.forall₂_same]
      exact fun part _ => Text.le_length_replaceFrom nonempty longer part
  · intro same
    rw [same]

/-- When the label of an argument is inserted as it is. -/
theorem fillArgument_eq_filledAtOnce_iff (configuration : Configuration) (path : String)
    (pieces : List Piece) :
    fillArgument configuration path (argumentOf pieces) =
        filledAtOnce configuration.label path pieces ↔
      path = inputMark ∨
        ∀ stretch ∈ stretches configuration.label pieces, ¬ inputMark.toList <:+: stretch := by
  have nonempty : inputMark.toList ≠ [] := by decide
  rw [← String.toList_inj, fillArgument, Text.replaceAll, Text.replaceAll, String.toList_ofList,
    String.toList_ofList, replaceFrom_featuresMark, replaceFrom_intercalate, toList_filledAtOnce,
    intercalate_replaceFrom_eq_iff]
  simp only [Text.replaceFrom_eq_self_iff nonempty, String.toList_inj]
  by_cases same : path = inputMark <;> simp [same]

/-- A label without an opening brace, or without a closing one, spells no mark. -/
theorem no_inputMark_of_mem_stretches {label : String} {pieces : List Piece}
    {stretch : List Char} (lacking : '\x7b' ∉ label.toList ∨ '\x7d' ∉ label.toList)
    (member : stretch ∈ stretches label pieces) : ¬ inputMark.toList <:+: stretch := by
  intro occurs
  rcases lacking with absent | absent
  · exact notMem_of_mem_stretches (.inl rfl) absent member (occurs.subset (by decide))
  · exact notMem_of_mem_stretches (.inr rfl) absent member (occurs.subset (by decide))

/-- The command of a run has the program and the number of arguments of its template. An
argument has label and path in the place of their marks, both as they are, exactly when no
stretch of it holds an input mark, or the path is that mark; so it is with every label that
lacks one of the braces. -/
theorem fill_opaque_iff (program : String) (arguments : List (List Piece))
    (configuration : Configuration) (path : String) :
    ((templateOf program arguments).fill configuration path).program = program ∧
    ((templateOf program arguments).fill configuration path).arguments.length =
      arguments.length ∧
    (∀ (index : Nat) (pieces : List Piece), arguments[index]? = some pieces →
      (((templateOf program arguments).fill configuration path).arguments[index]? =
          some (filledAtOnce configuration.label path pieces) ↔
        path = inputMark ∨
          ∀ stretch ∈ stretches configuration.label pieces, ¬ inputMark.toList <:+: stretch)) ∧
    ('\x7b' ∉ configuration.label.toList ∨ '\x7d' ∉ configuration.label.toList →
      (templateOf program arguments).fill configuration path =
        ⟨program, arguments.map (filledAtOnce configuration.label path)⟩) := by
  refine ⟨rfl, by simp [fill, templateOf], ?_, ?_⟩
  · intro index pieces there
    rw [← fillArgument_eq_filledAtOnce_iff]
    simp [fill, templateOf, there]
  · intro lacking
    simp only [fill, templateOf, List.map_map, Command.mk.injEq, true_and]
    apply List.map_congr_left
    intro pieces _
    exact (fillArgument_eq_filledAtOnce_iff configuration path pieces).mpr
      (.inr fun stretch member => no_inputMark_of_mem_stretches lacking member)

/-- A label that is the input mark is filled in a second time: the path stands where the
label should. -/
theorem label_filled_in_twice :
    (templateOf "echo" [[.features]]).fill ⟨"\x7binput\x7d"⟩ "a" = ⟨"echo", ["a"]⟩ ∧
      filledAtOnce "\x7binput\x7d" "a" [.features] = "\x7binput\x7d" := by
  decide +kernel

/-- Two labels spell the mark across the text between them. -/
example : fillArgument ⟨"\x7d\x7binp"⟩ "a"
    (argumentOf [.features, .literal "ut" (by decide), .features]) = "\x7da\x7binp" := by
  decide +kernel

end PhaseBench.Command
