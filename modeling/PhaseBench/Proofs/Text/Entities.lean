import Mathlib
import PhaseBench.Text.Entity

/-!
# Entities read back

Writing entities one after the other over the whole text is the same as writing every
character once (`toList_escapeEntities`): the ampersands that entities bring in come after
the step that replaces ampersands. Of the characters of the markup what is written has only
ampersands (`eq_ampersand_of_mem_escapeEntities`), each of them the beginning of an entity
(`entityName_of_suffix`), and reading the entities from left to right gives the text back
(`unescapeEntities_escapeEntities`).
-/

namespace PhaseBench.Text

/-- Holds for the characters that are written as entities. -/
def isMarkup (c : Char) : Bool := (entities.lookup c).isSome

/-- A text without any character that is written as an entity. -/
def Plain (text : String) : Prop := ∀ c ∈ text.toList, isMarkup c = false

/-- What a character is written as. -/
def entityOf (c : Char) : List Char := ((entities.lookup c).map String.toList).getD [c]

/-- Reads the four entities from left to right. All other text stands for itself. -/
def decodeEntities : List Char → List Char
  | '&' :: 'a' :: 'm' :: 'p' :: ';' :: rest => '&' :: decodeEntities rest
  | '&' :: 'l' :: 't' :: ';' :: rest => '<' :: decodeEntities rest
  | '&' :: 'g' :: 't' :: ';' :: rest => '>' :: decodeEntities rest
  | '&' :: 'q' :: 'u' :: 'o' :: 't' :: ';' :: rest => '"' :: decodeEntities rest
  | c :: rest => c :: decodeEntities rest
  | [] => []

/-- The text that was written with entities. -/
def unescapeEntities (text : String) : String := String.ofList (decodeEntities text.toList)

/-! ## Characters -/

theorem isMarkup_iff {c : Char} :
    isMarkup c = true ↔ c = '&' ∨ c = '<' ∨ c = '>' ∨ c = '"' := by
  constructor
  · intro markup
    by_contra other
    simp only [not_or, ← beq_eq_false_iff_ne] at other
    obtain ⟨ampersand, less, greater, quote⟩ := other
    simp [isMarkup, entities, List.lookup_cons, ampersand, less, greater, quote] at markup
  · rintro (rfl | rfl | rfl | rfl) <;> rfl

theorem entityOf_of_not_isMarkup {c : Char} (plain : isMarkup c = false) : entityOf c = [c] := by
  have absent : entities.lookup c = none := by simpa [isMarkup] using plain
  simp [entityOf, absent]

theorem decodeEntities_cons {c : Char} (other : c ≠ '&') (rest : List Char) :
    decodeEntities (c :: rest) = c :: decodeEntities rest := by
  rw [decodeEntities]
  -- No entity begins here.
  all_goals
    rintro _ rfl
    contradiction

/-- The entity of a character is read as the character. -/
theorem decodeEntities_entityOf_append (c : Char) (rest : List Char) :
    decodeEntities (entityOf c ++ rest) = c :: decodeEntities rest := by
  cases markup : isMarkup c with
  | true => rcases isMarkup_iff.mp markup with rfl | rfl | rfl | rfl <;> rfl
  | false =>
      have other : c ≠ '&' := by
        rintro rfl
        cases markup
      rw [entityOf_of_not_isMarkup markup]
      exact decodeEntities_cons other rest

/-! ## Texts -/

/-- The replacements of a table, made one after the other as in `escapeEntities`. -/
def replaceEach (table : List (Char × String)) (cs : List Char) : List Char :=
  table.foldl (fun cs (c, entity) => replaceChar c entity cs) cs

theorem replaceEach_append (table : List (Char × String)) (a b : List Char) :
    replaceEach table (a ++ b) = replaceEach table a ++ replaceEach table b := by
  induction table generalizing a b with
  | nil => rfl
  | cons entry table ih =>
      show replaceEach table (replaceChar entry.1 entry.2 (a ++ b)) = _
      rw [replaceChar, List.flatMap_append, ih]
      rfl

theorem replaceChar_singleton {c target : Char} (other : c ≠ target) (replacement : String) :
    replaceChar target replacement [c] = [c] := by
  simp [replaceChar, other]

theorem replaceEach_singleton (c : Char) : replaceEach entities [c] = entityOf c := by
  cases markup : isMarkup c with
  | true => rcases isMarkup_iff.mp markup with rfl | rfl | rfl | rfl <;> rfl
  | false =>
      have other := mt isMarkup_iff.mpr (Bool.eq_false_iff.mp markup)
      simp only [not_or] at other
      obtain ⟨ampersand, less, greater, quote⟩ := other
      rw [entityOf_of_not_isMarkup markup]
      simp only [replaceEach, entities, List.foldl_cons, List.foldl_nil,
        replaceChar_singleton ampersand, replaceChar_singleton less,
        replaceChar_singleton greater, replaceChar_singleton quote]

/-- Every character is written once, whatever stands around it. -/
theorem toList_escapeEntities (text : String) :
    (escapeEntities text).toList = text.toList.flatMap entityOf := by
  show (String.ofList (replaceEach entities text.toList)).toList = _
  rw [String.toList_ofList]
  induction text.toList with
  | nil => rfl
  | cons c cs ih =>
      rw [← List.singleton_append, replaceEach_append, replaceEach_singleton, ih]
      rfl

theorem decodeEntities_flatMap_entityOf (cs : List Char) :
    decodeEntities (cs.flatMap entityOf) = cs := by
  induction cs with
  | nil => rfl
  | cons c cs ih => rw [List.flatMap_cons, decodeEntities_entityOf_append, ih]

@[simp]
theorem unescapeEntities_escapeEntities (text : String) :
    unescapeEntities (escapeEntities text) = text := by
  rw [unescapeEntities, toList_escapeEntities, decodeEntities_flatMap_entityOf,
    String.ofList_toList]

/-- Of the characters that are written as entities only the ampersand remains. -/
theorem eq_ampersand_of_mem_escapeEntities {text : String} {c : Char}
    (member : c ∈ (escapeEntities text).toList) (markup : isMarkup c = true) : c = '&' := by
  rw [toList_escapeEntities] at member
  obtain ⟨d, -, inEntity⟩ := List.mem_flatMap.mp member
  cases written : isMarkup d with
  | true =>
      rcases isMarkup_iff.mp written with rfl | rfl | rfl | rfl <;>
        rcases isMarkup_iff.mp markup with rfl | rfl | rfl | rfl <;> revert inEntity <;> decide
  | false =>
      rw [entityOf_of_not_isMarkup written, List.mem_singleton] at inEntity
      rw [inEntity, written] at markup
      cases markup

@[simp low]
theorem plain_iff {text : String} : Plain text ↔
    '&' ∉ text.toList ∧ '<' ∉ text.toList ∧ '>' ∉ text.toList ∧ '"' ∉ text.toList := by
  constructor
  · intro plain
    refine ⟨?_, ?_, ?_, ?_⟩ <;> exact fun member => Bool.noConfusion (plain _ member)
  · rintro ⟨ampersand, less, greater, quote⟩ c member
    by_contra markup
    rw [Bool.not_eq_false, isMarkup_iff] at markup
    rcases markup with rfl | rfl | rfl | rfl <;> contradiction

@[simp]
theorem plain_append {a b : String} : Plain (a ++ b) ↔ Plain a ∧ Plain b := by
  simp only [Plain, String.toList_append, List.forall_mem_append]

/-- Plain text is written as it is. -/
theorem Plain.escapeEntities {text : String} (plain : Plain text) : escapeEntities text = text := by
  apply String.toList_injective
  rw [toList_escapeEntities]
  have single : ∀ c ∈ text.toList, entityOf c = [c] := fun c member =>
    entityOf_of_not_isMarkup (plain c member)
  rw [List.flatMap_congr single, List.flatMap_singleton']

/-! ## One pass -/

/-- Writes every character once, from left to right. -/
def escapeOnce : List Char → List Char
  | [] => []
  | '&' :: rest => "&amp;".toList ++ escapeOnce rest
  | '<' :: rest => "&lt;".toList ++ escapeOnce rest
  | '>' :: rest => "&gt;".toList ++ escapeOnce rest
  | '"' :: rest => "&quot;".toList ++ escapeOnce rest
  | c :: rest => c :: escapeOnce rest

theorem flatMap_entityOf_eq_escapeOnce (cs : List Char) : cs.flatMap entityOf = escapeOnce cs := by
  fun_induction escapeOnce cs with
  | case1 => rfl
  | case2 rest ih | case3 rest ih | case4 rest ih | case5 rest ih =>
      rw [List.flatMap_cons, ih]
      rfl
  | case6 c rest ampersand less greater quote ih =>
      have plain : isMarkup c = false := by
        rw [Bool.eq_false_iff, ne_eq, isMarkup_iff]
        rintro (rfl | rfl | rfl | rfl) <;> contradiction
      rw [List.flatMap_cons, entityOf_of_not_isMarkup plain, ih, List.singleton_append]

/-- What stands behind the ampersand of an entity. -/
def entityNames : List String := ["amp;", "lt;", "gt;", "quot;"]

theorem ampersand_notMem_entityName : ∀ name ∈ entityNames, '&' ∉ name.toList := by decide

theorem exists_entityName {c : Char} (markup : isMarkup c = true) :
    ∃ name ∈ entityNames, entityOf c = '&' :: name.toList := by
  rcases isMarkup_iff.mp markup with rfl | rfl | rfl | rfl
  · exact ⟨"amp;", by simp [entityNames], rfl⟩
  · exact ⟨"lt;", by simp [entityNames], rfl⟩
  · exact ⟨"gt;", by simp [entityNames], rfl⟩
  · exact ⟨"quot;", by simp [entityNames], rfl⟩

/-- An ampersand in what a character is written as begins an entity. -/
theorem entityName_of_entityOf {c : Char} {before after : List Char}
    (written : entityOf c = before ++ '&' :: after) : ∃ name ∈ entityNames, name.toList = after := by
  cases markup : isMarkup c with
  | true =>
      obtain ⟨name, known, entity⟩ := exists_entityName markup
      have single : '&' ∉ name.toList := ampersand_notMem_entityName name known
      rw [entity] at written
      cases before with
      | nil => exact ⟨name, known, (List.cons.inj written).2⟩
      | cons first before =>
          refine absurd ?_ single
          rw [(List.cons.inj written).2]
          simp
  | false =>
      have member : '&' ∈ entityOf c := by simp [written]
      rw [entityOf_of_not_isMarkup markup, List.mem_singleton] at member
      rw [← member] at markup
      cases markup

/-- Every ampersand in what is written begins an entity. -/
theorem entityName_of_suffix {cs rest : List Char} (ends : '&' :: rest <:+ cs.flatMap entityOf) :
    ∃ name ∈ entityNames, name.toList <+: rest := by
  induction cs with
  | nil => simp at ends
  | cons c cs ih =>
      rw [List.flatMap_cons] at ends
      obtain ⟨before, same⟩ := ends
      rcases List.append_eq_append_iff.mp same with ⟨entity, here, later⟩ | ⟨middle, -, later⟩
      · cases entity with
        | nil => exact ih ⟨[], by simpa using later⟩
        | cons first after =>
            obtain ⟨rfl, rfl⟩ := List.cons.inj later
            obtain ⟨name, known, rfl⟩ := entityName_of_entityOf here
            exact ⟨name, known, List.prefix_append _ _⟩
      · exact ih ⟨middle, later.symm⟩

/-- The replacements made one after the other write every character once, whatever entities a
text already has: nothing is left that could be read as markup, and the text is read back. -/
theorem escapeEntities_once :
    -- It is the one pass, so texts are written piece by piece.
    (∀ text, escapeEntities text = String.ofList (escapeOnce text.toList)) ∧
    (∀ a b, escapeEntities (a ++ b) = escapeEntities a ++ escapeEntities b) ∧
    -- What is written has no markup but the ampersands of entities.
    (∀ text, '<' ∉ (escapeEntities text).toList ∧ '>' ∉ (escapeEntities text).toList ∧
      '"' ∉ (escapeEntities text).toList) ∧
    (∀ text rest, '&' :: rest <:+ (escapeEntities text).toList →
      ∃ name ∈ ["amp;", "lt;", "gt;", "quot;"], name.toList <+: rest) ∧
    -- It is read back, so different texts are written differently.
    (∀ text, unescapeEntities (escapeEntities text) = text) ∧
    Function.Injective escapeEntities := by
  refine ⟨?_, ?_, ?_, ?_, unescapeEntities_escapeEntities, ?_⟩
  · intro text
    rw [← String.toList_inj, toList_escapeEntities, String.toList_ofList,
      flatMap_entityOf_eq_escapeOnce]
  · intro a b
    rw [← String.toList_inj]
    simp only [toList_escapeEntities, String.toList_append, List.flatMap_append]
  · intro text
    refine ⟨?_, ?_, ?_⟩ <;> intro member <;>
      exact absurd (eq_ampersand_of_mem_escapeEntities member rfl) (by decide)
  · intro text rest ends
    rw [toList_escapeEntities] at ends
    exact entityName_of_suffix ends
  · intro a b same
    rw [← unescapeEntities_escapeEntities a, same, unescapeEntities_escapeEntities]

/-- A text that has an entity already: its ampersand is written as an entity too. -/
theorem escapeEntities_once_nested :
    escapeEntities "a&lt;" = "a&amp;lt;" ∧
    "&amp;lt;".toList <:+ (escapeEntities "a&lt;").toList ∧
    (∃ name ∈ ["amp;", "lt;", "gt;", "quot;"], name.toList <+: "amp;lt;".toList) ∧
    unescapeEntities (escapeEntities "a&lt;") = "a&lt;" := by
  have written : escapeEntities "a&lt;" = "a&amp;lt;" := by decide +kernel
  have ends : "&amp;lt;".toList <:+ (escapeEntities "a&lt;").toList := by
    rw [written]
    exact ⟨['a'], by decide⟩
  obtain ⟨-, -, -, ampersands, back, -⟩ := escapeEntities_once
  exact ⟨written, ends, ampersands _ _ ends, back _⟩

end PhaseBench.Text
