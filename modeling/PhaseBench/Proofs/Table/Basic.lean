import Mathlib
import PhaseBench.Table.Basic

/-!
# Cells of a table

The byte order of names is a strict total order (`nameBefore_trans`,
`eq_of_not_nameBefore`). Looking a key up in a list whose keys are distinct finds
the entry that is there (`find?_key_eq_some`), and a key that comes behind all
others is added at the end: a configuration that was not mentioned
(`Table.alterEntries_append`), a name that all names come before
(`Inputs.alter_of_before`).
-/

namespace PhaseBench

universe u v

/-! ## The byte order of names -/

private theorem toList_loop_eq (bytes : ByteArray) (i : Nat) (done : List UInt8) :
    ByteArray.toList.loop bytes i done = done.reverse ++ bytes.data.toList.drop i := by
  fun_induction ByteArray.toList.loop bytes i done with
  | case1 i done inside ih =>
      have bound : i < bytes.data.toList.length := by simpa using inside
      have read : bytes.get! i = bytes.data.toList[i] := by
        rw [Array.getElem_toList]
        exact getElem!_pos bytes.data i (by simpa using bound)
      rw [ih, List.drop_eq_getElem_cons bound, read]
      simp
  | case2 i done outside =>
      have bound : bytes.data.toList.length ≤ i := by simpa using outside
      simp [List.drop_eq_nil_of_le bound]

theorem toList_eq_data (bytes : ByteArray) : bytes.toList = bytes.data.toList := by
  rw [ByteArray.toList, toList_loop_eq]
  rfl

theorem nameBytes_eq (name : String) : nameBytes name = name.toByteArray.data.toList :=
  toList_eq_data name.toUTF8

/-- The bytes of a text are those of its characters. -/
theorem toList_toUTF8 (text : String) :
    text.toUTF8.toList = text.toList.flatMap String.utf8EncodeChar := by
  have bytes : (String.ofList text.toList).toByteArray.data.toList =
      text.toList.flatMap String.utf8EncodeChar := by
    rw [String.toByteArray_ofList, List.utf8Encode, List.toList_data_toByteArray]
  rw [String.ofList_toList] at bytes
  rw [toList_eq_data]
  exact bytes

/-- A name is known by its bytes. -/
theorem nameBytes_injective : Function.Injective nameBytes := by
  intro a b same
  rw [nameBytes_eq, nameBytes_eq, Array.toList_inj] at same
  exact String.toByteArray_inj.mp (ByteArray.ext same)

theorem nameBefore_iff {a b : String} : nameBefore a b = true ↔ nameBytes a < nameBytes b := by
  simp [nameBefore]

theorem not_nameBefore_self (a : String) : nameBefore a a = false := by
  simp [nameBefore]

theorem nameBefore_trans {a b c : String} (hab : nameBefore a b) (hbc : nameBefore b c) :
    nameBefore a c := by
  rw [nameBefore_iff] at hab hbc ⊢
  exact List.lt_trans hab hbc

theorem ne_of_nameBefore {a b : String} (h : nameBefore a b) : a ≠ b := by
  rintro rfl
  rw [not_nameBefore_self] at h
  exact Bool.false_ne_true h

theorem not_nameBefore_of_nameBefore {a b : String} (h : nameBefore a b) :
    nameBefore b a = false := by
  rw [Bool.eq_false_iff]
  intro back
  exact ne_of_nameBefore (nameBefore_trans h back) rfl

/-- Of two different names one comes before the other. -/
theorem eq_of_not_nameBefore {a b : String} (hab : ¬ nameBefore a b) (hba : ¬ nameBefore b a) :
    a = b := by
  rw [nameBefore_iff] at hab hba
  exact nameBytes_injective (List.le_antisymm hba hab)

/-! ## Keys -/

theorem find?_key_eq_some {κ : Type u} {β : Type v} [DecidableEq κ] {entries : List (κ × β)}
    (distinct : (entries.map (·.1)).Nodup) {key : κ} {value : β} (member : (key, value) ∈ entries) :
    (entries.find? fun entry => entry.1 == key) = some (key, value) := by
  induction entries with
  | nil => exact absurd member (by simp)
  | cons entry rest ih =>
      rw [List.map_cons, List.nodup_cons] at distinct
      rcases List.mem_cons.mp member with rfl | later
      · simp
      · have different : entry.1 ≠ key := by
          rintro rfl
          exact distinct.1 (List.mem_map.mpr ⟨_, later, rfl⟩)
        rw [List.find?_cons_of_neg (by simpa using different)]
        exact ih distinct.2 later

variable {α : Type u}

theorem Inputs.get?_eq_some {inputs : Inputs α} (distinct : (inputs.map (·.1)).Nodup)
    {name : String} {cell : Metrics α} (member : (name, cell) ∈ inputs) :
    Inputs.get? inputs name = some cell := by
  rw [Inputs.get?, find?_key_eq_some distinct member]
  rfl

theorem Table.inputs?_eq_some {table : Table α} (distinct : (table.entries.map (·.1)).Nodup)
    {configuration : Configuration} {inputs : Inputs α}
    (member : (configuration, inputs) ∈ table.entries) :
    table.inputs? configuration = some inputs := by
  rw [Table.inputs?, find?_key_eq_some distinct member]
  rfl

/-- The value of a phase in the cell of a configuration and an input. -/
def Table.value? (table : Table α) (configuration : Configuration) (name : String)
    (metric : Metric) : Option α :=
  (table.inputs? configuration).bind fun inputs =>
    (Inputs.get? inputs name).bind fun cell => cell.get metric

/-! ## Adding at the end -/

theorem Inputs.alter_of_before {inputs : Inputs α} {name : String}
    (before : ∀ input ∈ inputs, nameBefore input.1 name) (f : Option (Metrics α) → Metrics α) :
    Inputs.alter name f inputs = inputs ++ [(name, f none)] := by
  induction inputs with
  | nil => rfl
  | cons input rest ih =>
      have earlier := before input List.mem_cons_self
      rw [Inputs.alter, if_neg (ne_of_nameBefore earlier),
        if_neg (by simp [not_nameBefore_of_nameBefore earlier]),
        ih fun other member => before other (List.mem_cons_of_mem _ member)]
      rfl

/-- Entries of other configurations are passed over. -/
theorem Table.alterEntries_append {entries : List (Configuration × Inputs α)}
    {configuration : Configuration} (fresh : configuration ∉ entries.map (·.1))
    (f : Inputs α → Inputs α) (rest : List (Configuration × Inputs α)) :
    alterEntries configuration f (entries ++ rest) =
      entries ++ alterEntries configuration f rest := by
  induction entries with
  | nil => rfl
  | cons entry entries ih =>
      rw [List.map_cons, List.mem_cons, not_or] at fresh
      rw [List.cons_append, alterEntries, if_neg (Ne.symm fresh.1), ih fresh.2]
      rfl

end PhaseBench
