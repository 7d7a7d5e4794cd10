import Mathlib
import PhaseBench.Command

/-!
# Replacing a mark

What `replaceFrom` makes of a text is known from two steps: an occurrence of the mark
gives way to the value (`replaceFrom_mark`), and a character at which no occurrence
begins stays (`replaceFrom_cons`). Every text falls apart into such steps
(`mark_induction`).

A text is left alone exactly when the mark does not occur in it or is replaced by
itself (`replaceFrom_eq_self_iff`). A mark whose first character occurs only once in
it cannot overlap another occurrence of itself, so replacing can be done on either
side of an occurrence (`replaceFrom_append_mark`).
-/

namespace PhaseBench.Text

variable {mark value text rest : List Char}

/-! ## Steps -/

theorem replaceFrom_eq_drop (mark value text : List Char) (skip : Nat) :
    replaceFrom mark value skip text = replaceFrom mark value 0 (text.drop skip) := by
  induction text generalizing skip with
  | nil => simp [replaceFrom]
  | cons c text ih =>
      cases skip with
      | zero => rfl
      | succ skip => rw [replaceFrom, ih, List.drop_succ_cons]

/-- An occurrence of the mark gives way to the value. -/
theorem replaceFrom_mark (nonempty : mark ≠ []) (value rest : List Char) :
    replaceFrom mark value 0 (mark ++ rest) = value ++ replaceFrom mark value 0 rest := by
  obtain ⟨c, tail, rfl⟩ := List.exists_cons_of_ne_nil nonempty
  have found : (c :: tail).isPrefixOf (c :: (tail ++ rest)) = true :=
    List.isPrefixOf_iff_prefix.mpr (List.prefix_append (c :: tail) rest)
  rw [List.cons_append, replaceFrom, if_pos found, replaceFrom_eq_drop, List.length_cons,
    Nat.add_sub_cancel, List.drop_left]

/-- A character at which no occurrence begins stays. -/
theorem replaceFrom_cons {c : Char} (other : ¬ mark <+: c :: rest) (value : List Char) :
    replaceFrom mark value 0 (c :: rest) = c :: replaceFrom mark value 0 rest := by
  have absent : ¬ mark.isPrefixOf (c :: rest) = true := by
    rw [List.isPrefixOf_iff_prefix]
    exact other
  rw [replaceFrom, if_neg absent]

/-- Induction along the steps of a replacement. -/
theorem mark_induction {motive : List Char → Prop} (nonempty : mark ≠ []) (nil : motive [])
    (found : ∀ rest, motive rest → motive (mark ++ rest))
    (passed : ∀ c rest, ¬ mark <+: c :: rest → motive rest → motive (c :: rest))
    (text : List Char) : motive text := by
  induction length : text.length using Nat.strong_induction_on generalizing text with
  | h n ih =>
      cases text with
      | nil => exact nil
      | cons c text =>
          by_cases here : mark <+: c :: text
          · obtain ⟨rest, split⟩ := here
            rw [← split] at length ⊢
            have some := List.length_pos_iff.mpr nonempty
            rw [List.length_append] at length
            exact found rest (ih rest.length (by omega) rest rfl)
          · rw [List.length_cons] at length
            exact passed c text here (ih text.length (by omega) text rfl)

/-- Text without the first character of the mark is passed over. -/
theorem replaceFrom_append_of_notMem {first : Char} {tail : List Char} (absent : first ∉ text)
    (value rest : List Char) :
    replaceFrom (first :: tail) value 0 (text ++ rest) =
      text ++ replaceFrom (first :: tail) value 0 rest := by
  induction text with
  | nil => rfl
  | cons c text ih =>
      rw [List.mem_cons, not_or] at absent
      have other : ¬ first :: tail <+: c :: (text ++ rest) := fun here =>
        absent.1 (List.cons_prefix_cons.mp here).1
      rw [List.cons_append, replaceFrom_cons other, ih absent.2, List.cons_append]

/-- Replacing can be done on both sides of an occurrence. -/
theorem replaceFrom_append_mark {first : Char} {tail : List Char} (once : first ∉ tail)
    (value text rest : List Char) :
    replaceFrom (first :: tail) value 0 (text ++ (first :: tail) ++ rest) =
      replaceFrom (first :: tail) value 0 text ++ value ++
        replaceFrom (first :: tail) value 0 rest := by
  have nonempty : first :: tail ≠ [] := List.cons_ne_nil _ _
  induction text using mark_induction nonempty with
  | nil => exact replaceFrom_mark nonempty value rest
  | found text ih =>
      rw [List.append_assoc (first :: tail) text, List.append_assoc (first :: tail),
        replaceFrom_mark nonempty, ih, replaceFrom_mark nonempty]
      simp
  | passed c text other ih =>
      -- An occurrence that began at `c` and went beyond the text would hold the first
      -- character of the mark once more, where the next occurrence begins.
      have beyond : ¬ first :: tail <+: c :: (text ++ (first :: tail) ++ rest) := by
        rw [← List.cons_append, ← List.cons_append, List.append_assoc]
        intro here
        rcases List.prefix_or_prefix_of_prefix here (List.prefix_append (c :: text) _) with
          inside | ⟨excess, split⟩
        · exact other inside
        · cases excess with
          | nil => exact other (by rw [← split, List.append_nil])
          | cons d excess =>
              have behind : d :: excess <+: first :: (tail ++ rest) := by
                rw [← List.prefix_append_right_inj (c :: text), split]
                exact here
              obtain ⟨rfl, -⟩ := List.cons_prefix_cons.mp behind
              have again : d ∈ tail := by
                rw [← (List.cons.inj split).2]
                simp
              exact once again
      rw [List.cons_append, List.cons_append, replaceFrom_cons beyond, ih, replaceFrom_cons other]
      simp

/-! ## Texts that are left alone -/

theorem replaceFrom_of_no_mark (absent : ¬ mark <:+: text) (value : List Char) :
    replaceFrom mark value 0 text = text := by
  induction text with
  | nil => rfl
  | cons c text ih =>
      rw [List.infix_cons_iff, not_or] at absent
      rw [replaceFrom_cons absent.1, ih absent.2]

theorem replaceFrom_self (nonempty : mark ≠ []) (text : List Char) :
    replaceFrom mark mark 0 text = text := by
  induction text using mark_induction nonempty with
  | nil => rfl
  | found text ih => rw [replaceFrom_mark nonempty, ih]
  | passed c text other ih => rw [replaceFrom_cons other, ih]

/-- Each occurrence that is replaced changes the length by the same amount. -/
theorem exists_length_replaceFrom (nonempty : mark ≠ []) (value text : List Char) :
    ∃ count, (replaceFrom mark value 0 text).length + count * mark.length =
      text.length + count * value.length := by
  induction text using mark_induction nonempty with
  | nil => exact ⟨0, by simp [replaceFrom]⟩
  | found text ih =>
      obtain ⟨count, lengths⟩ := ih
      refine ⟨count + 1, ?_⟩
      rw [replaceFrom_mark nonempty, List.length_append, List.length_append, Nat.succ_mul,
        Nat.succ_mul]
      omega
  | passed c text other ih =>
      obtain ⟨count, lengths⟩ := ih
      refine ⟨count, ?_⟩
      rw [replaceFrom_cons other, List.length_cons, List.length_cons]
      omega

theorem length_replaceFrom_le (nonempty : mark ≠ []) (shorter : value.length ≤ mark.length)
    (text : List Char) : (replaceFrom mark value 0 text).length ≤ text.length := by
  obtain ⟨count, lengths⟩ := exists_length_replaceFrom nonempty value text
  have := Nat.mul_le_mul_left count shorter
  omega

theorem le_length_replaceFrom (nonempty : mark ≠ []) (longer : mark.length ≤ value.length)
    (text : List Char) : text.length ≤ (replaceFrom mark value 0 text).length := by
  obtain ⟨count, lengths⟩ := exists_length_replaceFrom nonempty value text
  have := Nat.mul_le_mul_left count longer
  omega

/-- A replacement that changes nothing although the mark occurs puts the mark in its own
place: a value of another length would show in the length of the text. -/
theorem value_eq_of_replaceFrom_eq (nonempty : mark ≠ [])
    (same : replaceFrom mark value 0 text = text) (occurs : mark <:+: text) : value = mark := by
  induction text using mark_induction nonempty with
  | nil => exact absurd (List.infix_nil.mp occurs) nonempty
  | found text ih =>
      rw [replaceFrom_mark nonempty] at same
      have lengths := congrArg List.length same
      rw [List.length_append, List.length_append] at lengths
      have equal : value.length = mark.length := by
        rcases Nat.le_total value.length mark.length with shorter | longer
        · have := length_replaceFrom_le nonempty shorter text
          omega
        · have := le_length_replaceFrom nonempty longer text
          omega
      exact (List.append_inj same equal).1
  | passed c text other ih =>
      rw [replaceFrom_cons other] at same
      rw [List.infix_cons_iff] at occurs
      exact ih (List.cons.inj same).2 (occurs.resolve_left other)

/-- What a replacement leaves alone. -/
theorem replaceFrom_eq_self_iff (nonempty : mark ≠ []) :
    replaceFrom mark value 0 text = text ↔ value = mark ∨ ¬ mark <:+: text := by
  constructor
  · intro same
    by_cases occurs : mark <:+: text
    · exact .inl (value_eq_of_replaceFrom_eq nonempty same occurs)
    · exact .inr occurs
  · rintro (rfl | absent)
    · exact replaceFrom_self nonempty text
    · exact replaceFrom_of_no_mark absent value

end PhaseBench.Text
