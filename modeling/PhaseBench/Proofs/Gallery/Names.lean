import PhaseBench.Gallery
import PhaseBench.Proofs.Tree.Resolution

/-!
# File names of charts

The name of a chart file is made of its number and its title. Whatever the title is,
the name holds only lower-case letters, digits and hyphens before its ending
(`isNameChar_of_mem_stem`), so it stands for an entry of the directory and for nothing else
(`plain_fileName`). The number can be read off the name (`number_fileName`), so names
with different numbers are different although most characters of a title are lost.
-/

namespace PhaseBench.Gallery

/-- Holds for ASCII lower-case letters, ASCII digits and the hyphen. -/
def isNameChar (c : Char) : Bool := c.isLower || c.isDigit || c == '-'

theorem isLower_toLower {c : Char} (upper : c.isUpper) : c.toLower.isLower := by
  have bounds : 'A'.val ≤ c.val ∧ c.val ≤ 'Z'.val := by simpa [Char.isUpper] using upper
  have low : 65 ≤ c.val.toNat := bounds.1
  have high : c.val.toNat ≤ 90 := bounds.2
  have shifted : c.toLower.val.toNat = c.val.toNat + 32 := by
    rw [Char.toLower, dif_pos bounds]
    show (c.val + 32).toNat = _
    rw [UInt32.toNat_add]
    exact Nat.mod_eq_of_lt (by show c.val.toNat + 32 < _; omega)
  have atLeast : 97 ≤ c.toLower.val.toNat := by omega
  have atMost : c.toLower.val.toNat ≤ 122 := by omega
  simp only [Char.isLower, Bool.and_eq_true, decide_eq_true_eq]
  exact ⟨atLeast, atMost⟩

theorem toLower_eq_self {c : Char} (notUpper : c.isUpper = false) : c.toLower = c := by
  have outside : ¬ (c.val ≥ 'A'.val ∧ c.val ≤ 'Z'.val) := by
    simpa [Char.isUpper] using notUpper
  rw [Char.toLower, dif_neg outside]

theorem isNameChar_slugChar (c : Char) : isNameChar (slugChar c) := by
  unfold slugChar
  split
  · next known =>
      cases upper : c.isUpper with
      | true => simp [isNameChar, isLower_toLower upper]
      | false =>
          have lowerOrDigit : c.isLower = true ∨ c.isDigit = true := by
            simpa [Char.isAlphanum, Char.isAlpha, upper] using known
          rw [toLower_eq_self upper]
          rcases lowerOrDigit with lower | digit
          · simp [isNameChar, lower]
          · simp [isNameChar, digit]
  · rfl

theorem isDigit_of_mem_twoDigits {c : Char} {n : Nat} (member : c ∈ (twoDigits n).toList) :
    c.isDigit := by
  have decimal {c : Char} (member : c ∈ (Text.decimal n).toList) : c.isDigit := by
    rw [Text.decimal, String.toList_ofList] at member
    exact Nat.isDigit_of_mem_toDigits (by decide) (by decide) member
  unfold twoDigits at member
  split at member
  · rw [String.toList_append, List.mem_append] at member
    rcases member with zero | member
    · obtain rfl : c = '0' := by simpa using zero
      rfl
    · exact decimal member
  · exact decimal member

/-- The part of a file name before its ending. -/
def stem (index : Nat) (title : String) : String :=
  twoDigits index ++ "-" ++ String.ofList (title.toList.map slugChar)

theorem fileName_eq (index : Nat) (title : String) :
    fileName index title = stem index title ++ ".svg" := rfl

theorem toList_stem (index : Nat) (title : String) :
    (stem index title).toList =
      (twoDigits index).toList ++ '-' :: title.toList.map slugChar := by
  simp [stem]

theorem isNameChar_of_mem_stem {index : Nat} {title : String} {c : Char}
    (member : c ∈ (stem index title).toList) : isNameChar c := by
  rw [toList_stem, List.mem_append, List.mem_cons] at member
  rcases member with digit | rfl | slug
  · simp [isNameChar, isDigit_of_mem_twoDigits digit]
  · rfl
  · obtain ⟨original, -, rfl⟩ := List.mem_map.mp slug
    exact isNameChar_slugChar original

/-- A file name stands for an entry of the directory that it is joined to. -/
theorem plain_fileName (index : Nat) (title : String) : Path.Plain (fileName index title) := by
  have chars : (fileName index title).toList =
      (stem index title).toList ++ ['.', 's', 'v', 'g'] := by
    rw [fileName_eq, String.toList_append]
    rfl
  have ending : 'v' ∈ (fileName index title).toList := by simp [chars]
  refine ⟨?_, ?_, ?_, ?_⟩
  · intro same
    rw [same] at ending
    exact absurd ending (by decide)
  · intro slash
    rw [chars, List.mem_append] at slash
    rcases slash with inStem | inEnding
    · exact absurd (isNameChar_of_mem_stem inStem) (by decide)
    · exact absurd inEnding (by decide)
  · intro same
    rw [same] at ending
    exact absurd ending (by decide)
  · intro same
    rw [same] at ending
    exact absurd ending (by decide)

/-! ## Numbers -/

theorem ofDigitChars_twoDigits (n : Nat) : Nat.ofDigitChars 10 (twoDigits n).toList 0 = n := by
  unfold twoDigits
  split
  · have chars : ("0" ++ Text.decimal n).toList = '0' :: Nat.toDigits 10 n := by
      simp [Text.decimal]
    rw [chars, Nat.ofDigitChars_cons]
    exact Nat.ofDigitChars_ten_toDigits
  · rw [Text.decimal, String.toList_ofList, Nat.ofDigitChars_ten_toDigits]

/-- The number at the beginning of a file name. -/
theorem number_fileName (index : Nat) (title : String) :
    Nat.ofDigitChars 10 ((fileName index title).toList.takeWhile Char.isDigit) 0 = index := by
  have digits : (fileName index title).toList.takeWhile Char.isDigit =
      (twoDigits index).toList := by
    rw [fileName_eq, String.toList_append, toList_stem, List.append_assoc,
      List.takeWhile_append_of_pos fun _ member => isDigit_of_mem_twoDigits member,
      List.cons_append, List.takeWhile_cons_of_neg (by decide), List.append_nil]
  rw [digits, ofDigitChars_twoDigits]

theorem index_eq_of_fileName_eq {index other : Nat} {title caption : String}
    (same : fileName index title = fileName other caption) : index = other := by
  rw [← number_fileName index title, same, number_fileName]

end PhaseBench.Gallery
