import PhaseBench.Proofs.Table.Basic
import PhaseBench.Text.Utf8

/-!
# Lossy decoding

`Lossy` says how bytes are read as characters when not all of them are well-formed: the
encoding of a character is read as this character, and where none begins, the longest
part that an encoding could begin with, or a single byte, is read as one replacement
character (`IllFormed`). This reading is unique (`Lossy.unique`), and it is what
`decodeLossy` and `textOfBytes` give (`lossy_decodeLossy`, `textOfBytes_eq_iff`).

Encodings are compared with the ranges of their bytes once, in `WellFormed`.
-/

namespace PhaseBench.Text

/-! ## Readings of bytes -/

/-- Holds for bytes with which the encoding of some character begins. -/
def Begins (part : List UInt8) : Prop := ∃ c, part <+: String.utf8EncodeChar c

/-- A maximal ill-formed part and the bytes behind it: no character stands at its place, it is
a single byte or could be the beginning of a character, and it could not with the next byte. -/
structure IllFormed (part rest : List UInt8) : Prop where
  ne_nil : part ≠ []
  noChar : ∀ c, ¬ String.utf8EncodeChar c <+: part ++ rest
  begins : part.length = 1 ∨ Begins part
  maximal : ∀ b ∈ rest.head?, ¬ Begins (part ++ [b])

/-- How bytes are read as characters, each maximal ill-formed part as one replacement. -/
inductive Lossy : List UInt8 → List Char → Prop
  | nil : Lossy [] []
  | char {c : Char} {bytes : List UInt8} {cs : List Char} :
      Lossy bytes cs → Lossy (String.utf8EncodeChar c ++ bytes) (c :: cs)
  | illFormed {part rest : List UInt8} {cs : List Char} :
      IllFormed part rest → Lossy rest cs → Lossy (part ++ rest) (replacement :: cs)

/-! ## Encodings of characters -/

/-- The byte sequences that encode a character, by the ranges of their bytes. -/
inductive WellFormed : List UInt8 → Prop
  | one {a : UInt8} : a < 0x80 → WellFormed [a]
  | two {a b : UInt8} : (0xC2 ≤ a && a ≤ 0xDF) = true → isContinuation b = true →
      WellFormed [a, b]
  | three {a b c : UInt8} : (0xE0 ≤ a && a ≤ 0xEF) = true → secondOfThree a b = true →
      isContinuation c = true → WellFormed [a, b, c]
  | four {a b c d : UInt8} : (0xF0 ≤ a && a ≤ 0xF4) = true → secondOfFour a b = true →
      isContinuation c = true → isContinuation d = true → WellFormed [a, b, c, d]

theorem inRange_iff {low high a : UInt8} :
    (low ≤ a && a ≤ high) = true ↔ low.toNat ≤ a.toNat ∧ a.toNat ≤ high.toNat := by
  simp [UInt8.le_iff_toNat_le]

theorem isContinuation_iff {b : UInt8} :
    isContinuation b = true ↔ 0x80 ≤ b.toNat ∧ b.toNat ≤ 0xBF := inRange_iff

theorem secondOfThree_iff {a b : UInt8} : secondOfThree a b = true ↔
    (0x80 ≤ b.toNat ∧ b.toNat ≤ 0xBF) ∧ (a.toNat = 0xE0 → 0xA0 ≤ b.toNat) ∧
      (a.toNat = 0xED → b.toNat ≤ 0x9F) := by
  unfold secondOfThree
  split
  · next lead =>
      subst lead
      rw [inRange_iff]
      show 0xA0 ≤ _ ∧ _ ≤ 0xBF ↔ _ ∧ (0xE0 = 0xE0 → _) ∧ (0xE0 = 0xED → _)
      omega
  · next notE0 =>
      have notE0 : a.toNat ≠ 0xE0 := fun same => notE0 (UInt8.toNat_inj.mp same)
      split
      · next lead =>
          subst lead
          rw [inRange_iff]
          show 0x80 ≤ _ ∧ _ ≤ 0x9F ↔ _ ∧ (0xED = 0xE0 → _) ∧ (0xED = 0xED → _)
          omega
      · next notED =>
          have notED : a.toNat ≠ 0xED := fun same => notED (UInt8.toNat_inj.mp same)
          rw [isContinuation_iff]
          omega

theorem secondOfFour_iff {a b : UInt8} : secondOfFour a b = true ↔
    (0x80 ≤ b.toNat ∧ b.toNat ≤ 0xBF) ∧ (a.toNat = 0xF0 → 0x90 ≤ b.toNat) ∧
      (a.toNat = 0xF4 → b.toNat ≤ 0x8F) := by
  unfold secondOfFour
  split
  · next lead =>
      subst lead
      rw [inRange_iff]
      show 0x90 ≤ _ ∧ _ ≤ 0xBF ↔ _ ∧ (0xF0 = 0xF0 → _) ∧ (0xF0 = 0xF4 → _)
      omega
  · next notF0 =>
      have notF0 : a.toNat ≠ 0xF0 := fun same => notF0 (UInt8.toNat_inj.mp same)
      split
      · next lead =>
          subst lead
          rw [inRange_iff]
          show 0x80 ≤ _ ∧ _ ≤ 0x8F ↔ _ ∧ (0xF4 = 0xF0 → _) ∧ (0xF4 = 0xF4 → _)
          omega
      · next notF4 =>
          have notF4 : a.toNat ≠ 0xF4 := fun same => notF4 (UInt8.toNat_inj.mp same)
          rw [isContinuation_iff]
          omega

/-- Every character is encoded by bytes in these ranges. -/
theorem wellFormed_utf8EncodeChar (c : Char) : WellFormed (String.utf8EncodeChar c) := by
  have valid : c.val.toNat < 0xD800 ∨ 0xDFFF < c.val.toNat ∧ c.val.toNat < 0x110000 := c.valid
  unfold String.utf8EncodeChar
  generalize c.val.toNat = v at valid
  simp only
  split
  · apply WellFormed.one
    rw [UInt8.lt_iff_toNat_lt, UInt8.toNat_ofNat']
    show _ < 0x80
    omega
  · split
    · apply WellFormed.two
      · rw [inRange_iff, UInt8.toNat_ofNat']
        show 0xC2 ≤ _ ∧ _ ≤ 0xDF
        omega
      · rw [isContinuation_iff, UInt8.toNat_ofNat']
        omega
    · split
      · apply WellFormed.three
        · rw [inRange_iff, UInt8.toNat_ofNat']
          show 0xE0 ≤ _ ∧ _ ≤ 0xEF
          omega
        · rw [secondOfThree_iff, UInt8.toNat_ofNat', UInt8.toNat_ofNat']
          omega
        · rw [isContinuation_iff, UInt8.toNat_ofNat']
          omega
      · apply WellFormed.four
        · rw [inRange_iff, UInt8.toNat_ofNat']
          show 0xF0 ≤ _ ∧ _ ≤ 0xF4
          omega
        · rw [secondOfFour_iff, UInt8.toNat_ofNat', UInt8.toNat_ofNat']
          omega
        · rw [isContinuation_iff, UInt8.toNat_ofNat']
          omega
        · rw [isContinuation_iff, UInt8.toNat_ofNat']
          omega

theorem toNat_val_ofNat {n : Nat} (valid : n < 0xD800 ∨ 0xDFFF < n ∧ n < 0x110000) :
    (Char.ofNat n).val.toNat = n := by
  have isValid : n.isValidChar := valid
  rw [Char.ofNat, dif_pos isValid]
  rfl

theorem ofNat_eq_of_toNat {n : Nat} {a : UInt8} (same : n = a.toNat) : UInt8.ofNat n = a := by
  rw [same, UInt8.ofNat_toNat]

theorem utf8EncodeChar_one {a : UInt8} (ascii : a < 0x80) :
    String.utf8EncodeChar (Char.ofNat a.toNat) = [a] := by
  have small : a.toNat < 0x80 := UInt8.lt_iff_toNat_lt.mp ascii
  simp only [String.utf8EncodeChar, toNat_val_ofNat (n := a.toNat) (by omega)]
  rw [if_pos (by omega), UInt8.ofNat_toNat]

theorem utf8EncodeChar_two {a b : UInt8} (lead : (0xC2 ≤ a && a ≤ 0xDF) = true)
    (second : isContinuation b = true) :
    String.utf8EncodeChar (Char.ofNat (a.toNat % 32 * 64 + payload b)) = [a, b] := by
  obtain ⟨low, high⟩ : 0xC2 ≤ a.toNat ∧ a.toNat ≤ 0xDF := inRange_iff.mp lead
  obtain ⟨from80, toBF⟩ := isContinuation_iff.mp second
  unfold payload
  simp only [String.utf8EncodeChar,
    toNat_val_ofNat (n := a.toNat % 32 * 64 + b.toNat % 64) (by omega)]
  rw [if_neg (by omega), if_pos (by omega), ofNat_eq_of_toNat (a := a) (by omega),
    ofNat_eq_of_toNat (a := b) (by omega)]

theorem utf8EncodeChar_three {a b c : UInt8} (lead : (0xE0 ≤ a && a ≤ 0xEF) = true)
    (second : secondOfThree a b = true) (third : isContinuation c = true) :
    String.utf8EncodeChar (Char.ofNat ((a.toNat % 16 * 64 + payload b) * 64 + payload c)) =
      [a, b, c] := by
  obtain ⟨low, high⟩ : 0xE0 ≤ a.toNat ∧ a.toNat ≤ 0xEF := inRange_iff.mp lead
  have range := secondOfThree_iff.mp second
  obtain ⟨from80, toBF⟩ := isContinuation_iff.mp third
  unfold payload
  simp only [String.utf8EncodeChar,
    toNat_val_ofNat (n := (a.toNat % 16 * 64 + b.toNat % 64) * 64 + c.toNat % 64) (by omega)]
  rw [if_neg (by omega), if_neg (by omega), if_pos (by omega),
    ofNat_eq_of_toNat (a := a) (by omega), ofNat_eq_of_toNat (a := b) (by omega),
    ofNat_eq_of_toNat (a := c) (by omega)]

theorem utf8EncodeChar_four {a b c d : UInt8} (lead : (0xF0 ≤ a && a ≤ 0xF4) = true)
    (second : secondOfFour a b = true) (third : isContinuation c = true)
    (fourth : isContinuation d = true) :
    String.utf8EncodeChar
      (Char.ofNat (((a.toNat % 8 * 64 + payload b) * 64 + payload c) * 64 + payload d)) =
      [a, b, c, d] := by
  obtain ⟨low, high⟩ : 0xF0 ≤ a.toNat ∧ a.toNat ≤ 0xF4 := inRange_iff.mp lead
  have range := secondOfFour_iff.mp second
  obtain ⟨from80, toBF⟩ := isContinuation_iff.mp third
  obtain ⟨least, greatest⟩ := isContinuation_iff.mp fourth
  unfold payload
  simp only [String.utf8EncodeChar,
    toNat_val_ofNat
      (n := ((a.toNat % 8 * 64 + b.toNat % 64) * 64 + c.toNat % 64) * 64 + d.toNat % 64) (by omega)]
  rw [if_neg (by omega), if_neg (by omega), if_neg (by omega),
    ofNat_eq_of_toNat (a := a) (by omega), ofNat_eq_of_toNat (a := b) (by omega),
    ofNat_eq_of_toNat (a := c) (by omega), ofNat_eq_of_toNat (a := d) (by omega)]

theorem exists_of_wellFormed {bytes : List UInt8} (wellFormed : WellFormed bytes) :
    ∃ c, String.utf8EncodeChar c = bytes := by
  cases wellFormed with
  | one ascii => exact ⟨_, utf8EncodeChar_one ascii⟩
  | two lead second => exact ⟨_, utf8EncodeChar_two lead second⟩
  | three lead second third => exact ⟨_, utf8EncodeChar_three lead second third⟩
  | four lead second third fourth => exact ⟨_, utf8EncodeChar_four lead second third fourth⟩

theorem begins_iff {part : List UInt8} :
    Begins part ↔ ∃ bytes, WellFormed bytes ∧ part <+: bytes := by
  constructor
  · rintro ⟨c, start⟩
    exact ⟨_, wellFormed_utf8EncodeChar c, start⟩
  · rintro ⟨bytes, wellFormed, start⟩
    obtain ⟨c, rfl⟩ := exists_of_wellFormed wellFormed
    exact ⟨c, start⟩

/-! ## Beginnings of characters -/

/-- The number of bytes that the first byte of a character asks for. -/
def lengthOfLead (a : UInt8) : Nat :=
  if a.toNat < 0x80 then 1 else if a.toNat ≤ 0xDF then 2 else if a.toNat ≤ 0xEF then 3 else 4

theorem lengthOfLead_one {a : UInt8} (ascii : a < 0x80) : lengthOfLead a = 1 :=
  if_pos (UInt8.lt_iff_toNat_lt.mp ascii)

theorem lengthOfLead_two {a : UInt8} (lead : (0xC2 ≤ a && a ≤ 0xDF) = true) :
    lengthOfLead a = 2 := by
  obtain ⟨low, high⟩ : 0xC2 ≤ a.toNat ∧ a.toNat ≤ 0xDF := inRange_iff.mp lead
  rw [lengthOfLead, if_neg (by omega), if_pos high]

theorem lengthOfLead_three {a : UInt8} (lead : (0xE0 ≤ a && a ≤ 0xEF) = true) :
    lengthOfLead a = 3 := by
  obtain ⟨low, high⟩ : 0xE0 ≤ a.toNat ∧ a.toNat ≤ 0xEF := inRange_iff.mp lead
  rw [lengthOfLead, if_neg (by omega), if_neg (by omega), if_pos high]

theorem lengthOfLead_four {a : UInt8} (lead : (0xF0 ≤ a && a ≤ 0xF4) = true) :
    lengthOfLead a = 4 := by
  obtain ⟨low, high⟩ : 0xF0 ≤ a.toNat ∧ a.toNat ≤ 0xF4 := inRange_iff.mp lead
  rw [lengthOfLead, if_neg (by omega), if_neg (by omega), if_neg (by omega)]

theorem WellFormed.exists_cons {bytes : List UInt8} (wellFormed : WellFormed bytes) :
    ∃ a tail, bytes = a :: tail ∧ bytes.length = lengthOfLead a := by
  cases wellFormed with
  | one ascii => exact ⟨_, _, rfl, (lengthOfLead_one ascii).symm⟩
  | two lead => exact ⟨_, _, rfl, (lengthOfLead_two lead).symm⟩
  | three lead => exact ⟨_, _, rfl, (lengthOfLead_three lead).symm⟩
  | four lead => exact ⟨_, _, rfl, (lengthOfLead_four lead).symm⟩

/-- No encoding is the beginning of another. -/
theorem WellFormed.eq_of_begins {first second : List UInt8} (wellFormed : WellFormed first)
    (other : WellFormed second) (start : first <+: second) : first = second := by
  obtain ⟨a, tail, rfl, length⟩ := wellFormed.exists_cons
  obtain ⟨b, rest, rfl, count⟩ := other.exists_cons
  obtain ⟨rfl, -⟩ := List.cons_prefix_cons.mp start
  exact start.eq_of_length (length.trans count.symm)

theorem begins_pair {a b : UInt8} (begins : Begins [a, b]) :
    ((0xC2 ≤ a && a ≤ 0xDF) = true ∧ isContinuation b = true) ∨
    ((0xE0 ≤ a && a ≤ 0xEF) = true ∧ secondOfThree a b = true) ∨
    ((0xF0 ≤ a && a ≤ 0xF4) = true ∧ secondOfFour a b = true) := by
  obtain ⟨bytes, wellFormed, start⟩ := begins_iff.mp begins
  cases wellFormed with
  | one => simp at start
  | two lead second =>
      obtain ⟨rfl, rfl⟩ : a = _ ∧ b = _ := by simpa using start
      exact .inl ⟨lead, second⟩
  | three lead second =>
      obtain ⟨rfl, rfl⟩ : a = _ ∧ b = _ := by simpa using start
      exact .inr (.inl ⟨lead, second⟩)
  | four lead second =>
      obtain ⟨rfl, rfl⟩ : a = _ ∧ b = _ := by simpa using start
      exact .inr (.inr ⟨lead, second⟩)

/-- From the third byte on all bytes continue. -/
theorem isContinuation_of_begins {a b c : UInt8} (before : List UInt8)
    (begins : Begins (a :: b :: before ++ [c])) : isContinuation c = true := by
  obtain ⟨bytes, wellFormed, start⟩ := begins_iff.mp begins
  have length := start.length_le
  simp only [List.cons_append, List.length_cons, List.length_append, List.length_nil] at length
  cases wellFormed with
  | one | two =>
      simp only [List.length_cons, List.length_nil] at length
      omega
  | three _ _ third =>
      obtain rfl : before = [] := by
        simp only [List.length_cons, List.length_nil] at length
        exact List.length_eq_zero_iff.mp (by omega)
      obtain ⟨-, -, rfl⟩ : a = _ ∧ b = _ ∧ c = _ := by simpa using start
      exact third
  | four _ _ third fourth =>
      rcases before with _ | ⟨x, before⟩
      · obtain ⟨-, -, rfl⟩ : a = _ ∧ b = _ ∧ c = _ := by simpa using start
        exact third
      · obtain rfl : before = [] := by
          simp only [List.length_cons, List.length_nil] at length
          exact List.length_eq_zero_iff.mp (by omega)
        obtain ⟨-, -, -, rfl⟩ : a = _ ∧ b = _ ∧ x = _ ∧ c = _ := by simpa using start
        exact fourth

/-- What is left of an encoding where it breaks off is ill-formed. -/
theorem illFormed_of_begins {part rest : List UInt8} (nonempty : part ≠ [])
    (begins : part.length = 1 ∨ Begins part) (incomplete : ¬ WellFormed part)
    (maximal : ∀ b ∈ rest.head?, ¬ Begins (part ++ [b])) : IllFormed part rest := by
  refine ⟨nonempty, ?_, begins, maximal⟩
  intro c start
  have wellFormed := wellFormed_utf8EncodeChar c
  rcases Nat.lt_or_ge part.length (String.utf8EncodeChar c).length with longer | shorter
  · -- The character would go on behind the part.
    have inside : part <+: String.utf8EncodeChar c :=
      List.prefix_of_prefix_length_le (List.prefix_append part rest) start (Nat.le_of_lt longer)
    obtain ⟨tail, whole⟩ := inside
    rw [← whole, List.prefix_append_right_inj] at start
    cases tail with
    | nil => simp [← whole] at longer
    | cons b tail =>
        obtain ⟨behind, rfl⟩ := start
        exact maximal b rfl ⟨c, tail, by rw [← whole]; simp⟩
  · have inside : String.utf8EncodeChar c <+: part :=
      List.prefix_of_prefix_length_le start (List.prefix_append part rest) shorter
    rcases begins with single | ⟨d, within⟩
    · have positive : 1 ≤ (String.utf8EncodeChar c).length := by
        rw [String.length_utf8EncodeChar]
        exact c.utf8Size_pos
      have all : String.utf8EncodeChar c = part := inside.eq_of_length_le (single ▸ positive)
      exact incomplete (all ▸ wellFormed)
    · -- The part would hold a whole character and begin another one.
      have same := wellFormed.eq_of_begins (wellFormed_utf8EncodeChar d) (inside.trans within)
      rw [← same] at within
      have all : String.utf8EncodeChar c = part :=
        inside.eq_of_length (Nat.le_antisymm inside.length_le within.length_le)
      exact incomplete (all ▸ wellFormed)

section

variable {a b c : UInt8} {rest : List UInt8}

theorem illFormed_one (notAscii : ¬ a < 0x80)
    (stop : ∀ b ∈ rest.head?, ¬ Begins [a, b]) : IllFormed [a] rest := by
  refine illFormed_of_begins (by simp) (.inl rfl) ?_ stop
  rintro ⟨⟩
  contradiction

theorem illFormed_two (begins : Begins [a, b]) (notTwo : ¬ (0xC2 ≤ a && a ≤ 0xDF) = true)
    (stop : ∀ c ∈ rest.head?, ¬ isContinuation c = true) : IllFormed [a, b] rest := by
  refine illFormed_of_begins (by simp) (.inr begins) ?_ ?_
  · rintro ⟨⟩
    contradiction
  · intro c next goesOn
    exact stop c next (isContinuation_of_begins [] goesOn)

theorem illFormed_three (begins : Begins [a, b, c]) (notThree : ¬ (0xE0 ≤ a && a ≤ 0xEF) = true)
    (stop : ∀ d ∈ rest.head?, ¬ isContinuation d = true) : IllFormed [a, b, c] rest := by
  refine illFormed_of_begins (by simp) (.inr begins) ?_ ?_
  · rintro ⟨⟩
    contradiction
  · intro d next goesOn
    exact stop d next (isContinuation_of_begins [c] goesOn)

/-- A lead of two bytes is followed by a continuation. -/
theorem not_begins_of_two (lead : (0xC2 ≤ a && a ≤ 0xDF) = true)
    (stop : ¬ isContinuation b = true) : ¬ Begins [a, b] := by
  intro begins
  have two := lengthOfLead_two lead
  rcases begins_pair begins with ⟨-, goesOn⟩ | ⟨other, -⟩ | ⟨other, -⟩
  · exact stop goesOn
  · have three := lengthOfLead_three other
    omega
  · have four := lengthOfLead_four other
    omega

theorem not_begins_of_three (lead : (0xE0 ≤ a && a ≤ 0xEF) = true)
    (stop : ¬ secondOfThree a b = true) : ¬ Begins [a, b] := by
  intro begins
  have three := lengthOfLead_three lead
  rcases begins_pair begins with ⟨other, -⟩ | ⟨-, goesOn⟩ | ⟨other, -⟩
  · have two := lengthOfLead_two other
    omega
  · exact stop goesOn
  · have four := lengthOfLead_four other
    omega

theorem not_begins_of_four (lead : (0xF0 ≤ a && a ≤ 0xF4) = true)
    (stop : ¬ secondOfFour a b = true) : ¬ Begins [a, b] := by
  intro begins
  have four := lengthOfLead_four lead
  rcases begins_pair begins with ⟨other, -⟩ | ⟨other, -⟩ | ⟨-, goesOn⟩
  · have two := lengthOfLead_two other
    omega
  · have three := lengthOfLead_three other
    omega
  · exact stop goesOn

theorem begins_two_of_three (lead : (0xE0 ≤ a && a ≤ 0xEF) = true)
    (second : secondOfThree a b = true) : Begins [a, b] :=
  begins_iff.mpr ⟨[a, b, 0x80], .three lead second (by decide), by simp⟩

theorem begins_three_of_four (lead : (0xF0 ≤ a && a ≤ 0xF4) = true)
    (second : secondOfFour a b = true) (third : isContinuation c = true) : Begins [a, b, c] :=
  begins_iff.mpr ⟨[a, b, c, 0x80], .four lead second third (by decide), by simp⟩

theorem begins_two_of_four (lead : (0xF0 ≤ a && a ≤ 0xF4) = true)
    (second : secondOfFour a b = true) : Begins [a, b] :=
  begins_iff.mpr ⟨[a, b, 0x80, 0x80], .four lead second (by decide) (by decide), by simp⟩

end

/-! ## Decoding -/

theorem Lossy.of_encoding {c : Char} {part rest : List UInt8} {cs : List Char}
    (encoding : String.utf8EncodeChar c = part) (read : Lossy rest cs) :
    Lossy (part ++ rest) (c :: cs) :=
  encoding ▸ .char read

/-- Decoding reads characters and replaces maximal ill-formed parts. -/
theorem lossy_decodeLossy (bytes : List UInt8) : Lossy bytes (decodeLossy bytes) := by
  fun_induction decodeLossy bytes with
  | case1 => exact .nil
  | case2 a rest ascii ih => exact ih.of_encoding (utf8EncodeChar_one ascii)
  | case3 a notAscii lead b rest second ih =>
      exact ih.of_encoding (utf8EncodeChar_two lead second)
  | case4 a notAscii lead b rest stop ih =>
      refine .illFormed (illFormed_one notAscii ?_) ih
      rintro _ ⟨⟩
      exact not_begins_of_two lead stop
  | case5 a notAscii lead => exact .illFormed (illFormed_one notAscii (by simp)) .nil
  | case6 a notAscii notTwo lead b c rest stop ih =>
      refine .illFormed (illFormed_one notAscii ?_) ih
      rintro _ ⟨⟩
      exact not_begins_of_three lead (by simpa using stop)
  | case7 a notAscii notTwo lead b c rest second third ih =>
      exact ih.of_encoding (utf8EncodeChar_three lead (by simpa using second) third)
  | case8 a notAscii notTwo lead b c rest second stop ih =>
      have begins := begins_two_of_three lead (by simpa using second)
      refine .illFormed (illFormed_two begins notTwo ?_) ih
      rintro _ ⟨⟩
      exact stop
  | case9 a notAscii notTwo lead b second =>
      exact .illFormed (illFormed_two (begins_two_of_three lead second) notTwo (by simp)) .nil
  | case10 a notAscii notTwo lead b stop ih =>
      refine .illFormed (illFormed_one notAscii ?_) ih
      rintro _ ⟨⟩
      exact not_begins_of_three lead stop
  | case11 a notAscii notTwo lead => exact .illFormed (illFormed_one notAscii (by simp)) .nil
  | case12 a notAscii notTwo notThree lead b c d rest stop ih =>
      refine .illFormed (illFormed_one notAscii ?_) ih
      rintro _ ⟨⟩
      exact not_begins_of_four lead (by simpa using stop)
  | case13 a notAscii notTwo notThree lead b c d rest second stop ih =>
      have begins := begins_two_of_four lead (by simpa using second)
      refine .illFormed (illFormed_two begins notTwo ?_) ih
      rintro _ ⟨⟩
      simpa using stop
  | case14 a notAscii notTwo notThree lead b c d rest second third fourth ih =>
      exact ih.of_encoding
        (utf8EncodeChar_four lead (by simpa using second) (by simpa using third) fourth)
  | case15 a notAscii notTwo notThree lead b c d rest second third stop ih =>
      refine .illFormed (illFormed_three
        (begins_three_of_four lead (by simpa using second) (by simpa using third)) notThree ?_) ih
      rintro _ ⟨⟩
      exact stop
  | case16 a notAscii notTwo notThree lead b c stop ih =>
      refine .illFormed (illFormed_one notAscii ?_) ih
      rintro _ ⟨⟩
      exact not_begins_of_four lead (by simpa using stop)
  | case17 a notAscii notTwo notThree lead b c second third =>
      exact .illFormed (illFormed_three (begins_three_of_four lead (by simpa using second) third)
        notThree (by simp)) .nil
  | case18 a notAscii notTwo notThree lead b c second stop ih =>
      have begins := begins_two_of_four lead (by simpa using second)
      refine .illFormed (illFormed_two begins notTwo ?_) ih
      rintro _ ⟨⟩
      exact stop
  | case19 a notAscii notTwo notThree lead b second =>
      exact .illFormed (illFormed_two (begins_two_of_four lead second) notTwo (by simp)) .nil
  | case20 a notAscii notTwo notThree lead b stop ih =>
      refine .illFormed (illFormed_one notAscii ?_) ih
      rintro _ ⟨⟩
      exact not_begins_of_four lead stop
  | case21 a notAscii notTwo notThree lead =>
      exact .illFormed (illFormed_one notAscii (by simp)) .nil
  | case22 a rest notAscii notTwo notThree notFour ih =>
      refine .illFormed (illFormed_one notAscii ?_) ih
      intro b _ begins
      rcases begins_pair begins with ⟨lead, -⟩ | ⟨lead, -⟩ | ⟨lead, -⟩ <;> contradiction

theorem utf8EncodeChar_injective : Function.Injective String.utf8EncodeChar := by
  intro c d same
  have texts : String.ofList [c] = String.ofList [d] :=
    String.toByteArray_inj.mp (by simp [List.utf8Encode, same])
  simpa using texts

theorem IllFormed.length_le {part rest other behind : List UInt8} (illFormed : IllFormed part rest)
    (second : IllFormed other behind) (same : part ++ rest = other ++ behind) :
    other.length ≤ part.length := by
  by_contra longer
  rw [Nat.not_le] at longer
  have inside : part <+: other := List.prefix_of_prefix_length_le
    (List.prefix_append part rest) (same ▸ List.prefix_append other behind) (Nat.le_of_lt longer)
  obtain ⟨tail, rfl⟩ := inside
  rw [List.append_assoc, List.append_cancel_left_eq] at same
  have some_byte := List.length_pos_iff.mpr illFormed.ne_nil
  cases tail with
  | nil => simp at longer
  | cons b tail =>
      rcases second.begins with single | ⟨c, start⟩
      · simp only [List.length_append, List.length_cons] at single
        omega
      · refine illFormed.maximal b (by simp [same]) ⟨c, List.IsPrefix.trans ?_ start⟩
        exact ⟨tail, by simp⟩

theorem IllFormed.unique {part rest other behind : List UInt8} (illFormed : IllFormed part rest)
    (second : IllFormed other behind) (same : part ++ rest = other ++ behind) :
    part = other ∧ rest = behind :=
  List.append_inj same
    (Nat.le_antisymm (second.length_le illFormed same.symm) (illFormed.length_le second same))

theorem utf8EncodeChar_append_inj {c d : Char} {rest behind : List UInt8}
    (same : String.utf8EncodeChar c ++ rest = String.utf8EncodeChar d ++ behind) :
    c = d ∧ rest = behind := by
  have encodings : String.utf8EncodeChar c = String.utf8EncodeChar d := by
    rcases List.prefix_or_prefix_of_prefix (List.prefix_append (String.utf8EncodeChar c) rest)
      (same ▸ List.prefix_append (String.utf8EncodeChar d) behind) with start | start
    · exact (wellFormed_utf8EncodeChar c).eq_of_begins (wellFormed_utf8EncodeChar d) start
    · exact ((wellFormed_utf8EncodeChar d).eq_of_begins (wellFormed_utf8EncodeChar c) start).symm
  rw [encodings, List.append_cancel_left_eq] at same
  exact ⟨utf8EncodeChar_injective encodings, same⟩

/-- Bytes are read in one way only. -/
theorem Lossy.unique {bytes : List UInt8} {cs ds : List Char} (first : Lossy bytes cs)
    (second : Lossy bytes ds) : cs = ds := by
  induction first generalizing ds with
  | nil =>
      generalize nothing : [] = bytes at second
      cases second with
      | nil => rfl
      | char _ => simp at nothing
      | illFormed other _ => exact absurd (List.append_eq_nil_iff.mp nothing.symm).1 other.ne_nil
  | @char c rest cs _ ih =>
      generalize same : String.utf8EncodeChar c ++ rest = bytes at second
      cases second with
      | nil => simp at same
      | char other =>
          obtain ⟨rfl, rfl⟩ := utf8EncodeChar_append_inj same
          rw [ih other]
      | illFormed other _ => exact absurd ⟨rest, same⟩ (other.noChar c)
  | @illFormed part rest cs illFormed _ ih =>
      generalize same : part ++ rest = bytes at second
      cases second with
      | nil => exact absurd (List.append_eq_nil_iff.mp same).1 illFormed.ne_nil
      | char _ => exact absurd ⟨_, same.symm⟩ (illFormed.noChar _)
      | illFormed other read =>
          obtain ⟨rfl, rfl⟩ := illFormed.unique other same
          rw [ih read]

/-! ## Texts -/

/-- The encoding of a text is read as this text. -/
theorem lossy_flatMap (cs : List Char) : Lossy (cs.flatMap String.utf8EncodeChar) cs := by
  induction cs with
  | nil => exact .nil
  | cons c cs ih => exact .char ih

theorem eq_toUTF8_of_fromUTF8? {bytes : ByteArray} {text : String}
    (decoded : String.fromUTF8? bytes = some text) : bytes = text.toUTF8 := by
  unfold String.fromUTF8? at decoded
  split at decoded
  · cases decoded
    rfl
  · cases decoded

theorem lossy_textOfBytes (bytes : ByteArray) : Lossy bytes.toList (textOfBytes bytes).toList := by
  unfold textOfBytes
  split
  · next text decoded =>
      rw [eq_toUTF8_of_fromUTF8? decoded, toList_toUTF8]
      exact lossy_flatMap text.toList
  · rw [String.toList_ofList]
    exact lossy_decodeLossy bytes.toList

/-- The text of bytes is the one that they are read as. -/
theorem textOfBytes_eq_iff {bytes : ByteArray} {text : String} :
    textOfBytes bytes = text ↔ Lossy bytes.toList text.toList := by
  constructor
  · rintro rfl
    exact lossy_textOfBytes bytes
  · intro read
    exact String.toList_injective ((lossy_textOfBytes bytes).unique read)

theorem textOfBytes_toUTF8 (text : String) : textOfBytes text.toUTF8 = text := by
  rw [textOfBytes_eq_iff, toList_toUTF8]
  exact lossy_flatMap text.toList

end PhaseBench.Text
