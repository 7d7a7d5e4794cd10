import Mathlib
import PhaseBench.Text.DecimalDigit

/-!
# Decimal numerals

Digits as characters, and the number that a row of them denotes. A row of digits
denotes a number below the power of ten of its length (`ofDigitChars_lt`), the
beginning of a row denotes the number without its last places (`ofDigitChars_take`),
and rows of one length are ordered digit by digit like their numbers
(`map_digitByte_lt_iff`).
-/

namespace PhaseBench

theorem toNat_of_isDigit {c : Char} (digit : c.isDigit) : 48 ≤ c.toNat ∧ c.toNat ≤ 57 := by
  simpa [Char.isDigit, UInt32.le_iff_toNat_le] using digit

theorem decimalValue?_eq_some {digits : List Char} (ascii : ∀ c ∈ digits, c.isDigit) :
    Text.decimalValue? digits = some (Nat.ofDigitChars 10 digits 0) := by
  rw [Text.decimalValue?, if_pos (List.all_eq_true.mpr ascii)]
  rfl

theorem isDigit_of_mem_toDigits {n : Nat} {c : Char} (member : c ∈ Nat.toDigits 10 n) :
    c.isDigit :=
  Nat.isDigit_of_mem_toDigits (by decide) (by decide) member

theorem decimalValue?_toDigits (n : Nat) : Text.decimalValue? (Nat.toDigits 10 n) = some n := by
  rw [decimalValue?_eq_some fun c member => isDigit_of_mem_toDigits member,
    Nat.ofDigitChars_ten_toDigits]

/-! ## The number that digits denote -/

theorem ofDigitChars_cons_zero (c : Char) (cs : List Char) :
    Nat.ofDigitChars 10 (c :: cs) 0 =
      10 ^ cs.length * (c.toNat - 48) + Nat.ofDigitChars 10 cs 0 := by
  rw [Nat.ofDigitChars_cons, Nat.ofDigitChars_eq_ofDigitChars_zero, Nat.mul_zero, Nat.zero_add]
  rfl

theorem ofDigitChars_lt {cs : List Char} (digits : ∀ c ∈ cs, c.isDigit) :
    Nat.ofDigitChars 10 cs 0 < 10 ^ cs.length := by
  induction cs with
  | nil => simp
  | cons c cs ih =>
      have rest := ih fun d member => digits d (List.mem_cons_of_mem _ member)
      have bounds := toNat_of_isDigit (digits c List.mem_cons_self)
      have first : c.toNat - 48 ≤ 9 := by omega
      have scaled := Nat.mul_le_mul_left (10 ^ cs.length) first
      rw [ofDigitChars_cons_zero, List.length_cons, pow_succ]
      omega

/-- The first digits of a row denote its number without the other places. -/
theorem ofDigitChars_take {cs : List Char} (digits : ∀ c ∈ cs, c.isDigit) (k : Nat) :
    Nat.ofDigitChars 10 (cs.take k) 0 =
      Nat.ofDigitChars 10 cs 0 / 10 ^ (cs.length - k) := by
  have rest : Nat.ofDigitChars 10 (cs.drop k) 0 < 10 ^ (cs.length - k) := by
    rw [← List.length_drop]
    exact ofDigitChars_lt fun c member => digits c (List.mem_of_mem_drop member)
  have whole : Nat.ofDigitChars 10 cs 0 =
      10 ^ (cs.length - k) * Nat.ofDigitChars 10 (cs.take k) 0 +
        Nat.ofDigitChars 10 (cs.drop k) 0 := by
    conv_lhs => rw [← List.take_append_drop k cs]
    rw [Nat.ofDigitChars_append, Nat.ofDigitChars_eq_ofDigitChars_zero, List.length_drop]
  rw [whole, Nat.mul_add_div (by positivity), Nat.div_eq_of_lt rest, Nat.add_zero]

/-! ## The order of numerals -/

/-- The byte of a digit. -/
def digitByte (c : Char) : UInt8 := UInt8.ofNat c.toNat

theorem toNat_digitByte {c : Char} (digit : c.isDigit) : (digitByte c).toNat = c.toNat := by
  have bounds := toNat_of_isDigit digit
  simp only [digitByte, UInt8.toNat_ofNat']
  omega

theorem utf8EncodeChar_of_isDigit {c : Char} (digit : c.isDigit) :
    String.utf8EncodeChar c = [digitByte c] := by
  have bounds := toNat_of_isDigit digit
  have small : c.val.toNat ≤ 127 := by
    show c.toNat ≤ 127
    omega
  unfold String.utf8EncodeChar
  simp only [small, if_true]
  rfl

/-- A greater digit in front outweighs all places behind it. -/
theorem lead_lt_iff {scale lead other rest last : Nat} (small : rest < scale) (few : last < scale) :
    scale * lead + rest < scale * other + last ↔ lead < other ∨ lead = other ∧ rest < last := by
  rcases Nat.lt_trichotomy lead other with less | rfl | greater
  · have scaled := Nat.mul_le_mul_left scale (Nat.succ_le_of_lt less)
    rw [Nat.mul_succ] at scaled
    omega
  · omega
  · have scaled := Nat.mul_le_mul_left scale (Nat.succ_le_of_lt greater)
    rw [Nat.mul_succ] at scaled
    omega

theorem digitByte_lt_iff {c d : Char} (first : c.isDigit) (second : d.isDigit) :
    digitByte c < digitByte d ↔ c.toNat - 48 < d.toNat - 48 := by
  have left := toNat_of_isDigit first
  have right := toNat_of_isDigit second
  rw [UInt8.lt_iff_toNat_lt, toNat_digitByte first, toNat_digitByte second]
  omega

theorem digitByte_eq_iff {c d : Char} (first : c.isDigit) (second : d.isDigit) :
    digitByte c = digitByte d ↔ c.toNat - 48 = d.toNat - 48 := by
  have left := toNat_of_isDigit first
  have right := toNat_of_isDigit second
  rw [← UInt8.toNat_inj, toNat_digitByte first, toNat_digitByte second]
  omega

/-- Numerals of one length stand in the order of their numbers. -/
theorem map_digitByte_lt_iff {cs ds : List Char} (sameLength : cs.length = ds.length)
    (first : ∀ c ∈ cs, c.isDigit) (second : ∀ d ∈ ds, d.isDigit) :
    cs.map digitByte < ds.map digitByte ↔
      Nat.ofDigitChars 10 cs 0 < Nat.ofDigitChars 10 ds 0 := by
  induction cs generalizing ds with
  | nil =>
      obtain rfl : ds = [] := by simpa using sameLength.symm
      simp
  | cons c cs ih =>
      cases ds with
      | nil => simp at sameLength
      | cons d ds =>
          have shorter : cs.length = ds.length := by simpa using sameLength
          rw [List.forall_mem_cons] at first second
          have small := ofDigitChars_lt first.2
          have few := ofDigitChars_lt second.2
          rw [shorter] at small
          rw [List.map_cons, List.map_cons, List.cons_lt_cons_iff, ih shorter first.2 second.2,
            digitByte_lt_iff first.1 second.1, digitByte_eq_iff first.1 second.1,
            ofDigitChars_cons_zero, ofDigitChars_cons_zero, shorter, lead_lt_iff small few]

/-- Numerals of one length are equal when their numbers are. -/
theorem map_digitByte_eq_iff {cs ds : List Char} (sameLength : cs.length = ds.length)
    (first : ∀ c ∈ cs, c.isDigit) (second : ∀ d ∈ ds, d.isDigit) :
    cs.map digitByte = ds.map digitByte ↔
      Nat.ofDigitChars 10 cs 0 = Nat.ofDigitChars 10 ds 0 := by
  have before := map_digitByte_lt_iff sameLength first second
  have after := map_digitByte_lt_iff sameLength.symm second first
  constructor
  · intro same
    rw [same] at before after
    have irreflexive := List.lt_irrefl (ds.map digitByte)
    exact Nat.le_antisymm (Nat.not_lt.mp (irreflexive ∘ after.mpr))
      (Nat.not_lt.mp (irreflexive ∘ before.mpr))
  · intro same
    exact List.le_antisymm (fun late => (after.mp late).ne' same)
      (fun early => (before.mp early).ne same)

end PhaseBench
