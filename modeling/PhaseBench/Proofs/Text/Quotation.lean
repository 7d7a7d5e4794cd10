import Mathlib
import PhaseBench.Text.Quoted

/-!
# Quoted text read back

A quoted text ends where it seems to end, whatever follows it (`readQuoted?_quote`): a quote
inside is escaped, a backslash is written twice and so never takes the closing quote, and the
digits of a code point stop at a brace. So a text can be read from the beginning of a longer
one, and different texts are quoted differently (`quote_injective`). A quoted text has only
printable characters (`isPrintable_of_mem_quote`), hence no line breaks and no other controls.
-/

namespace PhaseBench.Text

/-! ## The reader -/

/-- The value of a hexadecimal digit. -/
def hexValue? (c : Char) : Option Nat :=
  if '0' ≤ c ∧ c ≤ '9' then some (c.toNat - 48)
  else if 'a' ≤ c ∧ c ≤ 'f' then some (c.toNat - 87)
  else none

/-- What a character stands for behind a backslash. -/
def escapedBy? : Char → Option Char
  | '0' => some '\x00'
  | 't' => some '\t'
  | 'n' => some '\n'
  | 'r' => some '\r'
  | '"' => some '"'
  | '\\' => some '\\'
  | _ => none

/-- What the reader of a quoted text has to expect. -/
inductive Expecting
  | character
  | escape
  | brace
  | digits (value : Nat)

/-- Reads a quoted text up to its closing quote, and gives what follows. -/
def readFrom : Expecting → List Char → Option (List Char × List Char)
  | _, [] => none
  | .character, c :: rest =>
    if c = '"' then some ([], rest)
    else if c = '\\' then readFrom .escape rest
    else (readFrom .character rest).map (Prod.map (c :: ·) id)
  | .escape, c :: rest =>
    if c = 'u' then readFrom .brace rest
    else (escapedBy? c).bind fun d => (readFrom .character rest).map (Prod.map (d :: ·) id)
  | .brace, c :: rest => if c = '\x7b' then readFrom (.digits 0) rest else none
  | .digits value, c :: rest =>
    if c = '\x7d' then (readFrom .character rest).map (Prod.map (Char.ofNat value :: ·) id)
    else (hexValue? c).bind fun digit => readFrom (.digits (16 * value + digit)) rest

/-- The text that is quoted at the beginning of a longer one, and what follows it. -/
def readQuoted? : List Char → Option (String × List Char)
  | '"' :: rest => (readFrom .character rest).map (Prod.map String.ofList id)
  | _ => none

/-! ## Hexadecimal digits -/

theorem hexValue?_digitChar {d : Nat} (small : d < 16) : hexValue? (Nat.digitChar d) = some d := by
  revert d
  decide

theorem digitChar_ne_brace {d : Nat} (small : d < 16) : Nat.digitChar d ≠ '\x7d' := by
  revert d
  decide

theorem readFrom_digitChar {d : Nat} (small : d < 16) (value : Nat) (rest : List Char) :
    readFrom (.digits value) (Nat.digitChar d :: rest) =
      readFrom (.digits (16 * value + d)) rest := by
  rw [readFrom, if_neg (digitChar_ne_brace small), hexValue?_digitChar small, Option.bind_some]

/-- The last digit of a numeral with several is read after the numeral of the others. -/
theorem readFrom_toDigits (n : Nat) (rest : List Char) :
    readFrom (.digits 0) (Nat.toDigits 16 n ++ rest) = readFrom (.digits n) rest := by
  induction n using Nat.strong_induction_on generalizing rest with
  | _ n ih =>
      by_cases small : n < 16
      · rw [Nat.toDigits_of_lt_base small, List.singleton_append, readFrom_digitChar small,
          Nat.mul_zero, Nat.zero_add]
      · rw [Nat.toDigits_of_base_le (by decide) (Nat.le_of_not_lt small), List.append_assoc,
          ih (n / 16) (by omega), List.singleton_append,
          readFrom_digitChar (Nat.mod_lt n (by decide)), Nat.div_add_mod]

/-! ## Characters -/

theorem readFrom_codeEscape (c : Char) (rest : List Char) :
    readFrom .character (codeEscape c ++ rest) =
      (readFrom .character rest).map (Prod.map (c :: ·) id) := by
  have digits : readFrom .character (codeEscape c ++ rest) =
      readFrom (.digits 0) (Nat.toDigits 16 c.toNat ++ '\x7d' :: rest) := by
    simp [codeEscape, readFrom]
  rw [digits, readFrom_toDigits, readFrom, if_pos rfl, Char.ofNat_toNat]

/-- Whatever a character is quoted as, it is read back and the reader goes on behind it. -/
theorem readFrom_quoteChar (c : Char) (rest : List Char) :
    readFrom .character (quoteChar c ++ rest) =
      (readFrom .character rest).map (Prod.map (c :: ·) id) := by
  unfold quoteChar
  split_ifs with nul tab newline carriage quoteMark backslash printable
  · subst nul; rfl
  · subst tab; rfl
  · subst newline; rfl
  · subst carriage; rfl
  · subst quoteMark; rfl
  · subst backslash; rfl
  · rw [List.singleton_append, readFrom, if_neg quoteMark, if_neg backslash]
  · exact readFrom_codeEscape c rest

/-! ## Texts -/

theorem toList_quote (text : String) :
    (quote text).toList = '"' :: (text.toList.flatMap quoteChar ++ ['"']) :=
  String.toList_ofList

theorem readFrom_flatMap_quoteChar (cs rest : List Char) :
    readFrom .character (cs.flatMap quoteChar ++ '"' :: rest) = some (cs, rest) := by
  induction cs with
  | nil => rfl
  | cons c cs ih =>
      rw [List.flatMap_cons, List.append_assoc, readFrom_quoteChar, ih]
      rfl

/-- A quoted text is read back from whatever it begins. -/
theorem readQuoted?_quote (text : String) (rest : List Char) :
    readQuoted? ((quote text).toList ++ rest) = some (text, rest) := by
  rw [toList_quote, List.cons_append, List.append_assoc, List.singleton_append, readQuoted?,
    readFrom_flatMap_quoteChar, Option.map_some, Prod.map_apply, String.ofList_toList, id]

theorem quote_injective : Function.Injective quote := by
  intro a b same
  have read := readQuoted?_quote a []
  rw [same, readQuoted?_quote, Option.some_inj] at read
  exact (congrArg Prod.fst read).symm

/-! ## What quoted text shows -/

/-- Holds for the control characters, line breaks among them. -/
def isControl (c : Char) : Bool := c.toNat < 0x20 || (0x7F ≤ c.toNat && c.toNat ≤ 0x9F)

/-- No control is printable. -/
theorem isControl_eq_false_of_isPrintable {c : Char} (printable : isPrintable c = true) :
    isControl c = false := by
  have controls : shapeless = (0x7F, 0xA0) :: shapeless.tail := rfl
  unfold isPrintable at printable
  split at printable
  · next ascii =>
      rw [decide_eq_true_eq] at printable
      simp only [isControl, Bool.or_eq_false_iff, Bool.and_eq_false_iff, decide_eq_false_iff_not]
      omega
  · next beyond =>
      rw [controls] at printable
      simp only [Ranges.has, List.any_cons, Bool.not_eq_true', Bool.or_eq_false_iff,
        Bool.and_eq_false_iff, decide_eq_false_iff_not] at printable
      simp only [isControl, Bool.or_eq_false_iff, Bool.and_eq_false_iff, decide_eq_false_iff_not]
      omega

/-- Nor are the two separators that break a line. -/
theorem ne_separator_of_isPrintable {c : Char} (printable : isPrintable c = true) :
    c ≠ '\u2028' ∧ c ≠ '\u2029' := by
  have line : isPrintable '\u2028' = false := by decide +kernel
  have paragraph : isPrintable '\u2029' = false := by decide +kernel
  constructor
  · rintro rfl
    rw [line] at printable
    cases printable
  · rintro rfl
    rw [paragraph] at printable
    cases printable

theorem isPrintable_digitChar {d : Nat} (small : d < 16) :
    isPrintable (Nat.digitChar d) = true := by
  revert d
  decide

theorem isPrintable_of_mem_toDigits {base n : Nat} (several : 1 < base) (few : base ≤ 16)
    {c : Char} (member : c ∈ Nat.toDigits base n) : isPrintable c = true := by
  induction n using Nat.strong_induction_on with
  | _ n ih =>
      by_cases small : n < base
      · rw [Nat.toDigits_of_lt_base small, List.mem_singleton] at member
        rw [member]
        exact isPrintable_digitChar (small.trans_le few)
      · rw [Nat.toDigits_of_base_le several (Nat.le_of_not_lt small), List.mem_append,
          List.mem_singleton] at member
        rcases member with before | rfl
        · exact ih (n / base) (Nat.div_lt_self (by omega) several) before
        · exact isPrintable_digitChar ((Nat.mod_lt n (by omega)).trans_le few)

theorem isPrintable_of_mem_codeEscape {c d : Char} (member : d ∈ codeEscape c) :
    isPrintable d = true := by
  simp only [codeEscape, List.mem_append, List.mem_cons, List.not_mem_nil, or_false] at member
  rcases member with ((rfl | rfl | rfl) | digit) | rfl
  · decide
  · decide
  · decide
  · exact isPrintable_of_mem_toDigits (by decide) (by decide) digit
  · decide

theorem isPrintable_of_mem_pair {a b d : Char} (first : isPrintable a = true)
    (second : isPrintable b = true) (member : d ∈ [a, b]) : isPrintable d = true := by
  simp only [List.mem_cons, List.not_mem_nil, or_false] at member
  rcases member with rfl | rfl
  · exact first
  · exact second

theorem isPrintable_of_mem_quoteChar {c d : Char} (member : d ∈ quoteChar c) :
    isPrintable d = true := by
  unfold quoteChar at member
  split_ifs at member with nul tab newline carriage quoteMark backslash printable
  -- A backslash and one other character in the first six cases.
  iterate 6 exact isPrintable_of_mem_pair (by decide) (by decide) member
  · rw [List.mem_singleton.mp member]
    exact printable
  · exact isPrintable_of_mem_codeEscape member

theorem isPrintable_of_mem_quote {text : String} {d : Char} (member : d ∈ (quote text).toList) :
    isPrintable d = true := by
  rw [toList_quote, List.mem_cons, List.mem_append, List.mem_singleton] at member
  rcases member with rfl | inside | rfl
  · decide
  · obtain ⟨c, -, here⟩ := List.mem_flatMap.mp inside
    exact isPrintable_of_mem_quoteChar here
  · decide

end PhaseBench.Text
