/-!
# Columns and lines

Text laid out in columns: widths count characters, a text wider than its column
is kept whole.
-/

namespace PhaseBench.Text

/-- A character written `n` times. -/
def rule (c : Char) (n : Nat) : String := String.ofList (List.replicate n c)

/-- The text at the left of a column. -/
def padEnd (width : Nat) (text : String) : String :=
  text ++ rule ' ' (width - text.length)

/-- The text at the right of a column. -/
def padStart (width : Nat) (text : String) : String :=
  rule ' ' (width - text.length) ++ text

/-- The lines one after the other, each ended by a line break. -/
def unlines (lines : List String) : String :=
  String.join (lines.map (· ++ "\n"))

/-- The decimal numeral of a number. -/
def decimal (n : Nat) : String := String.ofList (Nat.toDigits 10 n)

theorem length_padEnd (width : Nat) (text : String) :
    (padEnd width text).length = max width text.length := by
  simp [padEnd, rule]
  omega

theorem length_padStart (width : Nat) (text : String) :
    (padStart width text).length = max width text.length := by
  simp [padStart, rule]
  omega

end PhaseBench.Text
