import PhaseBench.Double.Basic
import PhaseBench.Text.Column

/-!
# Numbers with two decimal places

The caption of a bar shows its value with exactly two places. The exact value of
the number is rounded to hundredths, the even one on a tie, and the sign of the
number is kept even when nothing but zeros remains.
-/

namespace PhaseBench.Double

/-- The nearest number of hundredths to a magnitude, the even one on a tie. -/
def hundredths (index : Nat) : Nat := divHalfEven (units index * 100) one

/-- A number of hundredths with a point before the last two digits. -/
def hundredthsText (n : Nat) : String :=
  Text.decimal (n / 100) ++ "." ++ Text.decimal (n % 100 / 10) ++ Text.decimal (n % 10)

/-- A number with two decimal places. -/
def fixedText : Double → String
  | .finite negative index => (if negative then "-" else "") ++ hundredthsText (hundredths index)
  | .infinite negative => if negative then "-inf" else "inf"
  | .nan => "NaN"

end PhaseBench.Double
