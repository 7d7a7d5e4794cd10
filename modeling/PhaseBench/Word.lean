/-!
# Words

Numbers of 64 bits: readings, settings and the arithmetic of the host are bounded
by them.
-/

namespace PhaseBench.Word

/-- The number of words. Unsigned numbers lie below it. -/
def count : Nat := Nat.pow 2 64

/-- The number of words whose highest bit is clear. Signed numbers lie below it, and not
below its opposite. -/
def half : Nat := Nat.pow 2 63

end PhaseBench.Word
