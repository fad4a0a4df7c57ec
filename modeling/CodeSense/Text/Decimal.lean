/-!
# Length of decimal numbers
-/

namespace CodeSense.Text

/-- A number with more decimal digits is neither read nor written in decimal. -/
def maxDigits : Nat := 4300

@[irreducible] def isWritable (n : Int) : Bool := n.natAbs < Nat.pow 10 maxDigits

def decimal? (n : Int) : Option String := if isWritable n then some (toString n) else none

end CodeSense.Text
