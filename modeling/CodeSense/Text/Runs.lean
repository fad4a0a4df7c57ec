/-!
# Sets of characters as runs of code points
-/

namespace CodeSense.Text

/-- Every `step`-th code point from `first` to `last`. -/
structure Run where
  first : Nat
  last : Nat
  step : Nat
  deriving DecidableEq

def Run.contains (r : Run) (n : Nat) : Bool :=
  r.first ≤ n && n ≤ r.last && (n - r.first) % r.step == 0

/-- A run whose members all move by the same distance. -/
structure Shift where
  run : Run
  distance : Int

def Shift.find? (table : List Shift) (n : Nat) : Option Nat :=
  (table.find? (·.run.contains n)).map fun s => ((n : Int) + s.distance).toNat

def Run.holds (table : List Run) (c : Char) : Bool :=
  table.any (·.contains c.toNat)

end CodeSense.Text
