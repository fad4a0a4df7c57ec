/-!
# Keyed lists

A finite map that remembers in which order its keys came in. Giving a present key a new
value keeps its place; a key that was removed comes back at the end.
-/

namespace CodeSense

abbrev Keyed (κ α : Type) := List (κ × α)

namespace Keyed

variable {κ α : Type} [DecidableEq κ]

def get? (m : Keyed κ α) (k : κ) : Option α :=
  (m.find? (·.1 = k)).map (·.2)

def has (m : Keyed κ α) (k : κ) : Bool := m.any (·.1 = k)

def put (m : Keyed κ α) (k : κ) (a : α) : Keyed κ α :=
  if m.has k then m.map fun p => if p.1 = k then (k, a) else p else m ++ [(k, a)]

/-- Of several values of a key, the last counts. -/
def ofList (entries : List (κ × α)) : Keyed κ α :=
  entries.foldl (fun m p => m.put p.1 p.2) []

def erase (m : Keyed κ α) (k : κ) : Keyed κ α :=
  m.filter (·.1 ≠ k)

end Keyed

end CodeSense
