import CodeSense.Text.Runs

/-!
# Blank characters

A character is blank when its bidirectional class is a separator or white space,
or its category is a space separator.
-/

namespace CodeSense.Text

def blankRuns : List Run := [
  ⟨0x9, 0xd, 1⟩, ⟨0x1c, 0x20, 1⟩, ⟨0x85, 0x85, 1⟩, ⟨0xa0, 0xa0, 1⟩, ⟨0x1680, 0x1680, 1⟩,
  ⟨0x2000, 0x200a, 1⟩, ⟨0x2028, 0x2029, 1⟩, ⟨0x202f, 0x202f, 1⟩, ⟨0x205f, 0x205f, 1⟩,
  ⟨0x3000, 0x3000, 1⟩]

def isBlank (c : Char) : Bool := Run.holds blankRuns c

end CodeSense.Text
