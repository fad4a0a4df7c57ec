import CodeSense.Completion.Candidate
import CodeSense.Text.Case.Fold
import CodeSense.Text.Case.Lower
import CodeSense.Text.Case.Upper

/-!
# Matching candidates by what was typed
-/

namespace CodeSense

inductive MatchStyle where
  | exact | caseInsensitive | smartCase
  deriving DecidableEq, Repr

namespace MatchStyle

def name : MatchStyle → String
  | exact => "exact"
  | caseInsensitive => "case-insensitive"
  | smartCase => "smart-case"

/-- Reads a style's name in any case. -/
def parse? (s : String) : Option MatchStyle :=
  [exact, caseInsensitive, smartCase].find? (·.name == Text.lower s)

/-- Smart case minds the case as soon as an upper-case letter is typed. -/
def forTyped (style : MatchStyle) (typed : String) : MatchStyle :=
  match style with
  | smartCase => if typed.toList.any Text.isUpper then exact else caseInsensitive
  | style => style

def accepts (style : MatchStyle) (typed text : String) : Bool :=
  match style.forTyped typed with
  | caseInsensitive => (Text.fold typed.toList).isPrefixOf (Text.fold text.toList)
  | _ => typed.toList.isPrefixOf text.toList

end MatchStyle

/-- The candidates among the completions that match, in the order of the completions. -/
def candidates (rs : List Completion) (typed : String) (style : MatchStyle) : List Candidate :=
  (rs.filterMap Completion.decode).filter fun c => style.accepts typed c.typedText

end CodeSense
