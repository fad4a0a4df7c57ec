import CodeSense.Fault
import CodeSense.Response

/-!
# Diagnostics
-/

namespace CodeSense

inductive Severity where
  | ignored | note | warning | error | fatal
  deriving DecidableEq, Repr

namespace Severity

def tag : Severity → String
  | ignored => "ignored"
  | note => "note"
  | warning => "warning"
  | error => "error"
  | fatal => "fatal"

def ofCode : Int → Except Fault Severity
  | 0 => .ok ignored
  | 1 => .ok note
  | 2 => .ok warning
  | 3 => .ok error
  | 4 => .ok fatal
  | code => .error (.unknownSeverity code)

end Severity

structure Diagnostic where
  file : String
  line : Int
  column : Int
  offset : Int
  severity : Severity
  message : String
  deriving DecidableEq, Repr

namespace Diagnostic

open Response

def text (d : Diagnostic) : String :=
  parens [quote d.file, number d.line, number d.column, number d.offset, d.severity.tag,
    quote d.message]

def numbers (d : Diagnostic) : List Int := [d.line, d.column, d.offset]

def render? (d : Diagnostic) : Option String := written? (d.numbers.map .number) d.text

end Diagnostic

structure Listing (α : Type) where
  items : List α
  broken : Option Fault := none

namespace Listing

/-- Items put into words one by one, up to one that cannot be. -/
def ofItems (render? : α → Option String) (broken : Option Fault) : List α → Listing String
  | [] => { items := [], broken }
  | a :: rest =>
    match render? a with
    | none => { items := [], broken := some .tooManyDigits }
    | some text =>
      let more := ofItems render? broken rest
      { more with items := text :: more.items }

def spell (render? : α → Option String) (listing : Listing α) : Listing String :=
  ofItems render? listing.broken listing.items

end Listing

end CodeSense
