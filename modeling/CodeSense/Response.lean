import CodeSense.Text.Decimal

/-!
# Responses

What the editor reads: lists in parentheses, integers, bare symbols, and strings in
double quotes, in which a backslash makes the next character literal.
-/

namespace CodeSense.Response

def success : String := "(success . t)"

def nil : String := "nil"

def endOfResponse : String := "\n;;EOT\n"

inductive Atom where
  | text (s : String)
  | number (n : Int)
  deriving DecidableEq, Repr

/-- Only backslashes and double quotes need an escape. -/
def escapeChar (c : Char) : List Char :=
  if c = '\\' ∨ c = '"' then ['\\', c] else [c]

def quote (s : String) : String :=
  String.ofList ('"' :: s.toList.flatMap escapeChar ++ ['"'])

def number (n : Int) : String := toString n

def Atom.render : Atom → String
  | .text s => quote s
  | .number n => Response.number n

def parens (items : List String) : String :=
  "(" ++ String.intercalate " " items ++ ")"

def list (items : List Atom) : String := parens (items.map Atom.render)

/-! ## Errors -/

/-- An error payload: its kind, a message for the user, and what the message is about. -/
def error (kind message : String) (details : List Atom) : String :=
  "(error . " ++ parens (kind :: quote message :: details.map Atom.render) ++ ")"

def fileReadError (file source : String) : String :=
  error "file-read-error" "failed to read unsaved buffer" [.text file, .text source]

def parseError (file : String) : String :=
  error "parse-error" "failed to parse file" [.text file]

def completeError (file : String) (line column : Int) : String :=
  error "complete-error" "failed to perform code completion"
    [.text file, .number line, .number column]

/-! ## Long numbers -/

/-- Whether a value can be written at all: a number may be too long for that. -/
def Atom.isWritable : Atom → Bool
  | .text _ => true
  | .number n => Text.isWritable n

/-- A text with these values in it, unless one of them cannot be written. -/
def written? (values : List Atom) (text : String) : Option String :=
  if values.all Atom.isWritable then some text else none

def list? (items : List Atom) : Option String := written? items (list items)

def error? (kind message : String) (details : List Atom) : Option String :=
  written? details (error kind message details)

end CodeSense.Response
