import CodeSense.Fault
import CodeSense.Text.Newline
import CodeSense.Text.Blank

/-!
# Request lines

A request is one line of quoted words. Between single quotes every character stands for
itself, between double quotes a backslash escapes only a backslash or a double quote, and
outside of quotes it escapes any character.
-/

namespace CodeSense.Words

/-- The characters that end a word outside of quotes. -/
def isSeparator (c : Char) : Bool := c == ' ' || c == '\t' || c == '\r' || c == '\n'

/-- Where in a line the reader stands, with the word read so far. -/
inductive Place where
  | between
  | word (w : List Char)
  | escaped (w : List Char)
  | single (w : List Char)
  | double (w : List Char)
  | doubleEscaped (w : List Char)
  deriving DecidableEq, Repr

/-- An unquoted character that is no separator, after the letters `w` of its word. -/
def plain (w : List Char) (c : Char) : Place :=
  if c = '\\' then .escaped w
  else if c = '\'' then .single w
  else if c = '"' then .double w
  else .word (w ++ [c])

def step : Place → Char → Option (List Char) × Place
  | .between, c => (none, if isSeparator c then .between else plain [] c)
  | .word w, c => if isSeparator c then (some w, .between) else (none, plain w c)
  | .escaped w, c => (none, .word (w ++ [c]))
  | .single w, c => (none, if c = '\'' then .word w else .single (w ++ [c]))
  | .double w, c =>
    (none, if c = '"' then .word w else if c = '\\' then .doubleEscaped w else .double (w ++ [c]))
  | .doubleEscaped w, c =>
    (none, .double (w ++ if c = '\\' ∨ c = '"' then [c] else ['\\', c]))

/-- What the end of the line makes of the last word. -/
def finish : Place → Except LineError (List (List Char))
  | .between => .ok []
  | .word w => .ok [w]
  | .single _ | .double _ => .error .unclosedQuote
  | .escaped _ | .doubleEscaped _ => .error .danglingEscape

def splitFrom : Place → List Char → Except LineError (List (List Char))
  | p, [] => finish p
  | p, c :: rest =>
    match step p c with
    | (none, q) => splitFrom q rest
    | (some w, q) => (w :: ·) <$> splitFrom q rest

def split (line : String) : Except LineError (List String) :=
  (·.map String.ofList) <$> splitFrom .between line.toList

/-- Words before the first `--`, and the words after it. -/
def splitFlags (args : List String) : List String × List String :=
  (args.takeWhile (· ≠ "--"), (args.dropWhile (· ≠ "--")).drop 1)

/-! ## Streams -/

def isBlankLine (line : String) : Bool := line.toList.all Text.isBlank

def lines (text : String) : List String := (Text.lines text.toList).map String.ofList

/-- The commands of a text, up to the first line that does not split. -/
def commands (text : String) : List (List String) × Option LineError :=
  go (lines text)
where
  go : List String → List (List String) × Option LineError
    | [] => ([], none)
    | line :: rest =>
      if isBlankLine line then go rest
      else
        match split line with
        | .ok words => let (more, e) := go rest; (words :: more, e)
        | .error e => ([], some e)

end CodeSense.Words
