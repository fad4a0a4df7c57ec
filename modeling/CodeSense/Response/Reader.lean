import CodeSense.Response

/-!
# Reading responses

The editor's side: a value is a string, an integer, a symbol, a list, or a list with a
dotted tail.
-/

namespace CodeSense.Response

inductive Datum where
  | text (s : String)
  | number (n : Int)
  | symbol (name : String)
  | list (items : List Datum)
  | dotted (items : List Datum) (tail : Datum)

def Atom.datum : Atom → Datum
  | .text s => .text s
  | .number n => .number n

/-- The rest of a string after its opening quote, and what follows the closing one. -/
def readText : List Char → Option (List Char × List Char)
  | [] => none
  | '"' :: rest => some ([], rest)
  | '\\' :: c :: rest => (readText rest).map fun (s, rest) => (c :: s, rest)
  | c :: rest => if c = '\\' then none else (readText rest).map fun (s, rest) => (c :: s, rest)

/-- An escaped string is read back, whatever follows it. -/
theorem readText_escape (s rest : List Char) :
    readText (s.flatMap escapeChar ++ '"' :: rest) = some (s, rest) := by
  induction s with
  | nil => simp [readText]
  | cons c s ih =>
    by_cases h : c = '\\' ∨ c = '"'
    · simp [escapeChar, h, readText, ih]
    · have hq : c ≠ '"' := fun e => h (.inr e)
      have hb : c ≠ '\\' := fun e => h (.inl e)
      simp only [List.flatMap_cons, escapeChar, h, if_false, List.cons_append, List.nil_append]
      rw [readText]
      · simp [hb, ih]
      · exact hq
      · intro _ _ e
        simp_all

def isBlank (c : Char) : Bool := c == ' ' || c == '\n'

def isDelimiter (c : Char) : Bool := isBlank c || c == '(' || c == ')' || c == '"'

/-- A word that some number is written as means the number, and any other is a symbol. -/
def Datum.ofWord (w : String) : Datum :=
  match w.toInt? with
  | some n => if Response.number n = w then .number n else .symbol w
  | none => .symbol w

def Datum.isDot : Datum → Bool
  | .symbol name => name == "."
  | _ => false

mutual

def readDatum : Nat → List Char → Option (Datum × List Char)
  | 0, _ => none
  | fuel + 1, s =>
    match s.dropWhile isBlank with
    | [] => none
    | '(' :: rest => readItems fuel [] rest
    | '"' :: rest => (readText rest).map fun (s, rest) => (.text (String.ofList s), rest)
    | s =>
      match s.takeWhile (!isDelimiter ·) with
      | [] => none
      | w => some (.ofWord (String.ofList w), s.dropWhile (!isDelimiter ·))

/-- The rest of a list after the items `done`. A dot is the mark of a tail only if there are some. -/
def readItems : Nat → List Datum → List Char → Option (Datum × List Char)
  | 0, _, _ => none
  | fuel + 1, done, s =>
    match s.dropWhile isBlank with
    | ')' :: rest => some (.list done, rest)
    | s => do
      let (item, rest) ← readDatum fuel s
      if item.isDot && !done.isEmpty then do
        let (tail, rest) ← readDatum fuel rest
        match rest.dropWhile isBlank with
        | ')' :: rest => return (.dotted done tail, rest)
        | _ => none
      else readItems fuel (done ++ [item]) rest

end

/-- Reads a value. Every step takes a character or closes a list, which bounds their number. -/
def read (s : List Char) : Option (Datum × List Char) := readDatum (2 * s.length + 2) s

end CodeSense.Response
