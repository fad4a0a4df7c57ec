import CodeSense.Command.Words

/-!
# Writing request lines

Words in single quotes. A single quote itself is written between double quotes.
-/

namespace CodeSense.Words

def encodeChar (c : Char) : List Char :=
  if c = '\'' then ['\'', '"', '\'', '"', '\''] else [c]

def encodeWord (w : String) : List Char :=
  '\'' :: w.toList.flatMap encodeChar ++ ['\'']

/-- Between its quotes, an encoded word is read letter by letter. -/
theorem splitFrom_encodeChar (w rest done : List Char) :
    splitFrom (.single done) (w.flatMap encodeChar ++ '\'' :: rest) =
      splitFrom (.word (done ++ w)) rest := by
  induction w generalizing done with
  | nil => simp [splitFrom, step]
  | cons c w ih =>
    by_cases h : c = '\''
    · simp [encodeChar, h, splitFrom, step, plain, isSeparator, ih]
    · simp [encodeChar, h, splitFrom, step, ih]

/-- A command as a line that splits into its words again. -/
def encodeLine (words : List String) : String :=
  String.ofList ([' '].intercalate (words.map encodeWord) ++ ['\n'])

end CodeSense.Words
