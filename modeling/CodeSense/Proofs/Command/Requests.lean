import CodeSense.Command.Quoting
import CodeSense.Proofs.Command.Lines

/-!
# Request streams

A quoted word is read as itself whatever stands in it, a line of quoted words as these words, and a
text of such lines as the commands that they were written for, with blank lines or without:
`requests_read_back`.
-/

namespace CodeSense

namespace Text

theorem lines_of_body {body : List Char} (h : '\n' ∉ body) (rest : List Char) :
    lines (body ++ '\n' :: rest) = (body ++ ['\n']) :: lines rest := by
  induction body with
  | nil => simp [lines]
  | cons c body ih =>
    rw [List.mem_cons, not_or] at h
    have hc : c ≠ '\n' := fun e => h.1 e.symm
    simp [lines, hc, ih h.2]

/-- Cutting a text into lines loses nothing. -/
theorem flatten_lines (cs : List Char) : (lines cs).flatten = cs := by
  induction cs with
  | nil => rfl
  | cons c cs ih =>
    unfold lines
    split
    · rw [List.flatten_cons, ih]
      rfl
    · split
      · rename_i hnil
        rw [hnil] at ih
        simp [← ih]
      · rename_i line more hlines
        rw [hlines, List.flatten_cons] at ih
        simp [← ih]

end Text

namespace Words

/-! ## Lines of quoted words -/

theorem splitFrom_encodeWord (w : String) (rest : List Char) :
    splitFrom .between (encodeWord w ++ rest) = splitFrom (.word w.toList) rest := by
  have hword := splitFrom_encodeChar w.toList rest []
  simpa [encodeWord, splitFrom, step, plain, isSeparator] using hword

def encodeBody (words : List String) : List Char := [' '].intercalate (words.map encodeWord)

theorem toList_encodeLine (words : List String) :
    (encodeLine words).toList = encodeBody words ++ ['\n'] := by
  rw [encodeLine, String.toList_ofList, encodeBody]

theorem encodeBody_cons (w next : String) (words : List String) :
    encodeBody (w :: next :: words) = encodeWord w ++ ' ' :: encodeBody (next :: words) := by
  simp [encodeBody, List.intercalate]

theorem splitFrom_encodeBody (words : List String) :
    splitFrom .between (encodeBody words ++ ['\n']) = .ok (words.map String.toList) := by
  induction words with
  | nil => rfl
  | cons w words ih =>
    cases words with
    | nil =>
      have hbody : encodeBody [w] = encodeWord w := by simp [encodeBody, List.intercalate]
      rw [hbody, splitFrom_encodeWord]
      rfl
    | cons next words =>
      -- the blank ends the word, and what follows it is the line of the other words
      have hblank (rest : List Char) : splitFrom (.word w.toList) (' ' :: rest) =
          (w.toList :: ·) <$> splitFrom .between rest := rfl
      rw [encodeBody_cons, List.append_assoc, splitFrom_encodeWord, List.cons_append, hblank, ih]
      rfl

theorem split_encodeLine (words : List String) : split (encodeLine words) = .ok words := by
  have hwords : (words.map String.toList).map String.ofList = words := by simp
  rw [split, toList_encodeLine, splitFrom_encodeBody]
  exact congrArg Except.ok hwords

theorem newline_notMem_encodeWord {w : String} (h : '\n' ∉ w.toList) : '\n' ∉ encodeWord w := by
  have hchars : '\n' ∉ w.toList.flatMap encodeChar := by
    intro hmem
    obtain ⟨c, hc, hmem⟩ := List.mem_flatMap.mp hmem
    by_cases hquote : c = '\''
    · simp [encodeChar, hquote] at hmem
    · have hnl : '\n' = c := by simpa [encodeChar, hquote] using hmem
      exact h (hnl ▸ hc)
  simp [encodeWord, hchars]

theorem newline_notMem_encodeBody {words : List String} (h : ∀ w ∈ words, '\n' ∉ w.toList) :
    '\n' ∉ encodeBody words := by
  induction words with
  | nil => simp [encodeBody]
  | cons w words ih =>
    have hw : '\n' ∉ encodeWord w := newline_notMem_encodeWord (h w (List.mem_cons_self ..))
    cases words with
    | nil => simpa [encodeBody, List.intercalate] using hw
    | cons next words =>
      have hmore := ih fun v hv => h v (List.mem_cons_of_mem _ hv)
      simp [encodeBody_cons, hw, hmore]

theorem isBlankLine_encodeLine {words : List String} (h : words ≠ []) :
    isBlankLine (encodeLine words) = false := by
  obtain ⟨w, more, rfl⟩ := List.exists_cons_of_ne_nil h
  -- even the empty word leaves its quotes
  have hquote : '\'' ∈ (encodeLine (w :: more)).toList := by
    rw [toList_encodeLine]
    cases more with
    | nil => simp [encodeBody, encodeWord, List.intercalate]
    | cons next more => simp [encodeBody_cons, encodeWord]
  have hink : Text.isBlank '\'' = false := by decide
  exact List.all_eq_false.mpr ⟨'\'', hquote, by simp [hink]⟩

/-! ## Texts of requests -/

/-- The text writes the requests one after the other, each on its line, with blank text before,
between and after them as long as no request shares its line with it. -/
inductive Writes : List (List String) → List Char → Prop
  | blank {tail : List Char} (h : ∀ c ∈ tail, Text.isBlank c = true) : Writes [] tail
  | gap {requests : List (List String)} {gap text : List Char}
      (h : ∀ c ∈ gap, Text.isBlank c = true) (more : Writes requests text) :
      Writes requests (gap ++ '\n' :: text)
  | request {requests : List (List String)} {text : List Char} (words : List String)
      (more : Writes requests text) : Writes (words :: requests) ((encodeLine words).toList ++ text)

theorem commands_go_blank {blanks : List String} (h : ∀ line ∈ blanks, isBlankLine line = true)
    (rest : List String) : commands.go (blanks ++ rest) = commands.go rest := by
  induction blanks with
  | nil => rfl
  | cons line blanks ih =>
    have hline := h line (List.mem_cons_self ..)
    have hmore := ih fun l hl => h l (List.mem_cons_of_mem _ hl)
    simp only [List.cons_append, commands.go, hline, if_true, hmore]

/-- Blank text has blank lines only. -/
theorem isBlankLine_of_lines {cs : List Char} (h : ∀ c ∈ cs, Text.isBlank c = true) :
    ∀ line ∈ (Text.lines cs).map String.ofList, isBlankLine line = true := by
  intro line hline
  obtain ⟨chars, hchars, rfl⟩ := List.mem_map.mp hline
  refine List.all_eq_true.mpr fun c hc => h c ?_
  rw [String.toList_ofList] at hc
  rw [← Text.flatten_lines cs]
  exact List.mem_flatten.mpr ⟨chars, hchars, hc⟩

theorem lines_encodeLine {words : List String} (h : ∀ w ∈ words, '\n' ∉ w.toList)
    (rest : List Char) :
    Text.lines ((encodeLine words).toList ++ rest) =
      (encodeLine words).toList :: Text.lines rest := by
  have hlines := Text.lines_of_body (newline_notMem_encodeBody h) rest
  rw [toList_encodeLine, List.append_assoc]
  exact hlines

theorem commands_go_encodeLine {words : List String} (h : words ≠ []) (rest : List String) :
    commands.go (encodeLine words :: rest) =
      (words :: (commands.go rest).1, (commands.go rest).2) := by
  have hblank := isBlankLine_encodeLine h
  simp only [commands.go, hblank, split_encodeLine, Bool.false_eq_true, if_false]

/-- Requests read back. The words of a request are any but for line ends, empty ones included. -/
theorem requests_read_back {requests : List (List String)} {text : String}
    (hwrites : Writes requests text.toList)
    (hwords : ∀ words ∈ requests, words ≠ [] ∧ ∀ w ∈ words, '\n' ∉ w.toList) :
    commands text = (requests, none) := by
  rw [commands, lines]
  generalize text.toList = cs at hwrites ⊢
  induction hwrites with
  | blank h =>
    have hgo := commands_go_blank (isBlankLine_of_lines h) []
    rw [List.append_nil] at hgo
    exact hgo
  | @gap requests gap text h _ ih =>
    have hend : ∀ c ∈ gap ++ ['\n'], Text.isBlank c = true := by
      intro c hc
      rcases List.mem_append.mp hc with hc | hc
      · exact h c hc
      · rw [List.mem_singleton.mp hc]
        decide
    rw [Text.lines_append, List.map_append, commands_go_blank (isBlankLine_of_lines hend)]
    exact ih hwords
  | @request requests text words _ ih =>
    obtain ⟨hne, hlf⟩ := hwords words (List.mem_cons_self ..)
    have hmore := ih fun ws hws => hwords ws (List.mem_cons_of_mem _ hws)
    rw [lines_encodeLine hlf, List.map_cons, String.ofList_toList, commands_go_encodeLine hne, hmore]

/-- An empty word, quotes, a backslash at the end of a word and a word of blanks, with exotic blank
lines around them. -/
theorem requests_read_back_exotic :
    commands "\u3000\r\n'' 'it'\"'\"'s' 'c\\'\n\n'\u2028 ' '\"\"'\n\x1c\t" =
      ([["", "it's", "c\\"], ["\u2028 ", "\"\""]], none) := by
  have hfirst : ∀ c ∈ ['\u3000', '\r'], Text.isBlank c = true := by simp; decide
  have hempty : ∀ c ∈ ([] : List Char), Text.isBlank c = true := by simp
  have hlast : ∀ c ∈ ['\x1c', '\t'], Text.isBlank c = true := by simp; decide
  have hwrites := Writes.gap hfirst (.request ["", "it's", "c\\"]
    (.gap hempty (.request ["\u2028 ", "\"\""] (.blank hlast))))
  refine requests_read_back ?_ (by decide)
  rw [toList_encodeLine, toList_encodeLine] at hwrites
  exact hwrites

end Words

end CodeSense
