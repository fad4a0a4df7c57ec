import Mathlib.Data.List.Induction
import CodeSense.Command.Words

/-!
# The grammar of request lines

A line is words with separators around them, and a word is one or more segments: a plain letter, an
escaped letter, or a text in quotes. Each relation between a text and what it stands for grows at
its end, as the reader does. `Behind` says what lies behind the reader, for every place where it can
stand: a step of the reader keeps it true, and no other place has such a text behind it. Splitting
accepts the lines of the grammar, and tells apart the two ways to break one off: `split_exact`.
-/

namespace CodeSense.Words

/-! ## Lines -/

inductive Quoted : List Char → List Char → Prop
  | nil : Quoted [] []
  | letter {t w : List Char} {c : Char} (h : Quoted t w) (hc : c ≠ '\\') (hc' : c ≠ '"') :
      Quoted (t ++ [c]) (w ++ [c])
  | escape {t w : List Char} {c : Char} (h : Quoted t w) (hc : c = '\\' ∨ c = '"') :
      Quoted (t ++ ['\\', c]) (w ++ [c])
  /-- Before any other letter a backslash is one itself. -/
  | backslash {t w : List Char} {c : Char} (h : Quoted t w) (hc : c ≠ '\\') (hc' : c ≠ '"') :
      Quoted (t ++ ['\\', c]) (w ++ ['\\', c])

inductive Segment : List Char → List Char → Prop
  | plain {c : Char} (hsep : isSeparator c = false) (hesc : c ≠ '\\') (hquote : c ≠ '\'')
      (hquote' : c ≠ '"') : Segment [c] [c]
  | escaped (c : Char) : Segment ['\\', c] [c]
  | single {w : List Char} (h : '\'' ∉ w) : Segment ('\'' :: w ++ ['\'']) w
  | double {t w : List Char} (h : Quoted t w) : Segment ('"' :: t ++ ['"']) w

inductive Word : List Char → List Char → Prop
  | segment {t w : List Char} (h : Segment t w) : Word t w
  | snoc {t w s v : List Char} (hw : Word t w) (h : Segment s v) : Word (t ++ s) (w ++ v)

/-- Words that each have a separator after them, with more separators anywhere around them. -/
inductive Lead : List Char → List (List Char) → Prop
  | nil : Lead [] []
  | blank {t : List Char} {ws : List (List Char)} {c : Char} (h : Lead t ws)
      (hc : isSeparator c = true) : Lead (t ++ [c]) ws
  | word {t s w : List Char} {ws : List (List Char)} {c : Char} (h : Lead t ws) (hw : Word s w)
      (hc : isSeparator c = true) : Lead (t ++ s ++ [c]) (ws ++ [w])

inductive Line : List Char → List (List Char) → Prop
  | blank {t : List Char} {ws : List (List Char)} (h : Lead t ws) : Line t ws
  | word {t s w : List Char} {ws : List (List Char)} (h : Lead t ws) (hw : Word s w) :
      Line (t ++ s) (ws ++ [w])

inductive InQuotes : List Char → Prop
  | single {t body : List Char} {ws : List (List Char)} (h : Line t ws) (hb : '\'' ∉ body) :
      InQuotes (t ++ '\'' :: body)
  | double {t body v : List Char} {ws : List (List Char)} (h : Line t ws) (hb : Quoted body v) :
      InQuotes (t ++ '"' :: body)
  | escaping {t body v : List Char} {ws : List (List Char)} (h : Line t ws) (hb : Quoted body v) :
      InQuotes (t ++ '"' :: body ++ ['\\'])

inductive Escaping : List Char → Prop
  | plain {t : List Char} {ws : List (List Char)} (h : Line t ws) : Escaping (t ++ ['\\'])
  | quoted {t body v : List Char} {ws : List (List Char)} (h : Line t ws) (hb : Quoted body v) :
      Escaping (t ++ '"' :: body ++ ['\\'])

/-! ## The reader's way -/

/-- The words that the reader ends on its way through a text, and where it then stands. -/
def run : Place → List Char → List (List Char) × Place
  | p, [] => ([], p)
  | p, c :: cs => ((step p c).1.toList ++ (run (step p c).2 cs).1, (run (step p c).2 cs).2)

theorem run_append (p : Place) (a b : List Char) :
    run p (a ++ b) = ((run p a).1 ++ (run (run p a).2 b).1, (run (run p a).2 b).2) := by
  induction a generalizing p with
  | nil => simp [run]
  | cons c a ih => simp [run, ih]

theorem splitFrom_eq (p : Place) (cs : List Char) :
    splitFrom p cs = ((run p cs).1 ++ ·) <$> finish (run p cs).2 := by
  induction cs generalizing p with
  | nil => cases h : finish p <;> simp [splitFrom, run, h]
  | cons c cs ih =>
    unfold splitFrom
    rcases hstep : step p c with ⟨_ | w, q⟩
    · simp [run, hstep, ih]
    · cases hfin : finish (run q cs).2 <;> simp [run, hstep, ih, hfin]

/-- Where a segment may begin: between words, or in one with the letters `w`. -/
inductive Place.Opens : Place → List Char → Prop
  | between : Opens .between []
  | word (w : List Char) : Opens (.word w) w

variable {t s w v body : List Char} {ws : List (List Char)} {p : Place} {c : Char}

theorem Place.Opens.step (h : p.Opens w) (hc : isSeparator c = false) :
    step p c = (none, plain w c) := by
  cases h <;> simp [Words.step, hc]

theorem run_single (h : '\'' ∉ t) (w : List Char) : run (.single w) t = ([], .single (w ++ t)) := by
  induction t generalizing w with
  | nil => simp [run]
  | cons c t ih =>
    rw [List.mem_cons, not_or] at h
    simp [run, step, Ne.symm h.1, ih h.2]

theorem run_quoted (h : Quoted t v) (w : List Char) :
    run (.double w) t = ([], .double (w ++ v)) := by
  induction h with
  | nil => simp [run]
  | letter _ hc hc' ih => simp [run_append, ih, run, step, hc, hc']
  | escape _ hc ih => simp [run_append, ih, run, step, hc]
  | backslash _ hc hc' ih => simp [run_append, ih, run, step, hc, hc']

theorem run_segment (h : Segment t v) (hp : p.Opens w) : run p t = ([], .word (w ++ v)) := by
  have hrun (c : Char) (hc : isSeparator c = false) (cs : List Char) :
      run p (c :: cs) = run (plain w c) cs := by
    simp [run, hp.step hc]
  cases h with
  | plain hsep hesc hquote hquote' =>
    rw [hrun _ hsep]
    simp [run, plain, hesc, hquote, hquote']
  | escaped c =>
    rw [hrun _ (by decide)]
    simp [run, plain, step]
  | single hbody =>
    rw [List.cons_append, hrun _ (by decide), run_append]
    simp [plain, run_single hbody, run, step]
  | double hbody =>
    rw [List.cons_append, hrun _ (by decide), run_append]
    simp [plain, run_quoted hbody, run, step]

theorem run_word (h : Word t w) : run .between t = ([], .word w) := by
  induction h with
  | segment h => exact run_segment h .between
  | snoc _ h ih => rw [run_append, ih, run_segment h (.word _)]; rfl

theorem run_lead (h : Lead t ws) : run .between t = (ws, .between) := by
  induction h with
  | nil => rfl
  | blank _ hc ih => simp [run_append, ih, run, step, hc]
  | word _ hw hc ih => simp [run_append, ih, run_word hw, run, step, hc]

/-! ## What lies behind the reader -/

inductive Start : List Char → List (List Char) → List Char → Prop
  | fresh {t : List Char} {ws : List (List Char)} (h : Lead t ws) : Start t ws []
  | within {t s w : List Char} {ws : List (List Char)} (h : Lead t ws) (hw : Word s w) :
      Start (t ++ s) ws w

inductive Behind : List Char → List (List Char) → Place → Prop
  | between {t : List Char} {ws : List (List Char)} (h : Lead t ws) : Behind t ws .between
  | word {t s w : List Char} {ws : List (List Char)} (h : Lead t ws) (hw : Word s w) :
      Behind (t ++ s) ws (.word w)
  | escaped {t w : List Char} {ws : List (List Char)} (h : Start t ws w) :
      Behind (t ++ ['\\']) ws (.escaped w)
  | single {t w body : List Char} {ws : List (List Char)} (h : Start t ws w) (hb : '\'' ∉ body) :
      Behind (t ++ '\'' :: body) ws (.single (w ++ body))
  | double {t w body v : List Char} {ws : List (List Char)} (h : Start t ws w)
      (hb : Quoted body v) : Behind (t ++ '"' :: body) ws (.double (w ++ v))
  | doubleEscaped {t w body v : List Char} {ws : List (List Char)} (h : Start t ws w)
      (hb : Quoted body v) : Behind (t ++ '"' :: body ++ ['\\']) ws (.doubleEscaped (w ++ v))

theorem Start.line (h : Start t ws w) : ∃ ws', Line t ws' := by
  cases h with
  | fresh h => exact ⟨_, .blank h⟩
  | within h hw => exact ⟨_, .word h hw⟩

theorem Line.start (h : Line t ws) : ∃ done w, Start t done w := by
  cases h with
  | blank h => exact ⟨_, _, .fresh h⟩
  | word h hw => exact ⟨_, _, .within h hw⟩

theorem Start.segment (h : Start t ws w) (hs : Segment s v) :
    Behind (t ++ s) ws (.word (w ++ v)) := by
  cases h with
  | fresh h => exact .word h (.segment hs)
  | within h hw =>
    rw [List.append_assoc]
    exact .word h (hw.snoc hs)

theorem Start.plain (h : Start t ws w) (hc : isSeparator c = false) :
    Behind (t ++ [c]) ws (plain w c) := by
  unfold Words.plain
  split
  · rename_i hesc
    exact hesc ▸ .escaped h
  · rename_i hesc
    split
    · rename_i hquote
      have hbehind := Behind.single h (List.not_mem_nil (a := '\''))
      rw [List.append_nil] at hbehind
      exact hquote ▸ hbehind
    · rename_i hquote
      split
      · rename_i hquote'
        have hbehind := Behind.double h .nil
        rw [List.append_nil] at hbehind
        exact hquote' ▸ hbehind
      · rename_i hquote'
        exact h.segment (.plain hc hesc hquote hquote')

theorem behind_step (h : Behind t ws p) (c : Char) :
    Behind (t ++ [c]) (ws ++ (step p c).1.toList) (step p c).2 := by
  cases h with
  | between h =>
    by_cases hc : isSeparator c = true
    · simpa [step, hc] using Behind.between (h.blank hc)
    · simpa [step, hc] using (Start.fresh h).plain (by simpa using hc)
  | word h hw =>
    by_cases hc : isSeparator c = true
    · simpa [step, hc] using Behind.between (h.word hw hc)
    · simpa [step, hc] using (Start.within h hw).plain (by simpa using hc)
  | escaped h => simpa [step] using h.segment (.escaped c)
  | single h hb =>
    by_cases hc : c = '\''
    · simpa [step, hc] using h.segment (.single hb)
    · simpa [step, hc] using Behind.single h (List.not_mem_append hb (by simpa using Ne.symm hc))
  | double h hb =>
    by_cases hc : c = '"'
    · simpa [step, hc] using h.segment (.double hb)
    · by_cases hc' : c = '\\'
      · simpa [step, hc, hc'] using Behind.doubleEscaped h hb
      · simpa [step, hc, hc'] using Behind.double h (hb.letter hc' hc)
  | doubleEscaped h hb =>
    by_cases hc : c = '\\' ∨ c = '"'
    · simpa [step, hc] using Behind.double h (hb.escape hc)
    · have hcs := not_or.mp hc
      simpa [step, hc] using Behind.double h (hb.backslash hcs.1 hcs.2)

theorem behind_run (t : List Char) : Behind t (run .between t).1 (run .between t).2 := by
  induction t using List.reverseRecOn with
  | nil => exact .between .nil
  | append_singleton t c ih =>
    rw [run_append]
    simpa [run] using behind_step ih c

theorem run_start (h : Start t ws w) : ∃ p, p.Opens w ∧ run .between t = (ws, p) := by
  cases h with
  | fresh h => exact ⟨_, .between, run_lead h⟩
  | within h hw =>
    refine ⟨_, .word _, ?_⟩
    rw [run_append, run_lead h, run_word hw]
    simp

/-- From where a segment may begin, the reader goes on as in a word. -/
theorem run_start_cons (h : Start t ws w) (hc : isSeparator c = false) (cs : List Char) :
    run .between (t ++ c :: cs) = (ws ++ (run (plain w c) cs).1, (run (plain w c) cs).2) := by
  obtain ⟨p, hp, hrun⟩ := run_start h
  rw [run_append, hrun]
  simp [run, hp.step hc]

theorem run_of_behind (h : Behind t ws p) : run .between t = (ws, p) := by
  cases h with
  | between h => exact run_lead h
  | word h hw => rw [run_append, run_lead h, run_word hw]; simp
  | escaped h =>
    rw [run_start_cons h (by decide)]
    simp [run, plain]
  | single h hb =>
    rw [run_start_cons h (by decide)]
    simp [plain, run_single hb]
  | double h hb =>
    rw [run_start_cons h (by decide)]
    simp [plain, run_quoted hb]
  | doubleEscaped h hb =>
    rw [List.append_assoc, List.cons_append, run_start_cons h (by decide), run_append]
    simp [plain, run_quoted hb, run, step]

/-! ## Splitting -/

def Place.isQuoted : Place → Bool
  | .single _ | .double _ | .doubleEscaped _ => true
  | _ => false

def Place.isEscaping : Place → Bool
  | .escaped _ | .doubleEscaped _ => true
  | _ => false

theorem inQuotes_iff : InQuotes t ↔ (run .between t).2.isQuoted = true := by
  constructor
  · intro h
    cases h with
    | single h hb =>
      obtain ⟨done, w, hstart⟩ := h.start
      rw [run_of_behind (.single hstart hb)]
      rfl
    | double h hb =>
      obtain ⟨done, w, hstart⟩ := h.start
      rw [run_of_behind (.double hstart hb)]
      rfl
    | escaping h hb =>
      obtain ⟨done, w, hstart⟩ := h.start
      rw [run_of_behind (.doubleEscaped hstart hb)]
      rfl
  · intro hquoted
    have hbehind := behind_run t
    generalize run .between t = r at hquoted hbehind
    obtain ⟨ws, p⟩ := r
    cases hbehind with
    | between | word | escaped => cases hquoted
    | single hstart hb =>
      obtain ⟨_, h⟩ := hstart.line
      exact .single h hb
    | double hstart hb =>
      obtain ⟨_, h⟩ := hstart.line
      exact .double h hb
    | doubleEscaped hstart hb =>
      obtain ⟨_, h⟩ := hstart.line
      exact .escaping h hb

theorem escaping_iff : Escaping t ↔ (run .between t).2.isEscaping = true := by
  constructor
  · intro h
    cases h with
    | plain h =>
      obtain ⟨done, w, hstart⟩ := h.start
      rw [run_of_behind (.escaped hstart)]
      rfl
    | quoted h hb =>
      obtain ⟨done, w, hstart⟩ := h.start
      rw [run_of_behind (.doubleEscaped hstart hb)]
      rfl
  · intro hescaping
    have hbehind := behind_run t
    generalize run .between t = r at hescaping hbehind
    obtain ⟨ws, p⟩ := r
    cases hbehind with
    | between | word | single | double => cases hescaping
    | escaped hstart =>
      obtain ⟨_, h⟩ := hstart.line
      exact .plain h
    | doubleEscaped hstart hb =>
      obtain ⟨_, h⟩ := hstart.line
      exact .quoted h hb

theorem splitFrom_ok_iff : splitFrom .between t = .ok ws ↔ Line t ws := by
  constructor
  · intro hsplit
    have hbehind := behind_run t
    rw [splitFrom_eq] at hsplit
    generalize run .between t = r at hsplit hbehind
    obtain ⟨done, p⟩ := r
    cases hbehind with
    | between h =>
      cases hsplit
      simpa using Line.blank h
    | word h hw =>
      cases hsplit
      exact .word h hw
    | escaped | single | double | doubleEscaped => cases hsplit
  · intro h
    rw [splitFrom_eq]
    cases h with
    | blank h => simp [run_of_behind (.between h), finish]
    | word h hw => simp [run_of_behind (.word h hw), finish]

theorem splitFrom_unclosed_iff :
    splitFrom .between t = .error .unclosedQuote ↔ InQuotes t ∧ ¬ Escaping t := by
  rw [splitFrom_eq, inQuotes_iff, escaping_iff]
  cases (run .between t).2 <;> simp [finish, Place.isQuoted, Place.isEscaping]

theorem splitFrom_dangling_iff :
    splitFrom .between t = .error .danglingEscape ↔ Escaping t := by
  rw [splitFrom_eq, escaping_iff]
  cases (run .between t).2 <;> simp [finish, Place.isEscaping]

theorem split_error_iff {line : String} {e : LineError} :
    split line = .error e ↔ splitFrom .between line.toList = .error e := by
  unfold split
  cases splitFrom .between line.toList <;> simp

theorem split_ok_iff {line : String} {words : List String} :
    split line = .ok words ↔ splitFrom .between line.toList = .ok (words.map String.toList) := by
  have hinj (ws : List (List Char)) :
      ws.map String.ofList = words ↔ ws = words.map String.toList := by
    constructor
    · rintro rfl
      simp
    · rintro rfl
      simp
  unfold split
  cases splitFrom .between line.toList <;> simp [hinj]

/-- **Splitting accepts exactly the grammar.** A text that is no line ends in quotes or with a
backslash that escapes, and the message tells which. -/
theorem split_exact (line : String) :
    (∀ words, split line = .ok words ↔ Line line.toList (words.map String.toList)) ∧
    (split line = .error .unclosedQuote ↔ InQuotes line.toList ∧ ¬ Escaping line.toList) ∧
    (split line = .error .danglingEscape ↔ Escaping line.toList) ∧
    ((∃ words, split line = .ok words) ∨ split line = .error .unclosedQuote ∨
      split line = .error .danglingEscape) ∧
    LineError.unclosedQuote.message = "invalid command line string: No closing quotation" ∧
    LineError.danglingEscape.message = "invalid command line string: No escaped character" := by
  refine ⟨fun words => ?_, ?_, ?_, ?_, rfl, rfl⟩
  · rw [split_ok_iff, splitFrom_ok_iff]
  · rw [split_error_iff, splitFrom_unclosed_iff]
  · rw [split_error_iff, splitFrom_dangling_iff]
  · rcases split line with (_ | _) | words
    · exact .inr (.inl rfl)
    · exact .inr (.inr rfl)
    · exact .inl ⟨words, rfl⟩

example : split "a\\\n'' \t\"\\x\\\"\"'b'" = .ok ["a\n", "\\x\"b"] := by decide

end CodeSense.Words
