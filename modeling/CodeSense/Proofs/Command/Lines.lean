import CodeSense.Command.Words

/-!
# Lines and their words

A line that is not blank has a word, if it splits at all. A text that ends with a line end and
what follows it do not share a line. Within a line there is no line end but at its end, and so it
is with its words.
-/

namespace CodeSense

namespace Text

theorem lines_ne_nil {cs : List Char} (h : cs ≠ []) : lines cs ≠ [] := by
  cases cs with
  | nil => exact absurd rfl h
  | cons c cs =>
    unfold lines
    split
    · simp
    · split <;> simp

theorem lines_append (a b : List Char) :
    lines (a ++ '\n' :: b) = lines (a ++ ['\n']) ++ lines b := by
  induction a with
  | nil => simp [lines]
  | cons c a ih =>
    by_cases hc : c = '\n'
    · simp [lines, hc, ih]
    · have hne : lines (a ++ ['\n']) ≠ [] := lines_ne_nil (by simp)
      obtain ⟨line, more, hlines⟩ := List.exists_cons_of_ne_nil hne
      simp [lines, hc, ih, hlines]

theorem count_newline_le {cs line : List Char} (h : line ∈ lines cs) : line.count '\n' ≤ 1 := by
  induction cs generalizing line with
  | nil => cases h
  | cons c cs ih =>
    unfold lines at h
    split at h
    · rename_i hc
      rcases List.mem_cons.mp h with rfl | h
      · simp [hc]
      · exact ih h
    · rename_i hc
      split at h
      · rw [List.mem_singleton.mp h, List.count_singleton]
        split <;> omega
      · rename_i first more hlines
        rw [hlines] at ih
        rcases List.mem_cons.mp h with rfl | h
        · rw [List.count_cons_of_ne hc]
          exact ih (List.mem_cons_self ..)
        · exact ih (List.mem_cons_of_mem _ h)

end Text

namespace Words

theorem isBlank_of_isSeparator {c : Char} (h : isSeparator c = true) : Text.isBlank c = true := by
  have hc : c = ' ' ∨ c = '\t' ∨ c = '\r' ∨ c = '\n' := by simpa [isSeparator, or_assoc] using h
  rcases hc with rfl | rfl | rfl | rfl <;> decide

theorem plain_ne_between (w : List Char) (c : Char) : plain w c ≠ .between := by
  unfold plain
  split
  · simp
  · split
    · simp
    · split <;> simp

/-- Only separators between words leave the reader where it was. -/
theorem step_between {p : Place} {c : Char} (h : step p c = (none, .between)) :
    p = .between ∧ isSeparator c = true := by
  cases p with
  | between =>
    refine ⟨rfl, ?_⟩
    by_cases hc : isSeparator c = true
    · exact hc
    · simp [step, hc, plain_ne_between] at h
  | word w =>
    by_cases hc : isSeparator c = true
    · simp [step, hc] at h
    · simp [step, hc, plain_ne_between] at h
  | single w => by_cases hc : c = '\'' <;> simp [step, hc] at h
  | double w => by_cases hc : c = '"' <;> by_cases hc' : c = '\\' <;> simp [step, hc, hc'] at h
  | escaped w => simp [step] at h
  | doubleEscaped w => simp [step] at h

theorem splitFrom_eq_nil {p : Place} {cs : List Char} (h : splitFrom p cs = .ok []) :
    p = .between ∧ ∀ c ∈ cs, isSeparator c = true := by
  induction cs generalizing p with
  | nil => cases p <;> simp [splitFrom, finish] at h ⊢
  | cons c cs ih =>
    unfold splitFrom at h
    split at h
    · rename_i q hstep
      obtain ⟨rfl, hcs⟩ := ih h
      obtain ⟨rfl, hc⟩ := step_between hstep
      exact ⟨rfl, List.forall_mem_cons.mpr ⟨hc, hcs⟩⟩
    · rename_i w q hstep
      cases hrest : splitFrom q cs with
      | error e => rw [hrest] at h; cases h
      | ok more => rw [hrest] at h; cases h

theorem split_ne_nil {line : String} (hblank : isBlankLine line = false) : split line ≠ .ok [] := by
  intro h
  have hnil : splitFrom .between line.toList = .ok [] := by
    unfold split at h
    cases hs : splitFrom .between line.toList with
    | error e => rw [hs] at h; cases h
    | ok ws =>
      rw [hs] at h
      rw [List.map_eq_nil_iff.mp (Except.ok.inj h)]
  have hall : isBlankLine line = true :=
    List.all_eq_true.mpr fun c hc => isBlank_of_isSeparator ((splitFrom_eq_nil hnil).2 c hc)
  rw [hblank] at hall
  cases hall

def Place.letters : Place → List Char
  | .between => []
  | .word w | .escaped w | .single w | .double w | .doubleEscaped w => w

theorem plain_letters (w : List Char) (c : Char) :
    (plain w c).letters.count '\n' ≤ w.count '\n' + [c].count '\n' := by
  unfold plain
  split
  · simp [Place.letters]
  · split
    · simp [Place.letters]
    · split <;> simp [Place.letters]

theorem step_letters (p : Place) (c : Char) :
    (∀ w, (step p c).1 = some w → w.count '\n' ≤ p.letters.count '\n') ∧
      (step p c).2.letters.count '\n' ≤ p.letters.count '\n' + [c].count '\n' := by
  cases p with
  | between =>
    refine ⟨by simp [step], ?_⟩
    by_cases hc : isSeparator c = true
    · simp [step, Place.letters, hc]
    · simpa [step, hc, Place.letters] using plain_letters [] c
  | word w =>
    by_cases hc : isSeparator c = true
    · simp [step, Place.letters, hc]
    · have hstep : step (.word w) c = (none, plain w c) := by simp [step, hc]
      rw [hstep]
      exact ⟨by simp, plain_letters w c⟩
  | escaped w => simp [step, Place.letters]
  | single w => by_cases hc : c = '\'' <;> simp [step, Place.letters, hc]
  | double w =>
    by_cases hc : c = '"' <;> by_cases hc' : c = '\\' <;> simp [step, Place.letters, hc, hc']
  | doubleEscaped w =>
    by_cases hc : c = '\\' ∨ c = '"'
    · simp [step, Place.letters, hc]
    · simp [step, Place.letters, hc, List.count_cons]

theorem count_newline_le {p : Place} {cs : List Char} {ws : List (List Char)}
    (h : splitFrom p cs = .ok ws) :
    ∀ w ∈ ws, w.count '\n' ≤ p.letters.count '\n' + cs.count '\n' := by
  induction cs generalizing p ws with
  | nil =>
    cases p with
    | between => cases h; simp
    | word w => cases h; simp [Place.letters]
    | _ => cases h
  | cons c cs ih =>
    obtain ⟨hword, hletters⟩ := step_letters p c
    have hcount : (c :: cs).count '\n' = [c].count '\n' + cs.count '\n' := by
      rw [← List.count_append]
      rfl
    unfold splitFrom at h
    split at h
    · rename_i q hstep
      rw [hstep] at hletters
      intro w hw
      have hle := ih h w hw
      dsimp only at hletters
      omega
    · rename_i w₀ q hstep
      rw [hstep] at hword hletters
      cases hrest : splitFrom q cs with
      | error e => rw [hrest] at h; cases h
      | ok more =>
        rw [hrest] at h
        cases h
        intro w hw
        rcases List.mem_cons.mp hw with rfl | hw
        · have hle := hword w rfl
          omega
        · have hle := ih hrest w hw
          dsimp only at hletters
          omega

/-- A word of a line has at most one line end. -/
theorem count_newline_word {text line : String} {words : List String} {word : String}
    (hline : line ∈ lines text) (hsplit : split line = .ok words) (hword : word ∈ words) :
    word.toList.count '\n' ≤ 1 := by
  obtain ⟨cs, hcs, rfl⟩ := List.mem_map.mp hline
  unfold split at hsplit
  cases hs : splitFrom .between (String.ofList cs).toList with
  | error e => rw [hs] at hsplit; cases hsplit
  | ok ws =>
    rw [hs] at hsplit
    cases hsplit
    obtain ⟨w, hw, rfl⟩ := List.mem_map.mp hword
    have hle := count_newline_le hs w hw
    have hone := Text.count_newline_le hcs
    rw [String.toList_ofList] at hle ⊢
    simp only [Place.letters, List.count_nil] at hle
    omega

end Words

end CodeSense
