import CodeSense.Response
import Mathlib.Data.List.Infix

/-!
# The frame and the responses before it

The frame starts with a line end and a semicolon. Responses have semicolons only inside of quoted
strings, so if no such string holds the frame, then none arises where texts meet: `Safe`. The frame
overlaps with itself in a single line end, so a text is cut where the frames were written:
`pieces_append`.
-/

namespace CodeSense.Response

def Marked (s : String) : Prop := endOfResponse.toList <:+: s.toList

instance (s : String) : Decidable (Marked s) :=
  inferInstanceAs (Decidable (_ <:+: _))

/-- The text holds no frame, and completes none that was begun with a line end. -/
structure Clear (cs : List Char) : Prop where
  unmarked : ¬ endOfResponse.toList <:+: cs
  head : cs.head? ≠ some ';'

/-- A text that can be written before any clear one. -/
def Safe (s : String) : Prop := ∀ rest, Clear rest → Clear (s.toList ++ rest)

theorem Clear.cons {c : Char} {cs : List Char} (hc : c ≠ ';') (h : Clear cs) : Clear (c :: cs) := by
  refine ⟨fun hinfix => ?_, by simpa using hc⟩
  rcases List.infix_cons_iff.mp hinfix with hstart | hinfix
  · obtain ⟨rest, hrest⟩ := hstart
    obtain ⟨-, rfl⟩ := List.cons.inj hrest
    exact h.head rfl
  · exact h.unmarked hinfix

theorem clear_nil : Clear [] := ⟨by decide, by simp⟩

theorem safe_empty : Safe "" := fun _ h => h

theorem Safe.append {a b : String} (ha : Safe a) (hb : Safe b) : Safe (a ++ b) := by
  intro rest h
  rw [String.toList_append, List.append_assoc]
  exact ha _ (hb rest h)

theorem safe_of_plain {cs : List Char} (h : ';' ∉ cs) : Safe (String.ofList cs) := by
  intro rest hrest
  rw [String.toList_ofList]
  induction cs with
  | nil => exact hrest
  | cons c cs ih =>
    rw [List.mem_cons, not_or] at h
    exact (ih h.2).cons fun hc => h.1 hc.symm

theorem Safe.clear {s : String} (h : Safe s) : Clear (s.toList ++ ['\n']) :=
  h _ (clear_nil.cons (by decide))

theorem Safe.not_marked {s : String} (h : Safe s) : ¬ Marked s := by
  have hclear := h [] clear_nil
  rw [List.append_nil] at hclear
  exact hclear.unmarked

/-! ## Strings -/

theorem escapeChar_plain {c : Char} (h : ¬ (c = '\\' ∨ c = '"')) : escapeChar c = [c] := by
  simp [escapeChar, h]

theorem escapeChar_escaped {c : Char} (h : c = '\\' ∨ c = '"') : escapeChar c = ['\\', c] := by
  simp [escapeChar, h]

/-- What needs no escape is found in an escaped string only where it stood in the string. -/
theorem prefix_of_prefix_escaped {p v rest : List Char} (hquote : '"' ∉ p) (hescape : '\\' ∉ p)
    (h : p <+: v.flatMap escapeChar ++ '"' :: rest) : p <+: v := by
  induction p generalizing v with
  | nil => exact List.nil_prefix
  | cons d p ih =>
    simp only [List.mem_cons, not_or] at hquote hescape
    cases v with
    | nil =>
      obtain ⟨hd, -⟩ := List.cons_prefix_cons.mp h
      exact absurd hd.symm hquote.1
    | cons c v =>
      by_cases hc : c = '\\' ∨ c = '"'
      · rw [List.flatMap_cons, escapeChar_escaped hc] at h
        obtain ⟨hd, -⟩ := List.cons_prefix_cons.mp h
        exact absurd hd.symm hescape.1
      · rw [List.flatMap_cons, escapeChar_plain hc] at h
        obtain ⟨rfl, hp⟩ := List.cons_prefix_cons.mp h
        exact List.cons_prefix_cons.mpr ⟨rfl, ih hquote.2 hescape.2 hp⟩

theorem unmarked_escaped {v rest : List Char} (hv : ¬ endOfResponse.toList <:+: v)
    (hrest : ¬ endOfResponse.toList <:+: '"' :: rest) :
    ¬ endOfResponse.toList <:+: v.flatMap escapeChar ++ '"' :: rest := by
  induction v with
  | nil => exact hrest
  | cons c v ih =>
    rw [List.infix_cons_iff, not_or] at hv
    have hcs := ih hv.2
    by_cases hc : c = '\\' ∨ c = '"'
    · -- a frame starts neither at the escape nor at the character that it escapes
      rw [List.flatMap_cons, escapeChar_escaped hc]
      simp only [List.cons_append, List.nil_append, List.infix_cons_iff]
      rintro (hstart | hstart | hinfix)
      · obtain ⟨hd, -⟩ := List.cons_prefix_cons.mp hstart
        cases hd
      · obtain ⟨rfl, -⟩ := List.cons_prefix_cons.mp hstart
        cases hc <;> contradiction
      · exact hcs hinfix
    · intro hinfix
      rw [List.flatMap_cons, escapeChar_plain hc, List.singleton_append, List.cons_append] at hinfix
      rcases List.infix_cons_iff.mp hinfix with hstart | hinfix
      · rw [← List.cons_append, ← List.singleton_append, ← escapeChar_plain hc,
          ← List.flatMap_cons] at hstart
        exact hv.1 (prefix_of_prefix_escaped (by decide) (by decide) hstart)
      · exact hcs hinfix

theorem safe_quote {v : String} (hv : ¬ Marked v) : Safe (quote v) := by
  intro rest hrest
  have hclose : Clear ('"' :: rest) := hrest.cons (by decide)
  have hinner := unmarked_escaped hv hclose.unmarked
  rw [show (quote v).toList ++ rest = '"' :: (v.toList.flatMap escapeChar ++ '"' :: rest) by
    simp [quote]]
  refine ⟨fun hinfix => ?_, by simp⟩
  rcases List.infix_cons_iff.mp hinfix with hstart | hinfix
  · obtain ⟨hd, -⟩ := List.cons_prefix_cons.mp hstart
    cases hd
  · exact hinner hinfix

theorem safe_number (n : Int) : Safe (number n) := by
  have hdigits : ∀ m : Nat, Safe m.repr := by
    intro m
    rw [Nat.repr_eq_ofList_toDigits]
    refine safe_of_plain fun hm => ?_
    have := Nat.isDigit_of_mem_toDigits (by decide) (by decide) hm
    contradiction
  cases n with
  | ofNat m => exact hdigits m
  | negSucc m =>
    have hminus : Safe "-" := safe_of_plain (by decide)
    exact hminus.append (hdigits m.succ)

theorem safe_join {items : List String} (h : ∀ item ∈ items, Safe item) :
    Safe (String.join items) := by
  induction items with
  | nil => exact safe_empty
  | cons item items ih =>
    obtain ⟨hitem, hitems⟩ := List.forall_mem_cons.mp h
    rw [String.join_cons]
    exact hitem.append (ih hitems)

theorem safe_intercalate {items : List String} (h : ∀ item ∈ items, Safe item) :
    Safe (String.intercalate " " items) := by
  induction items with
  | nil => exact safe_empty
  | cons item items ih =>
    obtain ⟨hitem, hitems⟩ := List.forall_mem_cons.mp h
    cases items with
    | nil => simpa using hitem
    | cons next items =>
      rw [String.intercalate_cons_cons]
      exact (hitem.append (safe_of_plain (by decide))).append (ih hitems)

theorem safe_parens {items : List String} (h : ∀ item ∈ items, Safe item) : Safe (parens items) :=
  ((safe_of_plain (by decide)).append (safe_intercalate h)).append (safe_of_plain (by decide))

/-! ## Cutting at frames -/

def cut : Nat → List Char → List (List Char)
  | _, [] => [[]]
  | skip + 1, _ :: cs => cut skip cs
  | 0, c :: cs =>
    if endOfResponse.toList <+: c :: cs then [] :: cut (endOfResponse.length - 1) cs
    else
      match cut 0 cs with
      | [] => [[c]]
      | piece :: more => (c :: piece) :: more

/-- The texts between the frames of a text, from the left. -/
def pieces (s : String) : List String := (cut 0 s.toList).map String.ofList

theorem pieces_ofList (cs : List Char) : pieces (.ofList cs) = (cut 0 cs).map .ofList := by
  simp [pieces]

theorem cut_skip (a rest : List Char) : cut a.length (a ++ rest) = cut 0 rest := by
  induction a with
  | nil => rfl
  | cons c a ih => exact ih

theorem cut_frame (rest : List Char) : cut 0 (endOfResponse.toList ++ rest) = [] :: cut 0 rest := by
  have hstart : endOfResponse.toList <+: endOfResponse.toList ++ rest := List.prefix_append ..
  have hskip := cut_skip endOfResponse.toList.tail rest
  rw [show endOfResponse.toList ++ rest = '\n' :: (endOfResponse.toList.tail ++ rest) from rfl]
    at hstart ⊢
  rw [cut, if_pos hstart]
  exact congrArg _ hskip

theorem cut_cons {c : Char} {cs piece : List Char} {more : List (List Char)}
    (hc : ¬ endOfResponse.toList <+: c :: cs) (hcs : cut 0 cs = piece :: more) :
    cut 0 (c :: cs) = (c :: piece) :: more := by
  rw [cut, if_neg hc, hcs]

/-- A text up to its only `c` is found before a `c` only if it ends there. -/
theorem prefix_of_prefix_last {c : Char} {body x rest : List Char} (hbody : c ∉ body)
    (h : body ++ [c] <+: x ++ c :: rest) : body ++ [c] <+: x ++ [c] := by
  induction body generalizing x with
  | nil =>
    cases x with
    | nil => exact List.prefix_rfl
    | cons d x =>
      obtain ⟨hd, -⟩ := List.cons_prefix_cons.mp h
      exact List.cons_prefix_cons.mpr ⟨hd, List.nil_prefix⟩
  | cons d body ih =>
    rw [List.mem_cons, not_or] at hbody
    cases x with
    | nil =>
      obtain ⟨hd, -⟩ := List.cons_prefix_cons.mp h
      exact absurd hd.symm hbody.1
    | cons e x =>
      obtain ⟨hd, hrest⟩ := List.cons_prefix_cons.mp h
      exact List.cons_prefix_cons.mpr ⟨hd, ih hbody.2 hrest⟩

theorem not_prefix_before_frame {c : Char} {cs rest : List Char}
    (h : ¬ endOfResponse.toList <:+: c :: cs ++ ['\n']) :
    ¬ endOfResponse.toList <+: c :: cs ++ (endOfResponse.toList ++ rest) := by
  intro hstart
  obtain ⟨rfl, htail⟩ := List.cons_prefix_cons.mp hstart
  -- an earlier frame could share no more than its last line end with the frame that follows
  have hlast : [';', ';', 'E', 'O', 'T'] ++ ['\n'] <+: cs ++ ['\n'] :=
    prefix_of_prefix_last (by decide) htail
  exact h (List.cons_prefix_cons.mpr ⟨rfl, hlast⟩).isInfix

theorem cut_append {cs : List Char} (h : ¬ endOfResponse.toList <:+: cs ++ ['\n'])
    (rest : List Char) :
    cut 0 (cs ++ (endOfResponse.toList ++ rest)) = cs :: cut 0 rest := by
  induction cs with
  | nil => exact cut_frame rest
  | cons c cs ih =>
    refine cut_cons (not_prefix_before_frame h) (ih fun hinfix => h ?_)
    exact List.infix_cons_iff.mpr (.inr hinfix)

theorem cut_unmarked {cs : List Char} (h : ¬ endOfResponse.toList <:+: cs) : cut 0 cs = [cs] := by
  induction cs with
  | nil => rfl
  | cons c cs ih =>
    rw [List.infix_cons_iff, not_or] at h
    exact cut_cons h.1 (ih h.2)

theorem pieces_append {s : String} (h : Safe s) (rest : String) :
    pieces (s ++ endOfResponse ++ rest) = s :: pieces rest := by
  simp [pieces, cut_append h.clear.unmarked]

theorem pieces_unmarked {s : String} (h : ¬ Marked s) : pieces s = [s] := by
  simp [pieces, cut_unmarked h]

end CodeSense.Response
