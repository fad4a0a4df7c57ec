import Mathlib.Data.List.Induction
import Mathlib.Data.List.TakeWhile
import Mathlib.Data.Nat.Digits.Defs
import CodeSense.Command.Integer

/-!
# The grammar of integer arguments

An argument is a literal with a sign before it, or none, and white space around it. The relations
below say what is written and what number is meant, in the characters of all scripts. The reader
brings these into ASCII first. That keeps apart what the grammar tells apart, so that each part of
the reader accepts what the relation of the same part does: `integers_exact`.
-/

namespace CodeSense

namespace Text

/-! ## Tables of characters -/

theorem Run.contains_iff {r : Run} {n : Nat} (hr : r.step = 1) :
    r.contains n = true ↔ r.first ≤ n ∧ n ≤ r.last := by
  simp [Run.contains, hr, Nat.mod_one]

theorem digitValue?_lt {c : Char} {d : Nat} (h : digitValue? c = some d) : d < 10 := by
  obtain ⟨r, -, rfl⟩ := Option.map_eq_some_iff.mp h
  exact Nat.mod_lt _ (by decide)

theorem digitValue?_ascii {c : Char} (hc : c.toNat < 0x80) {d : Nat} :
    digitValue? c = some d ↔ d < 10 ∧ c.toNat = '0'.toNat + d := by
  have htail : ∀ r ∈ digitRuns.tail, 0x80 ≤ r.first ∧ r.step = 1 := by decide
  have hnone : digitRuns.tail.find? (·.contains c.toNat) = none := by
    rw [List.find?_eq_none]
    intro r hr hcontains
    obtain ⟨hfirst, hstep⟩ := htail r hr
    have hrange := (Run.contains_iff hstep).mp hcontains
    omega
  have hruns : digitRuns = ⟨0x30, 0x39, 1⟩ :: digitRuns.tail := rfl
  unfold digitValue?
  rw [hruns, List.find?_cons]
  split
  · rename_i hin
    have hrange := (Run.contains_iff rfl).mp hin
    simp only [Option.map_some, Option.some.injEq, show '0'.toNat = 0x30 from rfl]
    dsimp only at hrange
    omega
  · rename_i hout
    have hrange := (not_congr (Run.contains_iff rfl)).mp (Bool.eq_false_iff.mp hout)
    simp only [hnone, Option.map_none, reduceCtorEq, false_iff, show '0'.toNat = 0x30 from rfl]
    dsimp only at hrange
    omega

theorem digitValue?_blank {c : Char} (h : isBlank c = true) : digitValue? c = none := by
  have hapart : ∀ b ∈ blankRuns, b.step = 1 ∧ ∀ r ∈ digitRuns, r.step = 1 ∧
      (b.last < r.first ∨ r.last < b.first) := by decide
  obtain ⟨b, hb, hin⟩ := List.any_eq_true.mp h
  obtain ⟨hbstep, hapart⟩ := hapart b hb
  unfold digitValue?
  rw [Option.map_eq_none_iff, List.find?_eq_none]
  intro r hr hin'
  obtain ⟨hrstep, hapart⟩ := hapart r hr
  have hrange := (Run.contains_iff hbstep).mp hin
  have hrange' := (Run.contains_iff hrstep).mp hin'
  omega

end Text

namespace Integer

/-! ## Literals -/

/-- White space, as Unicode has it: what is blank but for the four separators of information. -/
def isWhite (c : Char) : Bool := Text.isBlank c && !(0x1C ≤ c.toNat && c.toNat ≤ 0x1F)

inductive Digit (base : Nat) (c : Char) : Nat → Prop
  | decimal {d : Nat} (hc : Text.digitValue? c = some d) (hd : d < base) : Digit base c d
  | letter {k : Nat} (hk : k < 6) (hc : c.toNat = 'a'.toNat + k ∨ c.toNat = 'A'.toNat + k)
      (hd : 10 + k < base) : Digit base c (10 + k)

inductive Digits (base : Nat) : List Char → List Nat → Prop
  | last {c : Char} {d : Nat} (h : Digit base c d) : Digits base [c] [d]
  | next {c : Char} {d : Nat} {s : List Char} {ds : List Nat} (h : Digit base c d)
      (hs : Digits base s ds) : Digits base (c :: s) (d :: ds)
  | gap {c : Char} {d : Nat} {s : List Char} {ds : List Nat} (h : Digit base c d)
      (hs : Digits base s ds) : Digits base (c :: '_' :: s) (d :: ds)

/-- The base that a letter after a zero stands for. -/
def baseOf? : Char → Option Nat
  | 'x' | 'X' => some 16
  | 'o' | 'O' => some 8
  | 'b' | 'B' => some 2
  | _ => none

inductive Literal : List Char → Nat → Prop
  | decimal {s : List Char} {ds : List Nat} (h : Digits 10 s ds)
      (hlength : ds.length ≤ Text.maxDigits) (hzeros : ds.head? = some 0 → ∀ d ∈ ds, d = 0) :
      Literal s (Nat.ofDigits 10 ds.reverse)
  | based {z m : Char} {base : Nat} {s : List Char} {ds : List Nat}
      (hz : Text.digitValue? z = some 0) (hm : baseOf? m = some base) (h : Digits base s ds) :
      Literal (z :: m :: s) (Nat.ofDigits base ds.reverse)
  | gap {z m : Char} {base : Nat} {s : List Char} {ds : List Nat}
      (hz : Text.digitValue? z = some 0) (hm : baseOf? m = some base) (h : Digits base s ds) :
      Literal (z :: m :: '_' :: s) (Nat.ofDigits base ds.reverse)

inductive Signed : List Char → Int → Prop
  | plain {s : List Char} {n : Nat} (h : Literal s n) : Signed s n
  | plus {s : List Char} {n : Nat} (h : Literal s n) : Signed ('+' :: s) n
  | minus {s : List Char} {n : Nat} (h : Literal s n) : Signed ('-' :: s) (-n)

def Written (s : String) (n : Int) : Prop :=
  ∃ lead core trail, s.toList = lead ++ core ++ trail ∧ (∀ c ∈ lead, isWhite c = true) ∧
    (∀ c ∈ trail, isWhite c = true) ∧ Signed core n

/-! ## Into ASCII -/

inductive Brought (c : Char) : Prop
  | ascii (hc : c.toNat < 0x80) (h : toAscii c = c)
  | blank (hc : 0x80 ≤ c.toNat) (hb : Text.isBlank c = true) (h : toAscii c = ' ')
  | digit {d : Nat} (hc : 0x80 ≤ c.toNat) (hb : Text.isBlank c = false)
      (hd : Text.digitValue? c = some d) (h : (toAscii c).toNat = '0'.toNat + d)
  | other (hc : 0x80 ≤ c.toNat) (hb : Text.isBlank c = false)
      (hd : Text.digitValue? c = none) (h : toAscii c = c)

theorem brought (c : Char) : Brought c := by
  by_cases hc : c.toNat < 0x80
  · exact .ascii hc (by simp [toAscii, hc])
  have hc' : 0x80 ≤ c.toNat := Nat.le_of_not_lt hc
  by_cases hb : Text.isBlank c = true
  · exact .blank hc' hb (by simp [toAscii, hc, hb])
  · rcases hd : Text.digitValue? c with _ | d
    · exact .other hc' (by simpa using hb) hd (by simp [toAscii, hc, hb, hd])
    · have hdigits : ∀ d < 10, (Char.ofNat ('0'.toNat + d)).toNat = '0'.toNat + d := by decide
      refine .digit hc' (by simpa using hb) hd ?_
      simpa [toAscii, hc, hb, hd] using hdigits d (Text.digitValue?_lt hd)

theorem isSpace_iff {c : Char} :
    isSpace c = true ↔ c.toNat = 0x20 ∨ 0x09 ≤ c.toNat ∧ c.toNat ≤ 0x0D := by
  simp [isSpace, ← Char.toNat_inj]

theorem isSpace_toAscii (c : Char) : isSpace (toAscii c) = isWhite c := by
  rw [Bool.eq_iff_iff, isSpace_iff]
  cases brought c with
  | ascii hc h =>
    have hall : ∀ n < 0x80, isSpace (Char.ofNat n) = isWhite (Char.ofNat n) := by decide
    have hsame := hall c.toNat hc
    rw [Char.ofNat_toNat] at hsame
    rw [h, ← hsame, isSpace_iff]
  | blank hc hb h =>
    have hcontrol : ¬ (0x1C ≤ c.toNat ∧ c.toNat ≤ 0x1F) := by omega
    simp [h, isWhite, hb, ← Bool.decide_and, hcontrol]
  | digit hc hb hd h => simp [h, isWhite, hb, show '0'.toNat = 0x30 from rfl]; omega
  | other hc hb hd h => simp [h, isWhite, hb]; omega

/-- Signs, underscores and letters stand for themselves only. -/
theorem toAscii_eq_iff {c m : Char} (hm : m.toNat < 0x80) (hblank : m ≠ ' ')
    (hdigit : Text.digitValue? m = none) : toAscii c = m ↔ c = m := by
  cases brought c with
  | ascii hc h => rw [h]
  | blank hc hb h =>
    rw [h]
    refine ⟨fun hspace => absurd hspace.symm hblank, ?_⟩
    rintro rfl
    omega
  | digit hc hb hd h =>
    refine ⟨?_, ?_⟩
    · rintro rfl
      rw [(Text.digitValue?_ascii hm).mpr ⟨Text.digitValue?_lt hd, h⟩] at hdigit
      cases hdigit
    · rintro rfl
      omega
  | other hc hb hd h => rw [h]

theorem toAscii_eq_zero_iff {c : Char} : toAscii c = '0' ↔ Text.digitValue? c = some 0 := by
  rw [← Char.toNat_inj]
  cases brought c with
  | ascii hc h => simp [h, Text.digitValue?_ascii hc]
  | blank hc hb h => simp [h, Text.digitValue?_blank hb]
  | digit hc hb hd h => simp [h, hd]
  | other hc hb hd h =>
    rw [h, hd, show '0'.toNat = 0x30 from rfl]
    simp only [reduceCtorEq, iff_false]
    omega

/-! ## Digits -/

theorem digit?_eq_some_iff {base : Nat} {c : Char} {d : Nat} :
    digit? base c = some d ↔ d < base ∧ (d < 10 ∧ c.toNat = '0'.toNat + d ∨
      10 ≤ d ∧ d < 16 ∧ (c.toNat + 10 = 'a'.toNat + d ∨ c.toNat + 10 = 'A'.toNat + d)) := by
  have hle (a b : Char) : a ≤ b ↔ a.toNat ≤ b.toNat := Iff.rfl
  unfold digit?
  simp only [hle, show '0'.toNat = 48 from rfl, show '9'.toNat = 57 from rfl,
    show 'a'.toNat = 97 from rfl, show 'f'.toNat = 102 from rfl, show 'A'.toNat = 65 from rfl,
    show 'F'.toNat = 70 from rfl]
  split_ifs <;> simp only [Option.some.injEq, false_iff] <;> omega

theorem digit_iff {base : Nat} {c : Char} {d : Nat} :
    Digit base c d ↔ d < base ∧ (Text.digitValue? c = some d ∨
      10 ≤ d ∧ d < 16 ∧ (c.toNat + 10 = 'a'.toNat + d ∨ c.toNat + 10 = 'A'.toNat + d)) := by
  constructor
  · intro h
    cases h with
    | decimal hc hd => exact ⟨hd, .inl hc⟩
    | letter hk hc hd => exact ⟨hd, .inr (by omega)⟩
  · rintro ⟨hd, hc | ⟨hten, hsixteen, hc⟩⟩
    · exact .decimal hc hd
    · obtain ⟨k, rfl⟩ := Nat.exists_eq_add_of_le hten
      exact .letter (by omega) (by omega) hd

theorem digit?_toAscii {base : Nat} {c : Char} {d : Nat} :
    digit? base (toAscii c) = some d ↔ Digit base c d := by
  rw [digit?_eq_some_iff, digit_iff]
  refine and_congr_right fun _ => ?_
  simp only [show '0'.toNat = 48 from rfl, show 'a'.toNat = 97 from rfl,
    show 'A'.toNat = 65 from rfl]
  cases brought c with
  | ascii hc h => rw [h, Text.digitValue?_ascii hc, show '0'.toNat = 48 from rfl]
  | blank hc hb h =>
    rw [h, Text.digitValue?_blank hb, show ' '.toNat = 32 from rfl]
    simp only [reduceCtorEq, false_or]
    omega
  | digit hc hb hd h =>
    have hten := Text.digitValue?_lt hd
    rw [h, hd, show '0'.toNat = 48 from rfl, Option.some.injEq]
    omega
  | other hc hb hd h =>
    rw [h, hd]
    simp only [reduceCtorEq, false_or]
    omega

theorem Digit.not_white {base : Nat} {c : Char} {d : Nat} (h : Digit base c d) :
    isWhite c = false := by
  rw [← isSpace_toAscii, Bool.eq_false_iff, Ne, isSpace_iff]
  have hdigit := (digit?_eq_some_iff.mp (digit?_toAscii.mpr h)).2
  simp only [show '0'.toNat = 48 from rfl, show 'a'.toNat = 97 from rfl,
    show 'A'.toNat = 65 from rfl] at hdigit
  omega

theorem toAscii_eq_underscore_iff {c : Char} : toAscii c = '_' ↔ c = '_' :=
  toAscii_eq_iff (by decide) (by decide) (by decide)

theorem digits?_gap (base : Nat) (c : Char) (s : List Char) :
    digits? base (c :: '_' :: s) =
      (digit? base c).bind fun d => (digits? base s).map (d :: ·) := by
  rw [digits?]
  cases digit? base c <;> cases digits? base s <;> rfl

theorem digits?_next (base : Nat) (c : Char) {c' : Char} (hc : c' ≠ '_') (s : List Char) :
    digits? base (c :: c' :: s) =
      (digit? base c).bind fun d => (digits? base (c' :: s)).map (d :: ·) := by
  rw [digits?]
  · cases digit? base c <;> cases digits? base (c' :: s) <;> rfl
  · simp
  · simpa using fun h => absurd h hc

theorem Digits.head {base : Nat} {s : List Char} {ds : List Nat} (h : Digits base s ds) :
    ∃ c cs d ds', s = c :: cs ∧ ds = d :: ds' ∧ Digit base c d := by
  cases h with
  | last h => exact ⟨_, _, _, _, rfl, rfl, h⟩
  | next h hs => exact ⟨_, _, _, _, rfl, rfl, h⟩
  | gap h hs => exact ⟨_, _, _, _, rfl, rfl, h⟩

theorem not_digit_underscore {base d : Nat} : ¬ Digit base '_' d := by
  rw [digit_iff, show Text.digitValue? '_' = none by decide, show '_'.toNat = 95 from rfl,
    show 'a'.toNat = 97 from rfl, show 'A'.toNat = 65 from rfl]
  simp only [reduceCtorEq, false_or]
  omega

theorem digits?_eq_some_iff {base : Nat} : ∀ {s : List Char} {ds : List Nat},
    digits? base (s.map toAscii) = some ds ↔ Digits base s ds
  | [], ds => ⟨fun h => by simp [digits?] at h, fun h => by cases h⟩
  | [c], ds => by
    simp only [List.map_cons, List.map_nil, digits?, Option.map_eq_some_iff, digit?_toAscii]
    constructor
    · rintro ⟨d, h, rfl⟩
      exact .last h
    · intro h
      cases h with
      | last h => exact ⟨_, h, rfl⟩
      | next h hs => cases hs
  | c :: c' :: s, ds => by
    by_cases hc : c' = '_'
    · subst hc
      rw [List.map_cons, List.map_cons, show toAscii '_' = '_' by decide, digits?_gap]
      simp only [Option.bind_eq_some_iff, Option.map_eq_some_iff, digit?_toAscii,
        digits?_eq_some_iff]
      constructor
      · rintro ⟨d, h, ds, hs, rfl⟩
        exact .gap h hs
      · intro h
        cases h with
        | next h hs =>
          obtain ⟨_, _, _, _, hcons, -, h'⟩ := hs.head
          cases hcons
          exact absurd h' not_digit_underscore
        | gap h hs => exact ⟨_, h, _, hs, rfl⟩
    · rw [List.map_cons, List.map_cons, digits?_next base _ (mt toAscii_eq_underscore_iff.mp hc),
        ← List.map_cons]
      simp only [Option.bind_eq_some_iff, Option.map_eq_some_iff, digit?_toAscii,
        digits?_eq_some_iff]
      constructor
      · rintro ⟨d, h, ds, hs, rfl⟩
        exact .next h hs
      · intro h
        cases h with
        | next h hs => exact ⟨_, h, _, hs, rfl⟩
        | gap h hs => exact absurd rfl hc

/-! ## Values -/

theorem value_eq (base : Nat) (ds : List Nat) : value base ds = Nat.ofDigits base ds.reverse := by
  induction ds using List.reverseRecOn with
  | nil => rfl
  | append_singleton ds d ih =>
    simp only [value, List.foldl_append, List.foldl_cons, List.foldl_nil, List.reverse_append,
      List.reverse_cons, List.reverse_nil, List.nil_append, List.cons_append, Nat.ofDigits_cons]
    rw [← ih, value, Nat.mul_comm, Nat.add_comm]

theorem ofDigits_eq_zero_iff {base : Nat} (hbase : 0 < base) {ds : List Nat} :
    Nat.ofDigits base ds = 0 ↔ ∀ d ∈ ds, d = 0 := by
  induction ds with
  | nil => simp
  | cons d ds ih =>
    rw [Nat.ofDigits_cons, List.forall_mem_cons, ← ih, Nat.add_eq_zero_iff, Nat.mul_eq_zero]
    simp [Nat.ne_of_gt hbase]

/-! ## Literals and signs -/

theorem decimal?_eq_some_iff {s : List Char} {n : Nat} :
    decimal? (s.map toAscii) = some n ↔ ∃ ds, Digits 10 s ds ∧ ds.length ≤ Text.maxDigits ∧
      (ds.head? = some 0 → ∀ d ∈ ds, d = 0) ∧ n = Nat.ofDigits 10 ds.reverse := by
  have hzeros (ds : List Nat) : value 10 ds = 0 ↔ ∀ d ∈ ds, d = 0 := by
    rw [value_eq, ofDigits_eq_zero_iff (by decide)]
    simp
  unfold decimal?
  simp only [bind, Option.bind_eq_some_iff, digits?_eq_some_iff]
  refine exists_congr fun ds => and_congr_right fun _ => ?_
  rw [← value_eq, ← hzeros]
  split
  · rename_i hlong
    simp [Nat.not_le_of_gt hlong]
  · rename_i hlength
    split
    · rename_i hlead
      simp [hlead]
    · rename_i hlead
      rw [not_and, not_not] at hlead
      refine ⟨fun h => ⟨Nat.le_of_not_gt hlength, hlead, (Option.some.inj h).symm⟩, fun h => ?_⟩
      rw [h.2.2]
      rfl

theorem Digits.head_ne {base : Nat} {c : Char} {s : List Char} {ds : List Nat}
    (h : Digits base (c :: s) ds) : c ≠ '_' := by
  obtain ⟨_, _, d, _, hcons, -, hd⟩ := h.head
  cases hcons
  rintro rfl
  exact not_digit_underscore hd

theorem based?_eq_some_iff {base : Nat} {s : List Char} {n : Nat} :
    based? base (s.map toAscii) = some n ↔ ∃ s' ds, (s = s' ∨ s = '_' :: s') ∧
      Digits base s' ds ∧ n = Nat.ofDigits base ds.reverse := by
  have hskip : (if (s.map toAscii).head? = some '_' then (s.map toAscii).tail else s.map toAscii) =
      (if s.head? = some '_' then s.tail else s).map toAscii := by
    cases s with
    | nil => rfl
    | cons c s => simp only [List.map_cons, List.head?_cons, Option.some.injEq,
        toAscii_eq_underscore_iff]; split <;> rfl
  unfold based?
  rw [hskip]
  simp only [Option.map_eq_some_iff, digits?_eq_some_iff, value_eq]
  constructor
  · rintro ⟨ds, hs, rfl⟩
    split at hs
    · rename_i hhead
      obtain ⟨s, rfl⟩ := List.head?_eq_some_iff.mp hhead
      exact ⟨s, ds, .inr rfl, hs, rfl⟩
    · exact ⟨s, ds, .inl rfl, hs, rfl⟩
  · rintro ⟨s', ds, rfl | rfl, hs, rfl⟩
    · refine ⟨ds, ?_, rfl⟩
      rw [if_neg]
      · exact hs
      · intro hhead
        obtain ⟨s, rfl⟩ := List.head?_eq_some_iff.mp hhead
        exact hs.head_ne rfl
    · exact ⟨ds, hs, rfl⟩

theorem toNat_of_baseOf? {m : Char} {base : Nat} (h : baseOf? m = some base) :
    '9'.toNat < m.toNat ∧ m.toNat < 0x80 := by
  unfold baseOf? at h
  split at h <;> cases h <;> decide

theorem baseOf?_toAscii (m : Char) : baseOf? (toAscii m) = baseOf? m := by
  have hnone {c : Char} (hc : ¬ ('9'.toNat < c.toNat ∧ c.toNat < 0x80)) : baseOf? c = none :=
    Option.eq_none_iff_forall_ne_some.mpr fun base h => hc (toNat_of_baseOf? h)
  cases brought m with
  | ascii hm h => rw [h]
  | blank hm hb h => rw [h, hnone (c := m) (by omega)]; rfl
  | digit hm hb hd h =>
    have hten := Text.digitValue?_lt hd
    have hascii : ¬ '9'.toNat < (toAscii m).toNat := by
      rw [h, show '9'.toNat = '0'.toNat + 9 from rfl]
      omega
    rw [hnone (c := m) (by omega), hnone fun hc => hascii hc.1]
  | other hm hb hd h => rw [h]

theorem literal?_based {z m : Char} {base : Nat} (hz : Text.digitValue? z = some 0)
    (hm : baseOf? m = some base) (s : List Char) :
    literal? ((z :: m :: s).map toAscii) = based? base (s.map toAscii) := by
  rw [← baseOf?_toAscii] at hm
  rw [List.map_cons, List.map_cons, toAscii_eq_zero_iff.mpr hz]
  unfold baseOf? at hm
  split at hm <;> cases hm <;> rename_i heq <;> simp only [heq, literal?]

theorem literal?_decimal {s : List Char}
    (h : ∀ z m t, s = z :: m :: t → Text.digitValue? z = some 0 → baseOf? m = none) :
    literal? (s.map toAscii) = decimal? (s.map toAscii) := by
  have hplain : ∀ m t, s.map toAscii = '0' :: m :: t → baseOf? m = none := by
    intro m t hs
    obtain ⟨z, s', rfl, hz, hs'⟩ := List.map_eq_cons_iff.mp hs
    obtain ⟨m, t, rfl, rfl, -⟩ := List.map_eq_cons_iff.mp hs'
    rw [baseOf?_toAscii]
    exact h z m t rfl (toAscii_eq_zero_iff.mp hz)
  unfold literal?
  split <;> first | rfl | exact absurd (hplain _ _ (by assumption)) (by decide)

/-- No digit is a letter for a base. -/
theorem Digits.baseOf?_second {z m : Char} {s : List Char} {ds : List Nat}
    (h : Digits 10 (z :: m :: s) ds) : baseOf? m = none := by
  cases h with
  | gap => rfl
  | next _ hs =>
    obtain ⟨_, _, d, _, hcons, -, hd⟩ := hs.head
    cases hcons
    refine Option.eq_none_iff_forall_ne_some.mpr fun base hbase => ?_
    obtain ⟨hnine, hascii⟩ := toNat_of_baseOf? hbase
    cases hd with
    | letter _ _ hten => omega
    | decimal hc =>
      obtain ⟨hten, htoNat⟩ := (Text.digitValue?_ascii hascii).mp hc
      rw [htoNat, show '9'.toNat = '0'.toNat + 9 from rfl] at hnine
      omega

theorem literal?_eq_some_iff {s : List Char} {n : Nat} :
    literal? (s.map toAscii) = some n ↔ Literal s n := by
  constructor
  · intro h
    by_cases hbased : ∃ z m t base, s = z :: m :: t ∧ Text.digitValue? z = some 0 ∧
        baseOf? m = some base
    · obtain ⟨z, m, t, base, rfl, hz, hm⟩ := hbased
      rw [literal?_based hz hm] at h
      obtain ⟨s', ds, rfl | rfl, hs, rfl⟩ := based?_eq_some_iff.mp h
      · exact .based hz hm hs
      · exact .gap hz hm hs
    · rw [literal?_decimal] at h
      · obtain ⟨ds, hs, hlength, hzeros, rfl⟩ := decimal?_eq_some_iff.mp h
        exact .decimal hs hlength hzeros
      · intro z m t hs hz
        exact Option.eq_none_iff_forall_ne_some.mpr fun base hm => hbased ⟨z, m, t, base, hs, hz, hm⟩
  · intro h
    cases h with
    | decimal h hlength hzeros =>
      rw [literal?_decimal]
      · exact decimal?_eq_some_iff.mpr ⟨_, h, hlength, hzeros, rfl⟩
      · rintro z m t rfl -
        exact h.baseOf?_second
    | based hz hm h =>
      rw [literal?_based hz hm]
      exact based?_eq_some_iff.mpr ⟨_, _, .inl rfl, h, rfl⟩
    | gap hz hm h =>
      rw [literal?_based hz hm]
      exact based?_eq_some_iff.mpr ⟨_, _, .inr rfl, h, rfl⟩

/-- A literal begins with a decimal digit. -/
theorem Literal.head {s : List Char} {n : Nat} (h : Literal s n) :
    ∃ c cs d, s = c :: cs ∧ Text.digitValue? c = some d := by
  cases h with
  | decimal h =>
    obtain ⟨c, cs, d, _, rfl, -, hd⟩ := h.head
    cases hd with
    | decimal hc => exact ⟨c, cs, d, rfl, hc⟩
    | letter _ _ hten => omega
  | based hz => exact ⟨_, _, 0, rfl, hz⟩
  | gap hz => exact ⟨_, _, 0, rfl, hz⟩

theorem signed?_eq_some_iff {s : List Char} {n : Int} :
    signed? (s.map toAscii) = some n ↔ Signed s n := by
  have hminus (c : Char) : toAscii c = '-' ↔ c = '-' :=
    toAscii_eq_iff (by decide) (by decide) (by decide)
  have hplus (c : Char) : toAscii c = '+' ↔ c = '+' :=
    toAscii_eq_iff (by decide) (by decide) (by decide)
  constructor
  · intro h
    unfold signed? at h
    split at h
    · rename_i heq
      obtain ⟨c, t, rfl, hc, rfl⟩ := List.map_eq_cons_iff.mp heq
      obtain rfl := (hminus c).mp hc
      obtain ⟨m, hm, rfl⟩ := Option.map_eq_some_iff.mp h
      obtain ⟨k, hk, hkm⟩ := Option.bind_eq_some_iff.mp hm
      cases hkm
      exact .minus (literal?_eq_some_iff.mp hk)
    · rename_i heq
      obtain ⟨c, t, rfl, hc, rfl⟩ := List.map_eq_cons_iff.mp heq
      obtain rfl := (hplus c).mp hc
      obtain ⟨m, hm, rfl⟩ := Option.map_eq_some_iff.mp h
      exact .plus (literal?_eq_some_iff.mp hm)
    · obtain ⟨m, hm, rfl⟩ := Option.map_eq_some_iff.mp h
      exact .plain (literal?_eq_some_iff.mp hm)
  · intro h
    cases h with
    | plus h =>
      rw [List.map_cons, (hplus _).mpr rfl, signed?, literal?_eq_some_iff.mpr h]
      rfl
    | minus h =>
      rw [List.map_cons, (hminus _).mpr rfl, signed?, literal?_eq_some_iff.mpr h]
      rfl
    | plain h =>
      obtain ⟨c, cs, d, rfl, hd⟩ := h.head
      have hc (m : Char) (hm : Text.digitValue? m = none) : c ≠ m := by
        rintro rfl
        rw [hm] at hd
        cases hd
      have hread := literal?_eq_some_iff.mpr h
      unfold signed?
      split
      · rename_i heq
        exact absurd ((hminus c).mp (List.cons.inj heq).1) (hc '-' (by decide))
      · rename_i heq
        exact absurd ((hplus c).mp (List.cons.inj heq).1) (hc '+' (by decide))
      · rw [hread]
        rfl

/-! ## White space around a literal -/

theorem Digits.not_white {base : Nat} {s : List Char} {ds : List Nat} (h : Digits base s ds) :
    ∀ c ∈ s, isWhite c = false := by
  induction h with
  | last h => simpa using h.not_white
  | next h _ ih => exact List.forall_mem_cons.mpr ⟨h.not_white, ih⟩
  | gap h _ ih =>
    exact List.forall_mem_cons.mpr ⟨h.not_white, List.forall_mem_cons.mpr ⟨by decide, ih⟩⟩

theorem Literal.not_white {s : List Char} {n : Nat} (h : Literal s n) :
    ∀ c ∈ s, isWhite c = false := by
  have hzero {z : Char} (hz : Text.digitValue? z = some 0) : isWhite z = false := by
    have hdigit : Digit 1 z 0 := .decimal hz (by decide)
    exact hdigit.not_white
  have hmark {m : Char} {base : Nat} (hm : baseOf? m = some base) : isWhite m = false := by
    unfold baseOf? at hm
    split at hm <;> first | rfl | cases hm
  cases h with
  | decimal h => exact h.not_white
  | based hz hm h =>
    exact List.forall_mem_cons.mpr ⟨hzero hz, List.forall_mem_cons.mpr ⟨hmark hm, h.not_white⟩⟩
  | gap hz hm h =>
    exact List.forall_mem_cons.mpr ⟨hzero hz, List.forall_mem_cons.mpr
      ⟨hmark hm, List.forall_mem_cons.mpr ⟨by decide, h.not_white⟩⟩⟩

theorem Signed.not_white {s : List Char} {n : Int} (h : Signed s n) :
    ∀ c ∈ s, isWhite c = false := by
  cases h with
  | plain h => exact h.not_white
  | plus h => exact List.forall_mem_cons.mpr ⟨by decide, h.not_white⟩
  | minus h => exact List.forall_mem_cons.mpr ⟨by decide, h.not_white⟩

theorem trim_parts (s : List Char) : ∃ lead trail, s = lead ++ trim s ++ trail ∧
    (∀ c ∈ lead, isSpace c = true) ∧ ∀ c ∈ trail, isSpace c = true := by
  refine ⟨s.takeWhile isSpace, ((s.dropWhile isSpace).reverse.takeWhile isSpace).reverse, ?_,
    fun c hc => ?_, fun c hc => ?_⟩
  · rw [trim, List.append_assoc, ← List.reverse_append, List.takeWhile_append_dropWhile,
      List.reverse_reverse, List.takeWhile_append_dropWhile]
  · exact List.mem_takeWhile_imp hc
  · exact List.mem_takeWhile_imp (List.mem_reverse.mp hc)

theorem dropWhile_of_none {p : Char → Bool} {s : List Char} (h : ∀ c ∈ s, p c = false) :
    s.dropWhile p = s := by
  cases s with
  | nil => rfl
  | cons c s => exact List.dropWhile_cons_of_neg (by simp [h c])

theorem trim_around {lead core trail : List Char} (hlead : ∀ c ∈ lead, isSpace c = true)
    (htrail : ∀ c ∈ trail, isSpace c = true) (hcore : ∀ c ∈ core, isSpace c = false) :
    trim (lead ++ core ++ trail) = core := by
  unfold trim
  rw [List.append_assoc, List.dropWhile_append_of_pos hlead]
  cases core with
  | nil => rw [List.nil_append, List.dropWhile_eq_nil_iff.mpr htrail]; rfl
  | cons c core =>
    rw [List.cons_append, List.dropWhile_cons_of_neg (by simp [hcore c]), ← List.cons_append,
      List.reverse_append, List.dropWhile_append_of_pos (by simpa using htrail),
      dropWhile_of_none fun a ha => hcore a (List.mem_reverse.mp ha), List.reverse_reverse]

theorem parse?_eq_some_iff {s : String} {n : Int} : parse? s = some n ↔ Written s n := by
  unfold parse? Written
  constructor
  · intro h
    obtain ⟨lead, trail, hs, hlead, htrail⟩ := trim_parts (s.toList.map toAscii)
    obtain ⟨front, trail', hs', hfront, rfl⟩ := List.map_eq_append_iff.mp hs
    obtain ⟨lead', core, rfl, rfl, hcore⟩ := List.map_eq_append_iff.mp hfront
    rw [← hcore] at h
    refine ⟨lead', core, trail', hs', fun c hc => ?_, fun c hc => ?_, signed?_eq_some_iff.mp h⟩
    · rw [← isSpace_toAscii]
      exact hlead _ (List.mem_map_of_mem hc)
    · rw [← isSpace_toAscii]
      exact htrail _ (List.mem_map_of_mem hc)
  · rintro ⟨lead, core, trail, hs, hlead, htrail, h⟩
    have hmap {t : List Char} {b : Bool} (ht : ∀ c ∈ t, isWhite c = b) :
        ∀ c ∈ t.map toAscii, isSpace c = b := by
      intro c hc
      obtain ⟨a, ha, rfl⟩ := List.mem_map.mp hc
      rw [isSpace_toAscii, ht a ha]
    rw [hs, List.map_append, List.map_append, trim_around (hmap hlead) (hmap htrail)
      (hmap h.not_white)]
    exact signed?_eq_some_iff.mpr h

/-! ## Renderings -/

theorem Digits.snoc {base : Nat} {s : List Char} {ds : List Nat} {c : Char} {d : Nat}
    (hs : Digits base s ds) (h : Digit base c d) : Digits base (s ++ [c]) (ds ++ [d]) := by
  induction hs with
  | last h' => exact .next h' (.last h)
  | next h' _ ih => exact .next h' ih
  | gap h' _ ih => exact .gap h' ih

theorem digit_digitChar {base d : Nat} (hbase : base ≤ 16) (hd : d < base) :
    Digit base d.digitChar d := by
  have hall : ∀ d < 16, d < 10 ∧ d.digitChar.toNat = '0'.toNat + d ∨
      10 ≤ d ∧ d.digitChar.toNat + 10 = 'a'.toNat + d := by decide
  have hascii : ∀ d < 16, d.digitChar.toNat < 0x80 := by decide
  have hsixteen : d < 16 := Nat.lt_of_lt_of_le hd hbase
  refine digit_iff.mpr ⟨hd, ?_⟩
  rcases hall d hsixteen with hdecimal | ⟨hten, hletter⟩
  · exact .inl ((Text.digitValue?_ascii (hascii d hsixteen)).mpr hdecimal)
  · exact .inr ⟨hten, hsixteen, .inl hletter⟩

/-- The digits of a number are digits, without a zero before them, and stand for the number. -/
theorem digits_toDigits {base : Nat} (hone : 1 < base) (hbase : base ≤ 16) (n : Nat) :
    ∃ ds, Digits base (Nat.toDigits base n) ds ∧ ds.length = (Nat.toDigits base n).length ∧
      (ds.head? = some 0 → n = 0) ∧ Nat.ofDigits base ds.reverse = n := by
  induction n using Nat.strongRecOn with
  | ind n ih =>
    by_cases hn : n < base
    · rw [Nat.toDigits_of_lt_base hn]
      exact ⟨[n], .last (digit_digitChar hbase hn), rfl, by simp, by simp⟩
    · have hle : base ≤ n := Nat.le_of_not_lt hn
      obtain ⟨ds, hs, hlength, hhead, hvalue⟩ := ih (n / base) (Nat.div_lt_self (by omega) hone)
      rw [Nat.toDigits_of_base_le hone hle]
      refine ⟨ds ++ [n % base], hs.snoc (digit_digitChar hbase (Nat.mod_lt _ (by omega))), ?_, ?_, ?_⟩
      · simp [hlength]
      · intro hzero
        obtain ⟨_, _, d, ds', -, rfl, -⟩ := hs.head
        have hquotient : n / base = 0 := hhead (by simpa using hzero)
        have hpos : 0 < n / base := Nat.div_pos hle (by omega)
        omega
      · rw [List.reverse_append, List.reverse_singleton, List.singleton_append, Nat.ofDigits_cons,
          hvalue]
        exact Nat.mod_add_div n base

theorem written_of_literal {s : List Char} {n : Nat} (h : Literal s n) :
    Written (String.ofList s) n :=
  ⟨[], s, [], by simp, by simp, by simp, .plain h⟩

theorem baseOf?_bounds {m : Char} {base : Nat} (h : baseOf? m = some base) :
    1 < base ∧ base ≤ 16 := by
  unfold baseOf? at h
  split at h <;> cases h <;> decide

def rendering (m : Char) (base n : Nat) : String := String.ofList ('0' :: m :: Nat.toDigits base n)

theorem written_rendering {m : Char} {base : Nat} (hm : baseOf? m = some base) (n : Nat) :
    Written (rendering m base n) n := by
  obtain ⟨hone, hbase⟩ := baseOf?_bounds hm
  obtain ⟨ds, hs, -, -, hvalue⟩ := digits_toDigits hone hbase n
  have hliteral : Literal ('0' :: m :: Nat.toDigits base n) (Nat.ofDigits base ds.reverse) :=
    .based (by decide) hm hs
  rw [hvalue] at hliteral
  exact written_of_literal hliteral

theorem written_decimal {n : Nat} (h : (toString n).length ≤ Text.maxDigits) :
    Written (toString n) n := by
  obtain ⟨ds, hs, hlength, hhead, hvalue⟩ :=
    digits_toDigits (show 1 < 10 by decide) (show 10 ≤ 16 by decide) n
  have hdigits : toString n = String.ofList (Nat.toDigits 10 n) := Nat.repr_eq_ofList_toDigits
  rw [hdigits, String.length_ofList, ← hlength] at h
  have hzeros : ds.head? = some 0 → ∀ d ∈ ds, d = 0 := by
    intro hzero
    rw [hhead hzero, ofDigits_eq_zero_iff (by decide)] at hvalue
    simpa using hvalue
  have hliteral := Literal.decimal hs h hzeros
  rw [hvalue] at hliteral
  rw [hdigits]
  exact written_of_literal hliteral

/-! ## Arguments -/

section
variable {what s : String}

theorem parseNat_eq_ok_iff {n : Nat} : parseNat what s = .ok n ↔ Written s n := by
  rw [← parse?_eq_some_iff, parseNat]
  rcases parse? s with _ | k
  · simp
  · by_cases hk : k < 0
    · simp only [hk, if_true, reduceCtorEq, false_iff, Option.some.injEq]
      omega
    · simp only [hk, if_false, Except.ok.injEq, Option.some.injEq]
      omega

theorem parseNat_eq_negative_iff :
    parseNat what s = .error (.negative what s) ↔ ∃ n : Int, n < 0 ∧ Written s n := by
  simp only [← parse?_eq_some_iff, parseNat]
  rcases parse? s with _ | k
  · simp
  · by_cases hk : k < 0 <;> simp [hk]

theorem parseNat_eq_notInteger_iff :
    parseNat what s = .error (.notInteger what s) ↔ ∀ n, ¬ Written s n := by
  simp only [← parse?_eq_some_iff, parseNat]
  rcases parse? s with _ | k
  · simp
  · by_cases hk : k < 0 <;> simp [hk]

end

/-- **Integer arguments.** An argument is read as a number exactly if it stands for it and it is not
negative. The two refusals tell a negative number from a text that stands for none. All renderings
of a number are read as the number, the decimal one if it is not too long. -/
theorem integers_exact (what : String) :
    (∀ s, (∀ n : Nat, parseNat what s = .ok n ↔ Written s n) ∧
      (parseNat what s = .error (.negative what s) ↔ ∃ n : Int, n < 0 ∧ Written s n) ∧
      (parseNat what s = .error (.notInteger what s) ↔ ∀ n, ¬ Written s n) ∧
      (Refusal.negative what s).message = what ++ " must not be negative: " ++ Text.quoted s ∧
      (Refusal.notInteger what s).message = what ++ " isn't an integer: " ++ Text.quoted s) ∧
    ∀ n : Nat, (∀ m base, baseOf? m = some base → parseNat what (rendering m base n) = .ok n) ∧
      ((toString n).length ≤ Text.maxDigits → parseNat what (toString n) = .ok n) := by
  refine ⟨fun s => ⟨fun n => parseNat_eq_ok_iff, parseNat_eq_negative_iff,
    parseNat_eq_notInteger_iff, rfl, rfl⟩, fun n => ⟨fun m base hm => ?_, fun hlength => ?_⟩⟩
  · exact parseNat_eq_ok_iff.mpr (written_rendering hm n)
  · exact parseNat_eq_ok_iff.mpr (written_decimal hlength)

example : parseNat "Line" "\u3000+0X_fF\n" = .ok 255 := by decide

example : parseNat "Line" "-\u0664_2" = .error (.negative "Line" "-\u0664_2") := by decide

end Integer

end CodeSense
