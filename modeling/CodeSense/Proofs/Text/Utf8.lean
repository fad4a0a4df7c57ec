import Mathlib.Algebra.Group.Nat.Defs
import Mathlib.Tactic.MkIffOfInductiveProp
import Mathlib.Tactic.SplitIfs
import CodeSense.Text.Utf8

/-!
# How bytes are read as text

`Reads` says which text some bytes stand for: a character stands for its bytes, and the replacement
character for each piece that is no character, cut as long as it could still have become one.
`decode_eq_iff`: every sequence of bytes has just one text, the one that `decode` gives.
-/

namespace CodeSense.Text.Utf8

open String (utf8EncodeChar utf8EncodeChar_ne_nil)

def Begins (piece : List UInt8) : Prop := ∃ c, piece <+: utf8EncodeChar c

/-- Before `rest`, `piece` is the longest part that could still have become a character, or else a
single byte, and it is no character. -/
structure Subpart (piece rest : List UInt8) : Prop where
  nonempty : piece ≠ []
  broken : ∀ c, piece ≠ utf8EncodeChar c
  begun : piece.length = 1 ∨ Begins piece
  longest : ∀ b ∈ rest.head?, ¬Begins (piece ++ [b])

inductive Reads : List UInt8 → List Char → Prop
  | nil : Reads [] []
  | char (c : Char) {rest : List UInt8} {text : List Char} (h : Reads rest text) :
    Reads (utf8EncodeChar c ++ rest) (c :: text)
  | invalid {piece rest : List UInt8} {text : List Char} (hpiece : Subpart piece rest)
    (h : Reads rest text) : Reads (piece ++ rest) (replacement :: text)

theorem reads_encode (s : List Char) : Reads (encode s) s := by
  induction s with
  | nil => exact .nil
  | cons c s ih => exact .char c ih

variable {b : UInt8} {p : Pending} {n k : Nat} {c : Char} {piece rest tail : List UInt8}

theorem Begins.of_prefix {piece' : List UInt8} (h : Begins piece) (hpre : piece' <+: piece) :
    Begins piece' := by
  obtain ⟨c, hc⟩ := h
  exact ⟨c, hpre.trans hc⟩

theorem subpart_singleton (h : ¬Begins [b]) (rest : List UInt8) : Subpart [b] rest where
  nonempty := List.cons_ne_nil b []
  broken c hc := h ⟨c, hc ▸ List.prefix_rfl⟩
  begun := .inl rfl
  longest a _ ha := h (ha.of_prefix (List.prefix_append [b] [a]))

/-! ## Lead and trail -/

/-- The last `k` bytes of the character with code `n`, with six bits each. -/
def trail (n : Nat) : Nat → List UInt8
  | 0 => []
  | k + 1 => UInt8.ofNat (n / 64 ^ k % 64 + 128) :: trail n k

theorem toNat_sextet (m : Nat) : (UInt8.ofNat (m % 64 + 128)).toNat = m % 64 + 128 :=
  UInt8.toNat_ofNat_of_lt' (show m % 64 + 128 < 256 by omega)

/-- In the character with code `n`, the byte `a` comes first, and `k + 1` more follow. -/
def Leads (a k n : Nat) : Prop :=
  (k = 0 ∧ 0x80 ≤ n ∧ n < 0x800 ∧ a = n / 64 + 0xC0) ∨
  (k = 1 ∧ 0x800 ≤ n ∧ n < 0x10000 ∧ n.isValidChar ∧ a = n / 4096 + 0xE0) ∨
  (k = 2 ∧ 0x10000 ≤ n ∧ n < 0x110000 ∧ a = n / 262144 + 0xF0)

theorem Leads.valid {a : Nat} (h : Leads a k n) : n.isValidChar := by
  rcases h with ⟨-, -, hn, -⟩ | ⟨-, -, -, hn, -⟩ | ⟨-, hn, hn', -⟩
  · exact .inl (by omega)
  · exact hn
  · exact .inr (by omega)

theorem exists_leads (h : 0x80 ≤ c.toNat) : ∃ (b : UInt8) (k : Nat), Leads b.toNat k c.toNat := by
  have hvalid : c.toNat.isValidChar := c.valid
  have hbyte {a k : Nat} (ha : a < 256) (h : Leads a k c.toNat) :
      ∃ (b : UInt8) (k : Nat), Leads b.toNat k c.toNat :=
    ⟨UInt8.ofNat a, k, by rwa [UInt8.toNat_ofNat_of_lt' ha]⟩
  by_cases h₂ : c.toNat < 0x800
  · exact hbyte (by omega) (.inl ⟨rfl, h, h₂, rfl⟩)
  by_cases h₃ : c.toNat < 0x10000
  · exact hbyte (by omega) (.inr (.inl ⟨rfl, by omega, h₃, hvalid, rfl⟩))
  · have h₄ : c.toNat < 0x110000 := by
      unfold Nat.isValidChar at hvalid
      omega
    exact hbyte (by omega) (.inr (.inr ⟨rfl, by omega, h₄, rfl⟩))

theorem utf8EncodeChar_of_lt (h : c.toNat < 0x80) : utf8EncodeChar c = [UInt8.ofNat c.toNat] :=
  if_pos (Nat.le_of_lt_succ h)

theorem utf8EncodeChar_of_leads (h : Leads b.toNat k c.toNat) :
    utf8EncodeChar c = b :: trail c.toNat (k + 1) := by
  have hval : c.val.toNat = c.toNat := rfl
  rw [utf8EncodeChar, hval]
  rcases h with ⟨rfl, hlo, hhi, hb⟩ | ⟨rfl, hlo, hhi, -, hb⟩ | ⟨rfl, hlo, hhi, hb⟩
  · rw [if_neg (by omega), if_pos (by omega), Nat.mod_eq_of_lt (by omega), ← hb, UInt8.ofNat_toNat]
    simp [trail]
  · rw [if_neg (by omega), if_neg (by omega), if_pos (by omega), Nat.mod_eq_of_lt (by omega), ← hb,
      UInt8.ofNat_toNat]
    simp [trail]
  · rw [if_neg (by omega), if_neg (by omega), if_neg (by omega), Nat.mod_eq_of_lt (by omega), ← hb,
      UInt8.ofNat_toNat]
    simp [trail]

theorem utf8EncodeChar_eq_cons_iff : utf8EncodeChar c = b :: tail ↔
    (c.toNat < 0x80 ∧ b.toNat = c.toNat ∧ tail = []) ∨
      ∃ k, Leads b.toNat k c.toNat ∧ tail = trail c.toNat (k + 1) := by
  constructor
  · intro h
    by_cases hc : c.toNat < 0x80
    · rw [utf8EncodeChar_of_lt hc, List.cons.injEq] at h
      obtain ⟨rfl, rfl⟩ := h
      exact .inl ⟨hc, UInt8.toNat_ofNat_of_lt' (Nat.lt_trans hc (by decide)), rfl⟩
    · obtain ⟨b', k, hk⟩ := exists_leads (Nat.le_of_not_lt hc)
      rw [utf8EncodeChar_of_leads hk, List.cons.injEq] at h
      obtain ⟨rfl, rfl⟩ := h
      exact .inr ⟨k, hk, rfl⟩
  · rintro (⟨hc, hb, rfl⟩ | ⟨k, hk, rfl⟩)
    · rw [utf8EncodeChar_of_lt hc, ← hb, UInt8.ofNat_toNat]
    · exact utf8EncodeChar_of_leads hk

/-! ## Characters begun -/

namespace Pending

@[mk_iff] structure Fits (p : Pending) (n : Nat) : Prop where
  bits : n / 64 ^ (p.more + 1) = p.bits
  lo : p.lo.toNat ≤ n / 64 ^ p.more % 64 + 128
  hi : n / 64 ^ p.more % 64 + 128 ≤ p.hi.toNat

def Takes (p : Pending) (b : UInt8) : Prop := p.lo ≤ b ∧ b ≤ p.hi

structure Bounded (p : Pending) : Prop where
  lo : 0x80 ≤ p.lo
  le : p.lo ≤ p.hi
  hi : p.hi ≤ 0xBF

/-- The characters that `p` may become are just those that begin with `piece`. -/
structure After (p : Pending) (piece : List UInt8) : Prop where
  bounded : p.Bounded
  nonempty : piece ≠ []
  valid : ∀ n, p.Fits n → n.isValidChar
  chars : ∀ c tail, utf8EncodeChar c = piece ++ tail ↔
    p.Fits c.toNat ∧ tail = trail c.toNat (p.more + 1)

end Pending

theorem beq_iff_toNat_eq {a b : UInt8} : (a == b) = true ↔ a.toNat = b.toNat := by
  rw [beq_iff_eq, ← UInt8.toNat_inj]

theorem lead?_eq_none_iff : lead? b = none ↔ b.toNat < 0xC2 ∨ 0xF4 < b.toNat := by
  unfold lead?
  simp only [UInt8.lt_iff_toNat_lt, beq_iff_toNat_eq]
  grind

theorem Leads.lead? (h : Leads b.toNat k n) : ∃ p, lead? b = some p := by
  refine Option.ne_none_iff_exists'.mp fun hnone => ?_
  rw [lead?_eq_none_iff] at hnone
  unfold Leads at h
  omega

theorem lead?_spec (h : lead? b = some p) :
    p.Bounded ∧ ∀ k n, Leads b.toNat k n ↔ p.more = k ∧ p.Fits n := by
  have hbounded {bits more : Nat} {lo hi : UInt8} (hb : 0x80 ≤ lo ∧ lo ≤ hi ∧ hi ≤ 0xBF) :
      Pending.Bounded ⟨bits, lo, hi, more⟩ := ⟨hb.1, hb.2.1, hb.2.2⟩
  unfold lead? at h
  simp only [UInt8.lt_iff_toNat_lt, beq_iff_toNat_eq, UInt8.reduceToNat] at h
  -- one case for each row of the table of lead bytes
  split_ifs at h
  all_goals
    obtain rfl := Option.some.inj h
    refine ⟨hbounded (by decide), fun k n => ?_⟩
    rw [Pending.fits_iff, Leads, Nat.isValidChar]
    simp only [Nat.reducePow, Nat.reduceAdd, Nat.div_one, UInt8.reduceToNat]
    omega

theorem toNat_ofNat_of_valid (h : n.isValidChar) : (Char.ofNat n).toNat = n := by
  rw [Char.ofNat, dif_pos h]
  rfl

namespace Pending

theorem after_lead (h : lead? b = some p) : p.After [b] := by
  obtain ⟨hbounded, hleads⟩ := lead?_spec h
  refine ⟨hbounded, List.cons_ne_nil _ _, fun n hn => ?_, fun c tail => ?_⟩
  · exact ((hleads p.more n).mpr ⟨rfl, hn⟩).valid
  rw [List.singleton_append, utf8EncodeChar_eq_cons_iff]
  constructor
  · rintro (⟨hc, hb, rfl⟩ | ⟨k, hk, rfl⟩)
    · rw [lead?_eq_none_iff.mpr (.inl (by omega))] at h
      cases h
    · obtain ⟨rfl, hfits⟩ := (hleads k c.toNat).mp hk
      exact ⟨hfits, rfl⟩
  · rintro ⟨hfits, rfl⟩
    exact .inr ⟨p.more, (hleads p.more c.toNat).mpr ⟨rfl, hfits⟩, rfl⟩

theorem Bounded.fits_cons_iff (hp : p.Bounded) : p.Fits n ∧ b :: tail = trail n (p.more + 1) ↔
    p.Takes b ∧ n / 64 ^ p.more = p.bits * 64 + b.toNat % 64 ∧ tail = trail n p.more := by
  have hlo : 0x80 ≤ p.lo.toNat := UInt8.le_iff_toNat_le.mp hp.lo
  have hhi : p.hi.toNat ≤ 0xBF := UInt8.le_iff_toNat_le.mp hp.hi
  rw [trail, List.cons.injEq, ← UInt8.toNat_inj, toNat_sextet, fits_iff, Nat.pow_succ,
    ← Nat.div_div_eq_div_mul, Takes, UInt8.le_iff_toNat_le, UInt8.le_iff_toNat_le]
  constructor
  · rintro ⟨⟨hbits, hlo', hhi'⟩, hb, htail⟩
    exact ⟨⟨by omega, by omega⟩, by omega, htail⟩
  · rintro ⟨⟨hlo', hhi'⟩, hm, htail⟩
    exact ⟨⟨by omega, by omega, by omega⟩, by omega, htail⟩

namespace After

variable (hp : p.After piece)

include hp

theorem chars_snoc (c : Char) : utf8EncodeChar c = piece ++ [b] ++ tail ↔
    p.Takes b ∧ c.toNat / 64 ^ p.more = p.bits * 64 + b.toNat % 64 ∧
      tail = trail c.toNat p.more := by
  rw [List.append_assoc, List.singleton_append, hp.chars, hp.bounded.fits_cons_iff]

theorem next (hb : p.Takes b) (hk : p.more = k + 1) :
    After ⟨p.bits * 64 + b.toNat % 64, 0x80, 0xBF, k⟩ (piece ++ [b]) := by
  have hfits (n : Nat) : Fits ⟨p.bits * 64 + b.toNat % 64, 0x80, 0xBF, k⟩ n ↔
      n / 64 ^ p.more = p.bits * 64 + b.toNat % 64 := by
    have hhi : n / 64 ^ k % 64 + 128 ≤ 0xBF := by omega
    rw [hk]
    exact ⟨Fits.bits, fun h => ⟨h, Nat.le_add_left .., hhi⟩⟩
  refine ⟨⟨UInt8.le_refl _, ?_, UInt8.le_refl _⟩, by simp, fun n hn => ?_, fun c tail => ?_⟩
  · exact (by decide : (0x80 : UInt8) ≤ 0xBF)
  · exact hp.valid n (hp.bounded.fits_cons_iff.mpr ⟨hb, (hfits n).mp hn, rfl⟩).1
  · rw [hp.chars_snoc, hfits, hk]
    exact ⟨And.right, fun h => ⟨hb, h⟩⟩

theorem last (hb : p.Takes b) (hmore : p.more = 0) :
    piece ++ [b] = utf8EncodeChar (Char.ofNat (p.bits * 64 + b.toNat % 64)) := by
  have hbits : (p.bits * 64 + b.toNat % 64) / 64 ^ p.more = p.bits * 64 + b.toNat % 64 := by
    rw [hmore, Nat.pow_zero, Nat.div_one]
  have hfits := (hp.bounded.fits_cons_iff.mpr ⟨hb, hbits, rfl⟩).1
  symm
  rw [← List.append_nil (piece ++ [b]), hp.chars_snoc, toNat_ofNat_of_valid (hp.valid _ hfits)]
  exact ⟨hb, hbits, by rw [hmore]; rfl⟩

theorem begins : Begins piece := by
  -- the least byte that may come next leads to a character
  have hlow : (p.bits * 64 + p.lo.toNat % 64) * 64 ^ p.more / 64 ^ p.more =
      p.bits * 64 + p.lo.toNat % 64 := Nat.mul_div_cancel _ (Nat.pow_pos (by decide))
  obtain ⟨n, hfits⟩ : ∃ n, p.Fits n :=
    ⟨_, (hp.bounded.fits_cons_iff.mpr ⟨⟨UInt8.le_refl p.lo, hp.bounded.le⟩, hlow, rfl⟩).1⟩
  have hcode := toNat_ofNat_of_valid (hp.valid n hfits)
  refine ⟨Char.ofNat n, trail n (p.more + 1), ?_⟩
  exact ((hp.chars _ _).mpr ⟨hcode.symm ▸ hfits, by rw [hcode]⟩).symm

/-- A piece that the next byte does not continue is cut off. -/
theorem subpart (h : ∀ b ∈ rest.head?, ¬p.Takes b) : Subpart piece rest where
  nonempty := hp.nonempty
  broken c hc := by
    obtain ⟨-, hnil⟩ := (hp.chars c []).mp (by rw [List.append_nil, hc])
    exact absurd hnil.symm (List.cons_ne_nil _ _)
  begun := .inr hp.begins
  longest b hb := by
    rintro ⟨c, tail, hc⟩
    exact h b hb ((hp.chars_snoc c).mp hc.symm).1

end After

end Pending

/-! ## The text of some bytes -/

theorem decodeFrom_cons (p : Option Pending) (b : UInt8) (bytes : List UInt8) :
    decodeFrom p (b :: bytes) = (feed p b).1 ++ decodeFrom (feed p b).2 bytes := by
  cases p <;> rfl

theorem utf8EncodeChar_ofNat_byte (hb : b < 0x80) : utf8EncodeChar (Char.ofNat b.toNat) = [b] := by
  have hlt : b.toNat < 0x80 := UInt8.lt_iff_toNat_lt.mp hb
  have hcode := toNat_ofNat_of_valid (.inl (Nat.lt_trans hlt (by decide)))
  rw [utf8EncodeChar_of_lt (by rwa [hcode]), hcode, UInt8.ofNat_toNat]

theorem not_begins_of_lead? (hb : ¬b < 0x80) (h : lead? b = none) : ¬Begins [b] := by
  rintro ⟨c, tail, hc⟩
  have hge : ¬b.toNat < 0x80 := fun hlt => hb (UInt8.lt_iff_toNat_lt.mpr hlt)
  rcases utf8EncodeChar_eq_cons_iff.mp hc.symm with ⟨hlt, heq, -⟩ | ⟨k, hk, -⟩
  · exact hge (heq ▸ hlt)
  · obtain ⟨p, hp⟩ := hk.lead?
    rw [h] at hp
    cases hp

theorem reads_start {bytes : List UInt8} (hnone : Reads bytes (decodeFrom none bytes))
    (hsome : ∀ p piece, p.After piece → Reads (piece ++ bytes) (decodeFrom (some p) bytes)) :
    Reads (b :: bytes) (decodeFrom none (b :: bytes)) := by
  rw [decodeFrom_cons, feed, start]
  by_cases hb : b < 0x80
  · rw [if_pos hb, ← List.singleton_append, ← utf8EncodeChar_ofNat_byte hb]
    exact .char _ hnone
  · rw [if_neg hb]
    cases hlead : lead? b with
    | some p => exact hsome p [b] (Pending.after_lead hlead)
    | none =>
      exact .invalid (subpart_singleton (not_begins_of_lead? hb hlead) bytes) hnone

/-- By induction on the bytes, between characters and within one. -/
theorem reads_decodeFrom (bytes : List UInt8) : Reads bytes (decodeFrom none bytes) ∧
    ∀ p piece, Pending.After p piece → Reads (piece ++ bytes) (decodeFrom (some p) bytes) := by
  induction bytes with
  | nil => exact ⟨.nil, fun p piece hp => .invalid (hp.subpart (by simp)) .nil⟩
  | cons b bytes ih =>
    have hstart : Reads (b :: bytes) (decodeFrom none (b :: bytes)) := reads_start ih.1 ih.2
    refine ⟨hstart, fun p piece hp => ?_⟩
    by_cases hb : p.Takes b
    · rw [decodeFrom_cons, feed, if_pos (by simpa [Pending.Takes] using hb), List.append_cons]
      cases hmore : p.more with
      | zero =>
        rw [hp.last hb hmore]
        exact .char _ ih.1
      | succ k => exact ih.2 _ _ (hp.next hb hmore)
    · have hstay : decodeFrom (some p) (b :: bytes) =
          replacement :: decodeFrom none (b :: bytes) := by
        rw [decodeFrom_cons, feed, if_neg (by simpa [Pending.Takes] using hb), decodeFrom_cons]
        rfl
      rw [hstay]
      exact .invalid (hp.subpart (by simpa using hb)) hstart

theorem reads_decode (bytes : List UInt8) : Reads bytes (decode bytes) := (reads_decodeFrom bytes).1

/-- No character's bytes begin those of another: the first character of some bytes can be told. -/
theorem utf8EncodeChar_append_inj {c' : Char} {rest' : List UInt8}
    (h : utf8EncodeChar c ++ rest = utf8EncodeChar c' ++ rest') : c = c' := by
  have hfirst := congrArg (fun bytes => bytes.toByteArray.utf8DecodeChar? 0) h
  simpa [List.toByteArray_append, ByteArray.utf8DecodeChar?_utf8EncodeChar_append] using hfirst

/-- The longest is not shorter than another piece at its place. -/
theorem Subpart.prefix_of_begins {piece' rest' : List UInt8} (h : Subpart piece rest)
    (h' : piece'.length = 1 ∨ Begins piece') (heq : piece ++ rest = piece' ++ rest') :
    piece' <+: piece := by
  rcases List.append_eq_append_iff.mp heq with ⟨more, rfl, rfl⟩ | ⟨more, rfl, rfl⟩
  · cases more with
    | nil => simp
    | cons b more =>
      have hbegins : Begins (piece ++ b :: more) := by
        refine h'.resolve_left fun hlen => ?_
        have hpos := List.length_pos_iff.mpr h.nonempty
        rw [List.length_append, List.length_cons] at hlen
        omega
      refine absurd (hbegins.of_prefix ?_) (h.longest b rfl)
      exact ⟨more, by simp⟩
  · exact List.prefix_append _ _

theorem Subpart.ne_char (h : Subpart piece rest) (c : Char) (rest' : List UInt8) :
    piece ++ rest ≠ utf8EncodeChar c ++ rest' := by
  intro heq
  obtain ⟨more, rfl⟩ := h.prefix_of_begins (.inr ⟨c, List.prefix_rfl⟩) heq
  have hmore : more ≠ [] := fun hnil => h.broken c (by rw [hnil, List.append_nil])
  rcases h.begun with hlen | ⟨c', tail, hc'⟩
  · have hpos := List.length_pos_iff.mpr (utf8EncodeChar_ne_nil (c := c))
    have hpos' := List.length_pos_iff.mpr hmore
    rw [List.length_append] at hlen
    omega
  · rw [List.append_assoc] at hc'
    have happend : utf8EncodeChar c ++ (more ++ tail) = utf8EncodeChar c' ++ [] := by
      rw [List.append_nil, hc']
    obtain rfl := utf8EncodeChar_append_inj happend
    exact hmore (List.append_eq_nil_iff.mp (List.append_right_eq_self.mp hc')).1

theorem Subpart.unique {piece' rest' : List UInt8} (h : Subpart piece rest)
    (h' : Subpart piece' rest') (heq : piece ++ rest = piece' ++ rest') :
    piece = piece' ∧ rest = rest' := by
  have hpre := h.prefix_of_begins h'.begun heq
  have hpre' := h'.prefix_of_begins h.begun heq.symm
  obtain rfl := hpre'.eq_of_length_le hpre.length_le
  exact ⟨rfl, List.append_cancel_left heq⟩

theorem Reads.unique {bytes : List UInt8} {text text' : List Char} (h : Reads bytes text)
    (h' : Reads bytes text') : text = text' := by
  induction h generalizing text' with
  | nil =>
    generalize hbytes : [] = bytes at h'
    cases h' with
    | nil => rfl
    | char c _ => exact absurd (List.append_eq_nil_iff.mp hbytes.symm).1 utf8EncodeChar_ne_nil
    | invalid hpiece _ => exact absurd (List.append_eq_nil_iff.mp hbytes.symm).1 hpiece.nonempty
  | @char c rest text _ ih =>
    generalize hbytes : utf8EncodeChar c ++ rest = bytes at h'
    cases h' with
    | nil => exact absurd (List.append_eq_nil_iff.mp hbytes).1 utf8EncodeChar_ne_nil
    | char c' h' =>
      obtain rfl := utf8EncodeChar_append_inj hbytes
      rw [ih (List.append_cancel_left hbytes ▸ h')]
    | invalid hpiece _ => exact absurd hbytes.symm (hpiece.ne_char c rest)
  | @invalid piece rest text hpiece _ ih =>
    generalize hbytes : piece ++ rest = bytes at h'
    cases h' with
    | nil => exact absurd (List.append_eq_nil_iff.mp hbytes).1 hpiece.nonempty
    | char c' _ => exact absurd hbytes (hpiece.ne_char c' _)
    | invalid hpiece' h' =>
      obtain ⟨rfl, rfl⟩ := hpiece.unique hpiece' hbytes
      rw [ih h']

theorem decode_eq_iff {bytes : List UInt8} {text : List Char} :
    decode bytes = text ↔ Reads bytes text :=
  ⟨fun h => h ▸ reads_decode bytes, (reads_decode bytes).unique⟩

/-- A character cut off is one piece; each byte of a surrogate or of an overlong form is its own. -/
example : decode [0xE2, 0x82, 0x62, 0xED, 0xA0, 0x80, 0xC0, 0xAF] =
    replacement :: 'b' :: List.replicate 5 replacement := by decide

end CodeSense.Text.Utf8
