import CodeSense.Native.Engine
import CodeSense.Proofs.Keyed
import CodeSense.Proofs.Text.Utf8
import CodeSense.Session.Buffers
import Mathlib.Logic.ExistsUnique

/-!
# What an unsaved buffer holds

A buffer is the text of a file, read once, with its line ends made one kind.
`buffers_faithful`: any bytes make a buffer, and well formed text without CR comes out of it byte
by byte, just as it went in.
-/

namespace CodeSense

namespace Text

/-! ## Line ends -/

/-- The second text is the first one with an LF for each CR LF and each CR that stands alone. -/
inductive Unified : List Char → List Char → Prop
  | nil : Unified [] []
  | pair {s t : List Char} (h : Unified s t) : Unified ('\r' :: '\n' :: s) ('\n' :: t)
  | lone {s t : List Char} (hnext : s.head? ≠ some '\n') (h : Unified s t) :
    Unified ('\r' :: s) ('\n' :: t)
  | other {c : Char} {s t : List Char} (hc : c ≠ '\r') (h : Unified s t) :
    Unified (c :: s) (c :: t)

theorem unified_unifyNewlines (s : List Char) : Unified s (unifyNewlines s) := by
  fun_induction unifyNewlines s with
  | case1 => exact .nil
  | case2 rest ih => exact .pair ih
  | case3 c rest hpair ih =>
    by_cases hc : c = '\r'
    · rw [if_pos hc, hc]
      refine .lone (fun hnext => ?_) ih
      obtain ⟨more, rfl⟩ := List.head?_eq_some_iff.mp hnext
      exact hpair more hc rfl
    · rw [if_neg hc]
      exact .other hc ih

theorem Unified.eq {s t : List Char} (h : Unified s t) : t = unifyNewlines s := by
  induction h with
  | nil => rfl
  | pair _ ih => rw [unifyNewlines, ih]
  | @lone s t hnext _ ih =>
    rw [unifyNewlines, if_pos rfl, ih]
    rintro rest - rfl
    exact hnext rfl
  | other hc _ ih =>
    rw [unifyNewlines, if_neg hc, ih]
    exact fun _ hcr => absurd hcr hc

theorem Unified.not_mem {s t : List Char} (h : Unified s t) : '\r' ∉ t := by
  induction h with
  | nil => simp
  | pair _ ih => simpa using ih
  | lone _ _ ih => simpa using ih
  | other hc _ ih => simpa [Ne.symm hc] using ih

theorem Unified.eq_of_not_mem {s t : List Char} (h : Unified s t) (hs : '\r' ∉ s) : t = s := by
  induction h with
  | nil => rfl
  | pair _ _ => simp at hs
  | lone _ _ _ => simp at hs
  | other _ _ ih => rw [ih (List.not_mem_of_not_mem_cons hs)]

end Text

namespace Session

open Text

variable {σ : Type}

theorem unified_textOf {bytes : List UInt8} {text : List Char} (h : Utf8.Reads bytes text) :
    Unified text (textOf bytes).toList := by
  rw [textOf, String.toList_ofList, Utf8.decode_eq_iff.mpr h]
  exact unified_unifyNewlines text

theorem textOf_encode_textOf (bytes : List UInt8) :
    textOf (Utf8.encode (textOf bytes).toList) = textOf bytes := by
  have hfirst := unified_textOf (Utf8.reads_decode bytes)
  have hsecond := unified_textOf (Utf8.reads_encode (textOf bytes).toList)
  exact String.toList_inj.mp (hsecond.eq_of_not_mem hfirst.not_mem)

/-- Taking over `source` succeeds: `file` has the content, with the engine as with the session, and
every other file has what it had. -/
structure TakesOver (s : Session σ) (file source content : String) : Prop where
  outcome : (setUnsaved file source s).1 = .ok ()
  stored : (setUnsaved file source s).2.overlays.contents.get? file = some content
  listed : ⟨file, content⟩ ∈ (setUnsaved file source s).2.overlays.pairs
  only : ∀ o ∈ (setUnsaved file source s).2.overlays.pairs, o.file = file → o.content = content
  others : ∀ other ≠ file, (setUnsaved file source s).2.overlays.contents.get? other =
    s.overlays.contents.get? other
  response : (setUnsaved file source s).2.out = s.out ++ (Response.success ++ "\n")

theorem takesOver {s : Session σ} {source : String} {bytes : List UInt8}
    (h : s.files.read source = .ok bytes) (file : String) :
    TakesOver s file source (textOf bytes) := by
  have hset : setUnsaved file source s = (do
      takeSource file source (s.files.read source)
      modifyOverlays (·.rebuild) : Act (Session σ) Unit) s := rfl
  have hoverlays : (setUnsaved file source s).2.overlays =
      (s.overlays.set file (textOf bytes)).rebuild := by
    rw [hset, h]
    rfl
  have hget : (setUnsaved file source s).2.overlays.contents.get? file = some (textOf bytes) := by
    rw [hoverlays, Overlays.rebuild, Overlays.set, Keyed.get?_put, if_pos rfl]
  refine ⟨?_, hget, ?_, ?_, ?_, ?_⟩
  · rw [hset, h]
    rfl
  · rw [hoverlays] at hget ⊢
    exact List.mem_map.mpr ⟨_, Keyed.mem_of_get? hget, rfl⟩
  · intro o ho hfile
    rw [hoverlays] at ho
    obtain ⟨p, hp, rfl⟩ := List.mem_map.mp ho
    subst hfile
    exact Keyed.eq_of_mem_put hp
  · intro other hne
    rw [hoverlays, Overlays.rebuild, Overlays.set, Keyed.get?_put, if_neg hne]
  · rw [hset, h]
    rfl

/-- Any bytes make a buffer: their text, with LF for every line end. From text without CR the library
gets back the very bytes, and a buffer that is written out and read again is the same. -/
theorem buffers_faithful (s : Session σ) (file source : String) (bytes : List UInt8)
    (hread : s.files.read source = .ok bytes) :
    ∃ content, TakesOver s file source content ∧
      (∃! text, Utf8.Reads bytes text) ∧
      (∀ text, Utf8.Reads bytes text → Unified text content.toList) ∧
      (∀ text, bytes = Utf8.encode text → Unified text content.toList ∧
        ('\r' ∉ text → content.toList = text ∧
          ∀ o ∈ (setUnsaved file source s).2.overlays.pairs, o.file = file →
            Native.Unsaved.ofOverlay o = ⟨Native.terminated file, bytes, bytes.length⟩)) ∧
      ∀ (t : Session σ) (file' source' : String),
        t.files.read source' = .ok (Utf8.encode content.toList) →
          TakesOver t file' source' content := by
  have htakes := takesOver hread file
  refine ⟨textOf bytes, htakes, ?_, fun text => unified_textOf, ?_, ?_⟩
  · exact ⟨_, Utf8.reads_decode bytes, fun text h => h.unique (Utf8.reads_decode bytes)⟩
  · rintro text rfl
    have hunified := unified_textOf (Utf8.reads_encode text)
    refine ⟨hunified, fun hcr => ⟨hunified.eq_of_not_mem hcr, fun o ho hfile => ?_⟩⟩
    rw [Native.Unsaved.ofOverlay, htakes.only o ho hfile, hfile, hunified.eq_of_not_mem hcr]
  · intro t file' source' ht
    have hagain := takesOver ht file'
    rwa [textOf_encode_textOf] at hagain

/-- A byte order mark, line ends of each kind and two characters that are cut off; then text that
keeps its bytes. -/
theorem buffers_faithful_mixed :
    let mixed := [0xEF, 0xBB, 0xBF, 0x61, 0x0D, 0x0A, 0x0D, 0xE2, 0x82, 0x62, 0xF0, 0x9F, 0x98]
    let valid := [0xEF, 0xBB, 0xBF, 0xC3, 0xA9, 0x0A, 0xF0, 0x9F, 0x98, 0x80]
    let files : FileSystem := { nodes := [(["m"], .file mixed), (["v"], .file valid)] }
    let s : Session Unit := { pool := { engine := () }, files }
    TakesOver s "a" "m" "\uFEFFa\n\n\uFFFDb\uFFFD" ∧ TakesOver s "a" "v" "\uFEFFé\n😀" ∧
      ∀ o ∈ (setUnsaved "a" "v" s).2.overlays.pairs, o.file = "a" →
        Native.Unsaved.ofOverlay o = ⟨"a", valid, 10⟩ := by
  intro mixed valid files s
  have hmixed : files.read "m" = .ok mixed := by with_unfolding_all rfl
  have hvalid : files.read "v" = .ok valid := by with_unfolding_all rfl
  have hencode : valid = Utf8.encode ['\uFEFF', 'é', '\n', '😀'] := by decide +kernel
  obtain ⟨text, htext, -, hunified, -, -⟩ := buffers_faithful s "a" "m" mixed hmixed
  obtain ⟨content, hcontent, -, -, hplain, -⟩ := buffers_faithful s "a" "v" valid hvalid
  obtain ⟨hsame, hbytes⟩ := (hplain _ hencode).2 (by decide)
  have hmixedText : text = "\uFEFFa\n\n\uFFFDb\uFFFD" :=
    String.toList_inj.mp ((hunified _ (Utf8.reads_decode mixed)).eq.trans (by decide +kernel))
  have hvalidText : content = "\uFEFFé\n😀" := String.toList_inj.mp (hsame.trans (by decide +kernel))
  exact ⟨hmixedText ▸ htext, hvalidText ▸ hcontent, hbytes⟩

end Session

end CodeSense
