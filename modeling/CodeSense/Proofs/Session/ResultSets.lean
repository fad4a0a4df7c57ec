import CodeSense.Proofs.Trace
import Mathlib.Data.List.Induction
import Mathlib.Data.List.Nodup

/-!
# Result sets in a trace

As long as the engine answers, `SetsOut calls out` keeps the books of its result sets: which
are out, and that every call came at the right time. One set is out at most, and while it is, no
other is computed and no unit disposed of.
-/

namespace CodeSense

def Request.sparesSets : Request → Bool
  | codeComplete .. | completionResults _ | completionDiagnostics _ | disposeCompletion _ => false
  | _ => true

theorem Request.set?_of_sparesSets {r : Request} (h : r.sparesSets = true) : r.set? = none := by
  cases r <;> first | rfl | cases h

theorem Request.kind_of_sparesSets {r : Request} (h : r.sparesSets = true) :
    r.kind ≠ .codeComplete := by
  cases r <;> simp [Request.sparesSets, Request.kind] at h ⊢

theorem Request.unitDisposed?_ne_none {r : Request} (h : r.kind = .disposeUnit) :
    r.unitDisposed? ≠ none := by
  cases r <;> simp [Request.kind, Request.unitDisposed?] at h ⊢

namespace Trace

def Idle (calls : List Call) : Prop := ∀ set, ¬ LiveSet calls set

/-- The call names a result set only while it is out. One that computes a set or disposes of
a unit comes while none is out. -/
def SetFits (before : List Call) (c : Call) : Prop :=
  NamesLiveSet before c ∧
    (c.request.kind = .codeComplete ∨ c.request.kind = .disposeUnit → Idle before)

structure SetsOut (calls : List Call) (out : List Handle) : Prop where
  made : Answered calls → (setsMade calls).Perm (setsDisposed calls ++ out)
  fits : Answered calls → (setsMade calls).Nodup → Throughout SetFits calls

variable {calls new : List Call} {out out' : List Handle} {set unit : Handle} {c : Call}

theorem namesLiveSet_of_none (h : c.request.set? = none) : NamesLiveSet calls c := by
  intro set hset
  rw [h] at hset
  cases hset

theorem setDisposed?_eq_none (h : c.request.set? = none) : c.request.setDisposed? = none := by
  obtain ⟨r, reply⟩ := c
  cases r <;> first | rfl | cases h

namespace SetsOut

theorem empty : SetsOut [] [] :=
  ⟨fun _ => .refl _, fun _ _ => throughout_nil _⟩

theorem of_failed {e : Fault} (h : Failed calls e) : SetsOut calls out :=
  ⟨fun ha => absurd ha (not_answered_of_failed h), fun ha => absurd ha (not_answered_of_failed h)⟩

theorem idle (h : SetsOut calls []) (ha : Answered calls) : Idle calls := by
  intro set hlive
  obtain ⟨hmade, hdisposed⟩ := hlive
  rw [(h.made ha).mem_iff, List.append_nil] at hmade
  exact hdisposed hmade

theorem liveSet (h : SetsOut calls out) (ha : Answered calls) (hn : (setsMade calls).Nodup)
    (hset : set ∈ out) : LiveSet calls set := by
  have hperm := h.made ha
  refine ⟨hperm.mem_iff.mpr (List.mem_append_right _ hset), fun hdisposed => ?_⟩
  exact List.disjoint_of_nodup_append (hperm.nodup_iff.mp hn) hdisposed hset

theorem liveSet_iff (h : SetsOut calls out) (ha : Answered calls) (hn : (setsMade calls).Nodup) :
    LiveSet calls set ↔ set ∈ out := by
  refine ⟨fun hlive => ?_, h.liveSet ha hn⟩
  obtain ⟨hmade, hdisposed⟩ := hlive
  exact (List.mem_append.mp ((h.made ha).mem_iff.mp hmade)).resolve_left hdisposed

theorem snoc (h : SetsOut calls out)
    (hmade : (setsMade calls).Perm (setsDisposed calls ++ out) →
      (setsMade (calls ++ [c])).Perm (setsDisposed (calls ++ [c]) ++ out'))
    (hfits : Answered calls → (setsMade calls).Nodup → SetFits calls c) :
    SetsOut (calls ++ [c]) out' where
  made ha := hmade (h.made ((answered_append _ _).mp ha).1)
  fits ha hn := by
    have ha' := ((answered_append _ _).mp ha).1
    have hn' : (setsMade calls).Nodup := by
      rw [setsMade_append] at hn
      exact (List.nodup_append.mp hn).1
    exact throughout_snoc.mpr ⟨h.fits ha' hn', hfits ha' hn'⟩

theorem snoc_sparing (h : SetsOut calls out) (hc : c.request.sparesSets = true)
    (hd : c.request.unitDisposed? = none ∨ out = []) : SetsOut (calls ++ [c]) out := by
  have hset := Request.set?_of_sparesSets hc
  have hkind := Request.kind_of_sparesSets hc
  refine h.snoc (fun hp => ?_) fun ha _ => ⟨namesLiveSet_of_none hset, fun hk => ?_⟩
  · simpa [setsMade, computed, setsDisposed, Call.computed?_eq_none hkind,
      setDisposed?_eq_none hset] using hp
  · rcases hd with hd | rfl
    · exact absurd hd (Request.unitDisposed?_ne_none (hk.resolve_left hkind))
    · exact h.idle ha

theorem append_sparing (h : SetsOut calls []) (hnew : ∀ c ∈ new, c.request.sparesSets = true) :
    SetsOut (calls ++ new) [] := by
  induction new generalizing calls with
  | nil => simpa using h
  | cons c new ih =>
    rw [List.append_cons]
    refine ih (h.snoc_sparing (hnew c (List.mem_cons_self ..)) (.inr rfl)) fun d hd => ?_
    exact hnew d (List.mem_cons_of_mem _ hd)

theorem snoc_naming (h : SetsOut calls out) (hc : c.request.set? = some set) (hset : set ∈ out)
    (hd : c.request.setDisposed? = none) : SetsOut (calls ++ [c]) out := by
  have hk : c.request.kind ≠ .codeComplete ∧ c.request.kind ≠ .disposeUnit := by
    obtain ⟨r, reply⟩ := c
    cases r <;> simp [Request.set?, Request.kind] at hc ⊢
  refine h.snoc (fun hp => ?_) fun ha hn => ⟨fun set' hset' => ?_, fun hk' => ?_⟩
  · simpa [setsMade, computed, setsDisposed, Call.computed?_eq_none hk.1, hd] using hp
  · rw [hc] at hset'
    cases hset'
    exact h.liveSet ha hn hset
  · exact absurd hk' (not_or.mpr hk)

theorem snoc_dispose (h : SetsOut calls [set]) (reply : Reply Unit) :
    SetsOut (calls ++ [⟨.disposeCompletion set, reply⟩]) [] := by
  refine h.snoc (fun hp => ?_) fun ha hn => ⟨fun set' hset' => ?_, fun hk => ?_⟩
  · simpa [setsMade, computed, setsDisposed, Call.computed?, Request.setDisposed?] using hp
  · cases hset'
    exact h.liveSet ha hn (List.mem_singleton.mpr rfl)
  · rcases hk with hk | hk <;> cases hk

theorem snoc_compute (h : SetsOut calls []) (hc : c.request.kind = .codeComplete) :
    SetsOut (calls ++ [c]) (c.computed?.map (·.2)).toList := by
  have hset : c.request.set? = none := by
    obtain ⟨r, reply⟩ := c
    cases r <;> first | rfl | cases hc
  refine h.snoc (fun hp => ?_) fun ha _ => ⟨namesLiveSet_of_none hset, fun _ => h.idle ha⟩
  rw [setsMade_append, setsDisposed_append]
  rw [List.append_nil] at hp
  have hmade : setsMade [c] = (c.computed?.map (·.2)).toList := by
    cases h : c.computed? <;> simp [setsMade, computed, h]
  have hdisposed : setsDisposed [c] = [] := by
    simp [setsDisposed, setDisposed?_eq_none hset]
  rw [hmade, hdisposed, List.append_nil]
  exact hp.append_right _

end SetsOut

/-! ## Orderly traces -/

theorem liveSet_of_snoc {set : Handle} (h : LiveSet (calls ++ [c]) set) :
    LiveSet calls set ∨ ∃ unit, c.computed? = some (unit, set) := by
  obtain ⟨hmade, hdisposed⟩ := h
  rw [setsDisposed_append, List.mem_append, not_or] at hdisposed
  rw [setsMade_append, List.mem_append] at hmade
  rcases hmade with hmade | hmade
  · exact .inl ⟨hmade, hdisposed.1⟩
  · right
    cases hc : c.computed? with
    | none => simp [setsMade, computed, hc] at hmade
    | some made =>
      refine ⟨made.1, ?_⟩
      simp only [setsMade, computed, List.filterMap_cons, hc, List.filterMap_nil, List.map_cons,
        List.map_nil, List.mem_singleton] at hmade
      rw [hmade]

theorem request_of_computed (h : c.computed? = some (unit, set)) :
    c.request.kind = .codeComplete ∧ c.request.unit? = some unit := by
  unfold Call.computed? at h
  split at h
  · split at h
    · obtain ⟨made, -, hpair⟩ := Option.map_eq_some_iff.mp h
      cases hpair
      exact ⟨rfl, rfl⟩
    · cases h
  · cases h

theorem liveSet_unique (h : Throughout SetFits calls) {set set' : Handle} (hs : LiveSet calls set)
    (hs' : LiveSet calls set') : set = set' := by
  induction calls using List.reverseRecOn with
  | nil => cases hs.1
  | append_singleton calls c ih =>
    obtain ⟨hbefore, hfits⟩ := throughout_snoc.mp h
    have hidle : ∀ unit set, c.computed? = some (unit, set) → Idle calls := fun _ _ hc =>
      hfits.2 (.inl (request_of_computed hc).1)
    rcases liveSet_of_snoc hs with hs | ⟨unit, hc⟩
    · rcases liveSet_of_snoc hs' with hs' | ⟨unit', hc'⟩
      · exact ih hbefore hs hs'
      · exact absurd hs (hidle _ _ hc' set)
    · rcases liveSet_of_snoc hs' with hs' | ⟨unit', hc'⟩
      · exact absurd hs' (hidle _ _ hc set')
      · rw [hc] at hc'
        cases hc'
        rfl

/-- A unit is disposed of after the result sets that were computed on it. -/
theorem set_disposed_before_unit (hsets : Throughout SetFits calls)
    (hunits : Throughout NamesLiveUnit calls) {before after : List Call} {reply : Reply Unit}
    (h : calls = before ++ ⟨.disposeUnit unit, reply⟩ :: after)
    (hmade : (unit, set) ∈ computed calls) : set ∈ setsDisposed before := by
  obtain ⟨c, hc, hcomputed⟩ := List.mem_filterMap.mp hmade
  rw [h] at hc
  rcases List.mem_append.mp hc with hc | hc
  · -- no set is out when a unit is disposed of
    by_contra hnot
    refine (hsets before _ after h).2 (.inr rfl) set ⟨?_, hnot⟩
    exact List.mem_map.mpr ⟨_, List.mem_filterMap.mpr ⟨c, hc, hcomputed⟩, rfl⟩
  rcases List.mem_cons.mp hc with rfl | hc
  · cases hcomputed
  · -- a unit that was disposed of is not named again
    obtain ⟨between, rest, rfl⟩ := List.append_of_mem hc
    have hlive := hunits (before ++ ⟨.disposeUnit unit, reply⟩ :: between) c rest (by simp [h]) unit
      (request_of_computed hcomputed).2
    exact absurd (by simp [unitsDisposed, Request.unitDisposed?]) hlive.2

end Trace

end CodeSense
