import CodeSense.Proofs.Cache
import CodeSense.Proofs.Trace

/-!
# The books of a pool

The ledger of a pool is right when every unit from the engine has its record, every record
counts its references, and the released records are those whose units went back. A pool in use
is balanced: its ledger is right for the references of the cache and of its holders, and every
kept record is filed under its file. Every operation leaves it balanced, also where the engine
stops it halfway; only the list of holders changes.
-/

namespace CodeSense

/-- The records of `c` tell what became of the units, and `refs` are the references to them. -/
structure Ledger (c : Cache) (calls : List Call) (refs : List UnitRef) : Prop where
  counted : c.Counted refs
  parsed : Trace.parsed calls = c.origins
  disposed : (Trace.unitsDisposed calls).Perm c.releasedHandles
  live : (Trace.unitsMade calls).Nodup → Trace.Throughout Trace.NamesLiveUnit calls
  unclosed : ∀ x ∈ calls, x.request ≠ .close

/-- The cache is in use, and the references outside it are `held`. -/
structure Balanced (c : Cache) (calls : List Call) (held : List UnitRef) : Prop
    extends Ledger c calls (held ++ c.keptRefs) where
  filed : c.Filed
  running : c.closed = false

variable {c c' : Cache} {calls : List Call} {refs held held' : List UnitRef} {u : UnitRef}
  {r : UnitRecord} {x : Call}

namespace Ledger

theorem congr (h : Ledger c calls refs) (hr : c'.records = c.records) : Ledger c' calls refs := by
  obtain ⟨records, kept, stats, closed⟩ := c
  obtain ⟨records', kept', stats', closed'⟩ := c'
  dsimp only at hr
  subst hr
  exact ⟨⟨h.counted.valid, h.counted.count, h.counted.released⟩, h.parsed, h.disposed, h.live,
    h.unclosed⟩

theorem perm (h : Ledger c calls refs) {refs' : List UnitRef} (hp : refs.Perm refs') :
    Ledger c calls refs' :=
  { h with counted := h.counted.perm hp }

theorem unitsMade_eq (h : Ledger c calls refs) :
    Trace.unitsMade calls = c.records.map (·.handle) := by
  unfold Trace.unitsMade
  rw [h.parsed, Cache.origins, List.map_map]
  rfl

theorem exists_record (h : Ledger c calls refs) {origin : String × List String × Handle}
    (ho : origin ∈ Trace.parsed calls) : ∃ u r, c.get? u = some r ∧ r.origin = origin := by
  rw [h.parsed] at ho
  obtain ⟨r, hr, rfl⟩ := List.mem_map.mp ho
  obtain ⟨u, hu⟩ := List.mem_iff_getElem?.mp hr
  exact ⟨u, r, hu, rfl⟩

/-- With distinct handles, a record's unit is out until the record is released. -/
theorem liveUnit_iff (h : Ledger c calls refs) (hn : (Trace.unitsMade calls).Nodup)
    (hr : c.get? u = some r) : Trace.LiveUnit calls r.handle ↔ r.released = false := by
  have hmade : r.handle ∈ Trace.unitsMade calls := by
    rw [h.unitsMade_eq]
    exact List.mem_map.mpr ⟨r, List.mem_of_getElem? hr, rfl⟩
  rw [h.unitsMade_eq] at hn
  unfold Trace.LiveUnit
  rw [h.disposed.mem_iff, Cache.mem_releasedHandles hn hr]
  simp [hmade]

theorem unclosed_snoc (h : Ledger c calls refs) (hx : x.request ≠ .close) :
    ∀ y ∈ calls ++ [x], y.request ≠ .close := by
  intro y hy
  rcases List.mem_append.mp hy with hy | hy
  · exact h.unclosed y hy
  · rw [List.mem_singleton.mp hy]
    exact hx

theorem snoc (h : Ledger c calls refs) (hp : x.parsed? = none)
    (hd : x.request.unitDisposed? = none) (hx : x.request ≠ .close)
    (hl : (Trace.unitsMade calls).Nodup → Trace.NamesLiveUnit calls x) :
    Ledger c (calls ++ [x]) refs where
  counted := h.counted
  parsed := by simp [Trace.parsed, ← h.parsed, hp]
  disposed := by simpa [Trace.unitsDisposed, hd] using h.disposed
  live hn := by
    have hn' : (Trace.unitsMade calls).Nodup := by
      simpa [Trace.unitsMade, Trace.parsed, hp] using hn
    exact Trace.throughout_snoc.mpr ⟨h.live hn', hl hn'⟩
  unclosed := h.unclosed_snoc hx

/-- All references to a record end at once, and its unit goes back. -/
theorem settle (h : Ledger c calls refs) (hu : u ∈ refs) (hr : c.get? u = some r)
    (reply : Reply Unit) :
    Ledger ((c.dropReferences u).markReleased u) (calls ++ [⟨.disposeUnit r.handle, reply⟩])
      (refs.filter (· ≠ u)) := by
  have hrel : r.released = false := h.counted.not_released hr hu
  refine ⟨h.counted.settle hu, ?_, ?_, fun hn => ?_, h.unclosed_snoc (by simp)⟩
  · rw [Cache.origins_markReleased, Cache.origins_dropReferences, Trace.parsed_append, h.parsed]
    simp [Trace.parsed, Call.parsed?]
  · rw [Trace.unitsDisposed_append]
    refine (List.perm_append_comm.trans ?_).trans
      (Cache.releasedHandles_markReleased (Cache.get?_dropReferences hr) hrel).symm
    rw [Cache.releasedHandles_dropReferences]
    exact h.disposed.cons _
  · have hn' : (Trace.unitsMade calls).Nodup := by
      simpa [Trace.unitsMade, Trace.parsed, Call.parsed?] using hn
    refine Trace.throughout_snoc.mpr ⟨h.live hn', fun unit hunit => ?_⟩
    cases hunit
    exact (h.liveUnit_iff hn' hr).mpr hrel

/-- One reference ends, and with the last one the unit goes back. -/
theorem giveBack (h : Ledger c calls (u :: refs)) {new : List Call}
    (hnew : new.map (·.request) = c.lastOut u) : Ledger (c.giveBack u) (calls ++ new) refs := by
  obtain ⟨r, hr⟩ := h.counted.get (List.mem_cons_self ..)
  have hrel : r.released = false := h.counted.not_released hr (List.mem_cons_self ..)
  have hcount : r.refCount = refs.count u + 1 := by
    rw [h.counted.count u r hr, List.count_cons_self]
    rfl
  by_cases hone : r.refCount = 1
  · have hout : c.lastOut u = [.disposeUnit r.handle] := by simp [Cache.lastOut, hr, hone, hrel]
    obtain ⟨⟨request, reply⟩, rfl, hrequest⟩ := List.map_eq_singleton_iff.mp (hnew.trans hout)
    cases hrequest
    have hothers : (u :: refs).filter (· ≠ u) = refs := by
      rw [List.filter_cons_of_neg (by simp), List.filter_eq_self]
      intro v hv
      have hpos := List.count_pos_iff.mpr hv
      refine decide_eq_true fun hvu => ?_
      subst hvu
      omega
    have hlast : (c.dropReferences u).markReleased u = c.giveBack u := by
      rw [Cache.dropReferences_last hr hone]
      refine Cache.markReleased_eq_giveBack fun r' hr' => ?_
      cases hr.symm.trans hr'
      exact hone
    have hsettled := h.settle (List.mem_cons_self ..) hr reply
    rwa [hothers, hlast] at hsettled
  · have hout : c.lastOut u = [] := by simp [Cache.lastOut, hr, hone]
    rw [List.map_eq_nil_iff.mp (hnew.trans hout), List.append_nil]
    refine ⟨h.counted.giveBack, ?_, ?_, h.live, h.unclosed⟩
    · rw [h.parsed, Cache.origins_giveBack]
    · rw [← Cache.retain_eq_giveBack, Cache.releasedHandles_retain]
      · exact h.disposed
      · intro r' hr'
        cases hr.symm.trans hr'
        exact .inr hone

/-- Calls that name no unit. They may bring some. -/
theorem append {new : List Call} {c' : Cache} {refs' : List UnitRef} (h : Ledger c calls refs)
    (hnew : ∀ x ∈ new, x.request.unit? = none ∧ x.request ≠ .close) (hcounted : c'.Counted refs')
    (hparsed : c'.origins = c.origins ++ Trace.parsed new)
    (hreleased : c'.releasedHandles = c.releasedHandles) : Ledger c' (calls ++ new) refs' where
  counted := hcounted
  parsed := by rw [Trace.parsed_append, h.parsed, hparsed]
  disposed := by
    have hnone : Trace.unitsDisposed new = [] := by
      refine List.filterMap_eq_nil_iff.mpr fun x hx => ?_
      have hunit := (hnew x hx).1
      generalize x.request = r at hunit
      cases r <;> first | rfl | cases hunit
    rw [Trace.unitsDisposed_append, hnone, List.append_nil, hreleased]
    exact h.disposed
  live hn := by
    rw [Trace.unitsMade_append] at hn
    exact Trace.throughout_append (h.live (List.nodup_append.mp hn).1) fun before x hx unit hunit => by
      rw [(hnew x hx).1] at hunit
      cases hunit
  unclosed y hy := by
    rcases List.mem_append.mp hy with hy | hy
    · exact h.unclosed y hy
    · exact (hnew y hy).2

end Ledger

namespace Balanced

theorem congr (h : Balanced c calls held) (hr : c'.records = c.records) (hk : c'.kept = c.kept)
    (hc : c'.closed = c.closed) : Balanced c' calls held where
  toLedger := by
    unfold Cache.keptRefs
    rw [hk]
    exact h.toLedger.congr hr
  filed := by
    refine ⟨hk ▸ h.filed.keys, fun file u hu => ?_⟩
    unfold Cache.get?
    rw [hr]
    exact h.filed.file file u (hk ▸ hu)
  running := hc.trans h.running

theorem perm (h : Balanced c calls held) (hp : held.Perm held') : Balanced c calls held' :=
  { h with toLedger := h.toLedger.perm (hp.append_right _) }

theorem empty (hr : c.records = []) (hk : c.kept = []) (hc : c.closed = false) :
    Balanced c [] [] where
  counted := by
    refine ⟨?_, ?_, ?_⟩ <;> simp [Cache.keptRefs, Cache.get?, hr, hk]
  parsed := by simp [Trace.parsed, Cache.origins, hr]
  disposed := by simp [Trace.unitsDisposed, Cache.releasedHandles, hr]
  live _ := Trace.throughout_nil _
  unclosed := by simp
  filed := ⟨by simp [hk], by simp [hk]⟩
  running := hc

theorem refCount_eq (h : Balanced c calls held) (hr : c.get? u = some r) :
    r.refCount = held.count u + if c.kept.get? r.file = some u then 1 else 0 := by
  rw [h.counted.count u r hr, List.count_append, Cache.count_keptRefs h.filed hr]
  split <;> rfl

theorem mem_refs_of_kept {file : String} (hk : c.kept.get? file = some u) :
    u ∈ held ++ c.keptRefs :=
  List.mem_append_right _ (Cache.mem_keptRefs hk)

/-! ## Calls -/

theorem append (h : Balanced c calls held) {new : List Call}
    (hnew : ∀ x ∈ new, x.request.unit? = none ∧ x.request ≠ .close)
    (hparsed : Trace.parsed new = []) : Balanced c (calls ++ new) held :=
  ⟨h.toLedger.append hnew h.counted (by rw [hparsed, List.append_nil]) rfl, h.filed, h.running⟩

theorem snoc_of_unit?_none (h : Balanced c calls held) (hp : x.parsed? = none)
    (hu : x.request.unit? = none) (hx : x.request ≠ .close) : Balanced c (calls ++ [x]) held :=
  h.append (by simp [hu, hx]) (by simp [Trace.parsed, hp])

theorem snoc_of_unit (h : Balanced c calls held) (hr : c.get? u = some r)
    (hu : u ∈ held ++ c.keptRefs) (hp : x.parsed? = none) (hd : x.request.unitDisposed? = none)
    (hx : x.request.unit? = some r.handle) : Balanced c (calls ++ [x]) held := by
  have hclose : x.request ≠ .close := by
    intro hclose
    rw [hclose] at hx
    cases hx
  refine ⟨h.toLedger.snoc hp hd hclose fun hn unit hunit => ?_, h.filed, h.running⟩
  rw [hx] at hunit
  cases hunit
  exact (h.liveUnit_iff hn hr).mpr (h.counted.not_released hr hu)

/-! ## References -/

theorem retain (h : Balanced c calls held) (hu : u ∈ held ++ c.keptRefs) :
    Balanced (c.retain u 1) calls (u :: held) where
  counted := h.counted.retain hu
  parsed := by rw [h.parsed, Cache.origins_retain]
  disposed := by rw [Cache.releasedHandles_retain]; exact h.disposed
  live := h.live
  unclosed := h.unclosed
  filed := h.filed.retain u _
  running := h.running

theorem giveBack (h : Balanced c calls (u :: held)) {new : List Call}
    (hnew : new.map (·.request) = c.lastOut u) :
    Balanced (c.giveBack u) (calls ++ new) held where
  toLedger := h.toLedger.giveBack hnew
  filed := h.filed.giveBack u
  running := h.running

/-- The cache's own reference passes to whoever drops the file. -/
theorem forget (h : Balanced c calls held) {file : String} (hk : c.kept.get? file = some u) :
    Balanced (c.forget file) calls (u :: held) where
  toLedger := by
    have hp : (held ++ c.keptRefs).Perm (u :: held ++ (c.forget file).keptRefs) :=
      ((Cache.keptRefs_forget h.filed hk).append_left held).trans List.perm_middle
    exact (h.toLedger.perm hp).congr rfl
  filed := h.filed.forget file
  running := h.running

theorem insert (h : Balanced c calls held) {file : String} {flags : List String} {handle : Handle}
    {new : List Call} (hk : c.kept.get? file = none)
    (hnew : ∀ x ∈ new, x.request.unit? = none ∧ x.request ≠ .close)
    (hparsed : Trace.parsed new = [(file, flags, handle)]) :
    Balanced (c.insert { file, flags, handle }) (calls ++ new) held where
  toLedger := by
    refine h.toLedger.append hnew ?_ ?_ (Cache.releasedHandles_insert ..)
    · rw [Cache.keptRefs_insert hk, ← List.append_assoc]
      exact (h.counted.insert file flags handle).perm (List.perm_append_singleton ..).symm
    · rw [Cache.origins_insert, hparsed]
      rfl
  filed := h.filed.insert hk
  running := h.running

end Balanced

end CodeSense
