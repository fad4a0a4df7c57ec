import CodeSense.Proofs.Pool.Growth
import CodeSense.Proofs.Pool.Operations

/-!
# Teardown of a pool

A pool that is torn down gives back all the units that it keeps, whoever else holds them, and
closes the engine after that. What is left are the references to units that it no longer kept.
-/

namespace CodeSense

variable {σ : Type} {c : Cache} {u : UnitRef} {r : UnitRecord}

theorem Cache.Filed.nodup_keptRefs (h : c.Filed) : c.keptRefs.Nodup := by
  rw [List.nodup_iff_count_le_one]
  intro u
  by_cases hu : u ∈ c.keptRefs
  · obtain ⟨⟨file, v⟩, hk, rfl⟩ := List.mem_map.mp hu
    obtain ⟨r, hr, -⟩ := h.file file v hk
    rw [Cache.count_keptRefs h hr]
    split <;> decide
  · rw [List.count_eq_zero.mpr hu]
    decide

section
variable {calls : List Call} {refs : List UnitRef}

/-- A record is out of use as soon as there is no reference to it. -/
theorem Ledger.released_iff (h : Ledger c calls refs) (hr : c.get? u = some r) :
    r.released = true ↔ u ∉ refs := by
  rw [h.counted.released u r hr, h.counted.count u r hr, Int.natCast_eq_zero, List.count_eq_zero]

/-- The units that went back are those without a reference, each once. -/
theorem Ledger.count_handle (h : Ledger c calls refs) (hn : (Trace.unitsMade calls).Nodup)
    (hr : c.get? u = some r) :
    (Trace.unitsDisposed calls).count r.handle = if u ∈ refs then 0 else 1 := by
  rw [h.unitsMade_eq] at hn
  rw [h.disposed.count_eq, Cache.count_releasedHandles hn hr]
  simp only [h.released_iff hr]
  split <;> rename_i hu <;> simp [hu]

theorem Ledger.count_unitsDisposed (h : Ledger c calls []) (hn : (Trace.unitsMade calls).Nodup)
    {unit : Handle} (hu : unit ∈ Trace.unitsMade calls) :
    (Trace.unitsDisposed calls).count unit = 1 := by
  obtain ⟨origin, ho, rfl⟩ := List.mem_map.mp hu
  obtain ⟨u, r, hr, rfl⟩ := h.exists_record ho
  exact (h.count_handle hn hr).trans (if_neg List.not_mem_nil)

end

namespace Pool

theorem teardown_again (E : Engine σ) {p : Pool σ} (h : p.cache.closed = true) :
    teardown E p = (.ok (), p) := by
  simp only [teardown, Act.bind_apply, Act.gets, h]
  rfl

theorem discard_dropped {E : Engine σ} {p : Pool σ} (hr : p.cache.get? u = some r)
    (hrel : r.released = false) :
    discard E u { p with cache := p.cache.dropReferences u } =
      call E (.disposeUnit r.handle)
        { p with cache := (p.cache.dropReferences u).markReleased u } := by
  simp only [discard, Act.bind_apply, modifyCache, get?, Act.gets, Cache.get?_dropReferences hr,
    hrel]
  rfl

variable {E : Engine σ} {p : Pool (Traced σ)} {held : List UnitRef}

theorem ends_discardAll {us refs : List UnitRef} (h : Ledger p.cache p.calls refs) (hn : us.Nodup)
    (hrefs : ∀ u ∈ us, u ∈ refs) :
    (discardAll E.traced us).Ends p
      (fun _ p' => Ledger p'.cache p'.calls (refs.filter (· ∉ us)) ∧
        p'.cache.origins = p.cache.origins ∧ p'.cache.closed = p.cache.closed)
      (fun e p' => Breaks p p' e) := by
  induction us generalizing p refs with
  | nil =>
    refine ⟨?_, rfl, rfl⟩
    rw [List.filter_eq_self.mpr (by simp)]
    exact h
  | cons u us ih =>
    obtain ⟨hu, hus⟩ := List.nodup_cons.mp hn
    obtain ⟨humem, hrefs⟩ := List.forall_mem_cons.mp hrefs
    obtain ⟨r, hr⟩ := h.counted.get humem
    have hothers : ∀ v ∈ us, v ∈ refs.filter (· ≠ u) := by
      intro v hv
      exact List.mem_filter.mpr ⟨hrefs v hv, decide_eq_true fun hvu => hu (hvu ▸ hv)⟩
    have hfilter : (refs.filter (· ≠ u)).filter (· ∉ us) = refs.filter (· ∉ u :: us) := by
      rw [List.filter_filter]
      exact List.filter_congr fun v _ => by simp [Bool.and_comm]
    unfold discardAll
    rw [Act.ends_bind, ends_modifyCache, Act.ends_bind]
    refine Act.Ends.of_eq ?_ (discard_dropped hr (h.counted.not_released hr humem))
    apply ends_call
    · intro reply _ p' _ hcalled
      have hsettled : Ledger p'.cache p'.calls (refs.filter (· ≠ u)) := by
        rw [hcalled.cache, hcalled.calls]
        exact h.settle humem hr reply
      have hgrows : Grows (fun _ => True) p p' := grows_snoc hcalled.calls trivial
      refine (ih hsettled hus hothers).mono (fun _ p'' hend => ?_) fun _ _ => hgrows.breaks
      rw [hfilter, hcalled.cache, Cache.origins_markReleased, Cache.origins_dropReferences] at hend
      exact hend
    · intro reply e p' he hcalled
      exact breaks_snoc hcalled.calls he

structure TornDown (held : List UnitRef) (c : Cache) (p : Pool (Traced σ)) : Prop where
  kept : p.cache.kept = []
  closed : p.cache.closed = true
  origins : p.cache.origins = c.origins
  ledger : ∃ calls reply, p.calls = calls ++ [⟨.close, reply⟩] ∧
    Ledger p.cache calls (held.filter (· ∉ c.keptRefs))

theorem ends_teardown (hb : Balanced p.cache p.calls held) :
    (teardown E.traced).Ends p (fun _ => TornDown held p.cache) (fun e p' => Breaks p p' e) := by
  have hleft : (held ++ p.cache.keptRefs).filter (· ∉ p.cache.keptRefs) =
      held.filter (· ∉ p.cache.keptRefs) := by
    have hnone : p.cache.keptRefs.filter (· ∉ p.cache.keptRefs) = [] :=
      List.filter_eq_nil_iff.mpr (by simp)
    rw [List.filter_append, hnone, List.append_nil]
  have hgrows (us : List UnitRef) : Act.Moves (Grows fun _ => True) (discardAll E.traced us) :=
    (discardAll_built (fun _ => trivial) us).grows
  unfold teardown
  rw [Act.ends_bind, Act.ends_gets, if_neg (by simp [hb.running]), Act.ends_bind,
    ends_modifyCache, Act.ends_bind]
  have hclosing : Ledger { p.cache with closed := true } p.calls (held ++ p.cache.keptRefs) :=
    hb.toLedger.congr rfl
  refine ((ends_discardAll (p := { p with cache := { p.cache with closed := true } }) hclosing
    hb.filed.nodup_keptRefs fun u hu => List.mem_append_right _ hu).and
      ((hgrows _).ends _)).mono ?_ fun _ _ h => h.1
  intro _ p₁ hend
  obtain ⟨⟨h₁, horigins, hclosed⟩, hg⟩ := hend
  rw [hleft] at h₁
  rw [Act.ends_bind, ends_modifyCache]
  apply ends_call
  · intro reply _ p₂ _ hcalled
    refine ⟨?_, ?_, ?_, p₁.calls, reply, hcalled.calls, ?_⟩ <;> rw [hcalled.cache]
    · exact hclosed
    · exact horigins
    · exact h₁.congr rfl
  · intro reply e p₂ he hcalled
    exact hg.breaks (breaks_snoc (p := p₁) hcalled.calls he)

end Pool

end CodeSense
