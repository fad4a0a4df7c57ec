import CodeSense.Proofs.Pool.Client
import CodeSense.Proofs.Pool.Teardown

/-!
# Closing a pool that has clients

A pool may be torn down while clients still hold references. The units that it keeps go back
whatever their counts. A unit that it dropped before is left to those who hold it:
`teardown_settles`.
-/

namespace CodeSense.Client

variable {σ : Type} {c : Client (Traced σ)} {p : Pool (Traced σ)} {u : UnitRef}

/-- A client holds the record, and the pool keeps it no longer. -/
def Adrift (c : Client σ) (u : UnitRef) : Prop := u ∈ c.held ∧ u ∉ c.pool.cache.keptRefs

instance (c : Client σ) (u : UnitRef) : Decidable (c.Adrift u) :=
  inferInstanceAs (Decidable (_ ∧ _))

/-- What a teardown leaves: only the records adrift are in use, and they are as they were. -/
structure Settled (c : Client (Traced σ)) (p : Pool (Traced σ)) : Prop where
  records : p.cache.origins = c.pool.cache.origins
  recorded : p.cache.records.map (·.handle) = Trace.unitsMade p.calls
  released : ∀ u r, p.cache.get? u = some r → (r.released = true ↔ ¬ c.Adrift u)
  untouched : ∀ u, c.Adrift u → p.cache.get? u = c.pool.cache.get? u
  disposed : ∀ u r, p.cache.get? u = some r →
    (Trace.unitsDisposed p.calls).count r.handle = if c.Adrift u then 0 else 1
  closedLast : ∃ before reply, p.calls = before ++ [⟨.close, reply⟩] ∧
    ∀ x ∈ before, x.request ≠ .close
  empty : p.cache.kept = []

theorem mem_left_iff : u ∈ c.held.filter (· ∉ c.pool.cache.keptRefs) ↔ c.Adrift u := by
  rw [List.mem_filter, decide_eq_true_iff]
  rfl

/-- All references to a record adrift are those of the clients, before the teardown and after. -/
theorem get?_adrift (hb : Balanced c.pool.cache c.pool.calls c.held)
    (ht : p.TornDown c.held c.pool.cache) (hu : c.Adrift u) :
    p.cache.get? u = c.pool.cache.get? u := by
  obtain ⟨calls, reply, -, hledger⟩ := ht.ledger
  have hmem : u ∈ c.held ++ c.pool.cache.keptRefs := List.mem_append_left _ hu.1
  obtain ⟨r, hr⟩ := hb.counted.get hmem
  have horigins : c.pool.cache.origins <+: p.cache.origins := ht.origins ▸ List.prefix_rfl
  obtain ⟨r', hr', horigin⟩ := Cache.origin_of_prefix horigins hr
  have hcount : r'.refCount = r.refCount := by
    rw [hledger.counted.count u r' hr', hb.counted.count u r hr, List.count_append,
      List.count_eq_zero.mpr hu.2, List.count_filter (by simpa using hu.2)]
    rfl
  have hreleased : r'.released = r.released := by
    rw [hledger.counted.not_released hr' (mem_left_iff.mpr hu), hb.counted.not_released hr hmem]
  rw [hr, hr']
  exact congrArg some (UnitRecord.eq_of_origin horigin hcount hreleased)

theorem settled_of_tornDown (hb : Balanced c.pool.cache c.pool.calls c.held)
    (ht : p.TornDown c.held c.pool.cache) (hn : (Trace.unitsMade p.calls).Nodup) :
    c.Settled p := by
  obtain ⟨calls, reply, hcalls, hledger⟩ := ht.ledger
  have hmade : Trace.unitsMade p.calls = Trace.unitsMade calls := by
    rw [hcalls]
    simp [Trace.unitsMade, Trace.parsed, Call.parsed?]
  have hdisposed : Trace.unitsDisposed p.calls = Trace.unitsDisposed calls := by
    rw [hcalls]
    simp [Trace.unitsDisposed, Request.unitDisposed?]
  rw [hmade] at hn
  refine ⟨ht.origins, ?_, fun u r hr => ?_, fun u hu => get?_adrift hb ht hu, fun u r hr => ?_,
    ⟨calls, reply, hcalls, hledger.unclosed⟩, ht.kept⟩
  · rw [hmade, hledger.unitsMade_eq]
  · rw [hledger.released_iff hr, mem_left_iff]
  · rw [hdisposed, hledger.count_handle hn hr]
    simp only [mem_left_iff]

variable (E : Engine σ) (settings : Settings)

/-- **Teardown.** After any history, over an engine that answers every call and never hands out a
handle twice, a teardown puts every record out of use but those that clients hold and the pool no
longer keeps. Each unit but theirs has gone back once, before the engine was closed, and that was
once as well. A second teardown does nothing. -/
theorem teardown_settles (state : σ) (journal : Journal) (errands : List Errand)
    (ha : Trace.Answered (Pool.teardown E.traced
      (run E.traced settings (opened state journal) errands).pool).2.calls)
    (hn : (Trace.unitsMade (Pool.teardown E.traced
      (run E.traced settings (opened state journal) errands).pool).2.calls).Nodup) :
    let c := run E.traced settings (opened state journal) errands
    let torn := Pool.teardown E.traced c.pool
    torn.1 = .ok () ∧ c.Settled torn.2 ∧ Pool.teardown E.traced torn.2 = (.ok (), torn.2) := by
  intro c torn
  have hb : Balanced c.pool.cache c.pool.calls c.held :=
    (sound_run E settings (sound_opened state journal) errands).balanced
  have hends : (Pool.teardown E.traced).Ends c.pool _ _ := Pool.ends_teardown hb
  have hok : torn.1 = .ok () := by
    rcases hresult : torn.1 with e | _
    · exact absurd ha (Trace.not_answered_of_failed (hends.of_error hresult).failed)
    · rfl
  have htorn : torn.2.TornDown c.held c.pool.cache := hends.of_ok hok
  exact ⟨hok, settled_of_tornDown hb htorn hn, Pool.teardown_again E.traced htorn.closed⟩

/-- Two references to a kept unit, one to a unit that was dropped for its flags, and a unit that
could not be brought up to date. -/
theorem teardown_settles_held :
    let state : Script := { reparses := [0, 0, 0, 4] }
    let errands : List Errand := [.request .parse "a" [] [], .request .parse "a" ["-x"] [],
      .request .obtain "a" ["-x"] [], .request .parse "b" [] [], .request .parse "c" [] []]
    let c := run Script.engine.traced {} (opened state {}) errands
    let torn := Pool.teardown Script.engine.traced c.pool
    torn.1 = .ok () ∧ c.Settled torn.2 ∧
      Pool.teardown Script.engine.traced torn.2 = (.ok (), torn.2) ∧
      torn.2.cache.records.map (·.refCount) = [1, 0, 0, 0] ∧
      Trace.unitsDisposed torn.2.calls = [4, 2, 3] := by
  intro state errands c torn
  obtain ⟨hok, hsettled, hagain⟩ :=
    teardown_settles Script.engine {} state {} errands (by decide +kernel) (by decide +kernel)
  exact ⟨hok, hsettled, hagain, by decide +kernel, by decide +kernel⟩

/-- A unit that was dropped for its flags while a client holds it is not given back. -/
theorem dropped_outlives_teardown :
    let c := run Script.engine.traced {} (opened {} {})
      [.request .parse "a" [] [], .request .parse "a" ["-x"] []]
    let p := (Pool.teardown Script.engine.traced c.pool).2
    Trace.Answered p.calls ∧ (Trace.unitsMade p.calls).Nodup ∧
      ¬ (∀ r ∈ p.cache.records, r.released = true) ∧
      ¬ (∀ unit ∈ Trace.unitsMade p.calls, (Trace.unitsDisposed p.calls).count unit = 1) := by
  decide

end CodeSense.Client
