import CodeSense.Engine.Script
import CodeSense.Proofs.Pool.Teardown
import CodeSense.Proofs.Session.Sound

/-!
# How a session treats the engine

Over a whole session, from its opening to its disposal, no handle is used before the engine
gave it out or after it went back, and every handle goes back exactly once:
`session_disciplined`.
-/

namespace CodeSense

structure Trace.Disciplined (calls : List Call) : Prop where
  unitsLive : Throughout NamesLiveUnit calls
  setsLive : Throughout NamesLiveSet calls
  unitsOnce : ∀ unit ∈ unitsMade calls, (unitsDisposed calls).count unit = 1
  setsOnce : ∀ set ∈ setsMade calls, (setsDisposed calls).count set = 1
  oneSet : ∀ before after, calls = before ++ after →
    ∀ set set', LiveSet before set → LiveSet before set' → set = set'
  setFirst : ∀ unit set, (unit, set) ∈ computed calls → ∀ before reply after,
    calls = before ++ ⟨.disposeUnit unit, reply⟩ :: after → set ∈ setsDisposed before
  closedLast : ∃ before reply, calls = before ++ [⟨.close, reply⟩] ∧
    ∀ c ∈ before, c.request ≠ .close

namespace Session

variable {σ : Type} {E : Engine σ} {s : Session (Traced σ)}

structure Closed (s : Session (Traced σ)) : Prop where
  ledger : ∃ calls reply, s.calls = calls ++ [⟨.close, reply⟩] ∧ Ledger s.pool.cache calls []
  sets : Trace.SetsOut s.calls []

theorem ends_dispose (h : s.Sound) :
    (dispose E.traced).Ends s (fun _ => Closed) (fun e s' => Trace.Failed s'.calls e) := by
  unfold dispose
  rw [Act.ends_bind]
  refine (ends_resetActive h).mono (fun _ s₁ h₁ => ?_) fun e s₁ h₁ => h₁.2.failed
  have hbuilt : Pool.Built E.traced (·.sparesSets = true) (Pool.teardown E.traced) :=
    Pool.teardown_built (fun _ => rfl) rfl
  rw [ends_onPool]
  refine ((Pool.ends_teardown h₁.balanced).and (hbuilt.grows.ends s₁.pool)).mono ?_ fun e p hf =>
    hf.1.failed
  intro _ p hend
  obtain ⟨htorn, new, hcalls, hnew⟩ := hend
  refine ⟨htorn.ledger, ?_⟩
  rw [show Session.calls _ = p.calls from rfl, hcalls]
  exact h₁.sets.append_sparing hnew

theorem Closed.disciplined (h : s.Closed) (ha : Trace.Answered s.calls)
    (hunits : (Trace.unitsMade s.calls).Nodup) (hsets : (Trace.setsMade s.calls).Nodup) :
    Trace.Disciplined s.calls := by
  obtain ⟨calls, reply, hcalls, hledger⟩ := h.ledger
  have hmade : Trace.unitsMade s.calls = Trace.unitsMade calls := by
    rw [hcalls]
    simp [Trace.unitsMade, Trace.parsed, Call.parsed?]
  have hdisposed : Trace.unitsDisposed s.calls = Trace.unitsDisposed calls := by
    rw [hcalls]
    simp [Trace.unitsDisposed, Request.unitDisposed?]
  have hlive : Trace.Throughout Trace.NamesLiveUnit s.calls := by
    rw [hmade] at hunits
    rw [hcalls]
    refine Trace.throughout_snoc.mpr ⟨hledger.live hunits, fun unit hu => ?_⟩
    cases hu
  have hfits := h.sets.fits ha hsets
  have hperm := h.sets.made ha
  rw [List.append_nil] at hperm
  refine ⟨hlive, fun before c after hc => (hfits before c after hc).1, fun unit hu => ?_,
    fun set hset => ?_, fun before after hc set set' => ?_,
    fun unit set hc before reply after hd => ?_, calls, reply, hcalls, hledger.unclosed⟩
  · rw [hmade] at hunits hu
    rw [hdisposed]
    exact hledger.count_unitsDisposed hunits hu
  · rw [← hperm.count_eq]
    exact List.count_eq_one_of_mem hsets hset
  · rw [hc] at hfits
    exact Trace.liveSet_unique hfits.of_append
  · exact Trace.set_disposed_before_unit hfits hlive hd hc

def lifetime (E : Engine σ) (state : σ) (settings : Settings) (journal : Journal)
    (moves : List (FileSystem × Operation)) : List Call :=
  (dispose E.traced (run E.traced (opened state settings journal) moves)).2.calls

/-- **The engine is treated well.** After any operations and the disposal of the session, over an
engine that answers every call and never hands out a handle twice. -/
theorem session_disciplined (state : σ) (settings : Settings) (journal : Journal)
    (moves : List (FileSystem × Operation))
    (ha : Trace.Answered (lifetime E state settings journal moves))
    (hunits : (Trace.unitsMade (lifetime E state settings journal moves)).Nodup)
    (hsets : (Trace.setsMade (lifetime E state settings journal moves)).Nodup) :
    Trace.Disciplined (lifetime E state settings journal moves) := by
  have hrun := sound_run (E := E) (sound_opened state settings journal) moves
  have hclosed := Act.Ends.state (P := fun s => Trace.Answered s.calls → Closed s)
    ((ends_dispose (E := E) hrun).mono (fun _ s' hc _ => hc) fun e s' hf ha' =>
      absurd ha' (Trace.not_answered_of_failed hf))
  exact (hclosed ha).disciplined ha hunits hsets

/-- A crash, completions, an eviction and a unit that cannot be brought up to date. -/
theorem session_disciplined_evicted :
    let calls := lifetime Script.engine { parses := [(2, false), (0, true)], reparses := [0, 0, 1] }
      {} {} [({}, .parse "a" []), ({}, .complete "a" 1 1 []), ({}, .complete "a" 2 1 ["-x"]),
        ({}, .completionDiagnostics), ({}, .parse "b" []), ({}, .parse "c" []), ({}, .diagnostics),
        ({}, .complete "c" 1 1 [])]
    Trace.Disciplined calls ∧ Trace.unitsDisposed calls = [1, 5, 3, 6] ∧
      Trace.setsDisposed calls = [2, 4, 7] :=
  ⟨session_disciplined _ _ _ _ (by decide +kernel) (by decide +kernel) (by decide +kernel),
    by decide +kernel, by decide +kernel⟩

end Session

end CodeSense
