import CodeSense.Proofs.Session.Sound
import CodeSense.Proofs.Session.Steps

/-!
# When a session reads result sets

As long as the engine answered, a session reads a result set only while it is out:
`reads_run`. Whether the engine answers the very call that reads is not asked here.
-/

namespace CodeSense

namespace Trace

variable {calls new : List Call} {out : List Handle} {set : Handle} {c : Call}

def ReadsLiveSet (before : List Call) (c : Call) : Prop :=
  Answered before → (setsMade before).Nodup →
    ∀ set, c.request.setRead? = some set → LiveSet before set

def ReadsLive (calls : List Call) : Prop := Throughout ReadsLiveSet calls

theorem ReadsLive.append (h : ReadsLive calls) (hnew : ∀ c ∈ new, c.request.setRead? = none) :
    ReadsLive (calls ++ new) := by
  induction new generalizing calls with
  | nil => simpa using h
  | cons c new ih =>
    have hc := hnew c (List.mem_cons_self ..)
    rw [List.append_cons]
    refine ih (throughout_snoc.mpr ⟨h, fun _ _ set hset => ?_⟩) fun d hd =>
      hnew d (List.mem_cons_of_mem _ hd)
    rw [hc] at hset
    cases hset

theorem ReadsLive.snoc (h : ReadsLive calls) (hout : SetsOut calls out)
    (hc : ∀ set, c.request.setRead? = some set → set ∈ out) : ReadsLive (calls ++ [c]) :=
  throughout_snoc.mpr ⟨h, fun ha hn set hset => hout.liveSet ha hn (hc set hset)⟩

end Trace

namespace Session

variable {σ : Type} {E : Engine σ} {s s' : Session (Traced σ)}

def ReadsLive (s : Session (Traced σ)) : Prop := Trace.ReadsLive s.calls

theorem ReadsLive.grows (h : s.ReadsLive) (hg : Pool.Grows (·.setRead? = none) s.pool s'.pool) :
    s'.ReadsLive := by
  obtain ⟨new, hcalls, hnew⟩ := hg
  rw [ReadsLive, Session.calls, hcalls]
  exact Trace.ReadsLive.append h hnew

theorem ReadsLive.calm (h : s.ReadsLive) (hc : Calm s s') : s'.ReadsLive := by
  rw [ReadsLive, hc.calls]
  exact h

theorem Completes.reads {file : String} {line column : Int} {flags : List String}
    {o : Except Fault Unit} (hc : Completes E.traced file line column flags s o s') (h : s.Sound)
    (hreads : s.ReadsLive) : s'.ReadsLive := by
  have hspares : Allows (·.setRead? = none)
      [.disposeCompletion, .disposeUnit, .parse, .reparse, .pause, .codeComplete] := by
    intro r hr
    cases r <;> first | rfl | simp [Request.kind] at hr
  have hreset {o : Except Fault Unit} {s₁ : Session (Traced σ)}
      (h : resetActive E.traced s = (o, s₁)) : s₁.ReadsLive :=
    hreads.grows (((covers_grows E _).resetActive (hspares.mono (by decide))).run h)
  have hrequested {s₁ s₂ : Session (Traced σ)} {o : Except Fault (Option Handle)}
      (h : resetActive E.traced s = (.ok (), s₁))
      (hr : Requested E.traced file line column flags s₁ o s₂) : s₂.ReadsLive :=
    (hreset h).grows ((covers_grows E _).requested (hspares.mono (by decide)) hr)
  -- the set has just been computed, and is still out
  have hresults {s₁ s₂ s₃ : Session (Traced σ)} {id : Handle} {o : Except Fault (List ResultEntry)}
      (hs₁ : resetActive E.traced s = (.ok (), s₁))
      (hr : Requested E.traced file line column flags s₁ (.ok (some id)) s₂)
      (hcall : call E.traced (.completionResults id) s₂ = (o, s₃)) : s₃.ReadsLive := by
    obtain ⟨reply, -, hcalled⟩ := called_of_call hcall
    have hsets := (hr.idle ((ends_resetActive h).at_ok hs₁)).sets
    rw [ReadsLive, hcalled.calls]
    refine Trace.ReadsLive.snoc (hrequested hs₁ hr) hsets fun set hset => ?_
    cases hset
    exact List.mem_singleton.mpr rfl
  cases hc with
  | unreset h => exact hreset h
  | stopped h hr => exact hrequested h hr
  | refused h hr _ hw => exact (hrequested h hr).calm hw.calm
  | unwritten h hr => exact hrequested h hr
  | lost h hr hcall => exact hresults h hr hcall
  | unlogged h hr hcall =>
    have hread := hresults h hr hcall
    exact hread
  | installed h hr hcall hw =>
    have hread := hresults h hr hcall
    rw [ReadsLive, hw.calm.calls]
    exact hread

theorem Queried.reads {op : Operation} {o : Except Fault Unit} (hq : Queried E.traced s op o s')
    (h : s.Sound) (hreads : s.ReadsLive) : s'.ReadsLive := by
  have hcalls {r : Request} {o : Except Fault r.Answer} {s₁ : Session (Traced σ)}
      (hr : op.asks? s = some r) (hcall : call E.traced r s = (o, s₁)) : s₁.ReadsLive := by
    obtain ⟨reply, -, hcalled⟩ := called_of_call hcall
    rw [ReadsLive, hcalled.calls]
    refine Trace.ReadsLive.snoc hreads h.sets fun set hset => ?_
    cases Operation.inquires_of_asks? hr with
    | completionDiagnostics hactive =>
      cases hset
      simp [hactive]
    | _ => cases hset
  cases hq with
  | known hr hw => exact hreads.calm hw.calm
  | failed hr hcall => exact hcalls hr hcall
  | told hr hcall hw => exact (hcalls hr hcall).calm hw.calm

theorem perform_reads (h : s.Sound) (hreads : s.ReadsLive) (op : Operation) :
    (perform E.traced op s).2.ReadsLive := by
  by_cases hquery : op.isQuery = true
  · exact (queried_perform hquery s).reads h hreads
  · cases op with
    | complete file line column flags => exact (completes_complete s).result.reads h hreads
    | _ =>
      refine hreads.grows (perform_moves (covers_grows E _) _ (fun r hr => ?_) s)
      cases r <;> first | rfl | simp [Operation.kinds, Operation.isQuery, Request.kind] at hr hquery

theorem reads_run (h : s.Sound) (hreads : s.ReadsLive)
    (moves : List (FileSystem × Operation)) : (run E.traced s moves).ReadsLive := by
  induction moves generalizing s with
  | nil => exact hreads
  | cons move moves ih => exact ih (sound_step h move) (perform_reads (h.withFiles move.1) hreads move.2)

end Session

end CodeSense
