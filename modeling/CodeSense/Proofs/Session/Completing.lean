import CodeSense.Engine.Script
import CodeSense.Proofs.Session.Sound

/-!
# What a completion gets and gives back

A completion gets a reference to a unit, and a result set. It gives the reference back before it
looks at the set, whatever the engine breaks off. The set becomes the active one: `complete_settled`.
The one way to lose it is that the engine breaks off the reading of its results
(`results_lost`).
-/

namespace CodeSense

theorem Trace.setsMade_eq_nil {calls : List Call}
    (h : ∀ c ∈ calls, c.request.kind ≠ .codeComplete) : setsMade calls = [] := by
  simp only [setsMade, computed, List.map_eq_nil_iff, List.filterMap_eq_nil_iff]
  exact fun c hc => Call.computed?_eq_none (h c hc)

namespace Session

variable {σ : Type} {E : Engine σ} {s s' t : Session (Traced σ)} {file : String}
  {flags : List String} {line column : Int} {overlays : List Overlay} {u : UnitRef}

def Brings (sets : List Handle) (s s' : Session (Traced σ)) : Prop :=
  ∃ new, s'.calls = s.calls ++ new ∧ Trace.setsMade new = sets

theorem Brings.trans {sets sets' : List Handle} (h : Brings sets s t) (h' : Brings sets' t s') :
    Brings (sets ++ sets') s s' := by
  obtain ⟨new, ht, rfl⟩ := h
  obtain ⟨new', hs', rfl⟩ := h'
  exact ⟨new ++ new', by rw [hs', ht, List.append_assoc], Trace.setsMade_append _ _⟩

theorem brings_nil (h : Pool.Grows (·.kind ≠ .codeComplete) s.pool s'.pool) : Brings [] s s' := by
  obtain ⟨new, hcalls, hnew⟩ := h
  exact ⟨new, hcalls, Trace.setsMade_eq_nil hnew⟩

/-! ## The reference -/

/-- A completion in `s` gets the unit `u`, and `c` is the cache then. -/
def Gets (E : Engine σ) (file : String) (flags : List String) (s : Session σ) (u : UnitRef)
    (c : Cache) : Prop :=
  ∃ s₁ p, resetActive E s = (.ok (), s₁) ∧
    Pool.obtain E s₁.settings file flags s₁.overlays.pairs s₁.pool = (.ok u, p) ∧ p.cache = c

/-- The reference is there in addition to the cache's own. -/
theorem Served.counted {p : Pool (Traced σ)} (h : Served u p) :
    ∃ r, p.cache.get? u = some r ∧ r.released = false ∧ r.refCount = 2 := by
  obtain ⟨r, hr⟩ := h.balanced.counted.get (List.mem_cons_self ..)
  have hcount := h.balanced.counted.count u r hr
  have hkept := Cache.count_keptRefs h.balanced.filed hr
  have hpos := List.count_pos_iff.mpr h.kept
  rw [List.cons_append, List.nil_append, List.count_cons_self] at hcount
  refine ⟨r, hr, h.balanced.counted.not_released hr (List.mem_cons_self ..), ?_⟩
  split at hkept <;> omega

theorem Consulted.brings {o : Except Fault (Option Handle)}
    (h : Consulted u file line column overlays s o s') : Brings (o.toOption.join).toList s s' := by
  obtain ⟨unit, reply, hreply, hcalls⟩ := h.calls
  refine ⟨_, hcalls, ?_⟩
  cases o with
  | error e => simp [Trace.setsMade, Trace.computed, Call.computed?, hreply, Except.toOption]
  | ok o => cases o <;> simp [Trace.setsMade, Trace.computed, Call.computed?, hreply, Except.toOption]

def Returned (E : Engine σ) (file : String) (flags : List String) (s : Session (Traced σ))
    (c' : Cache) : Prop :=
  ∀ u c, Gets E.traced file flags s u c →
    (∃ r, c.get? u = some r ∧ r.released = false ∧ r.refCount = 2) ∧ c' = c.retain u (-1)

theorem Returned.of_failed {e : Fault} {c' : Cache}
    (h : resetActive E.traced s = (.error e, t)) : Returned E file flags s c' := by
  rintro u c ⟨s₁, p, hreset, -⟩
  rw [h] at hreset
  cases hreset

theorem Requested.brings {o : Except Fault (Option Handle)}
    (hr : Requested E.traced file line column flags s o s') (h : s.Idle []) :
    Brings (o.toOption.join).toList s s' := by
  have hobtain {o : Except Fault UnitRef} {p : Pool (Traced σ)}
      (hp : Pool.obtain E.traced s.settings file flags s.overlays.pairs s.pool = (o, p)) :
      Brings [] s { s with pool := p } := by
    have hbuilt : Pool.Built E.traced (·.kind ≠ .codeComplete)
        (Pool.obtain E.traced s.settings file flags s.overlays.pairs) := by
      refine Pool.obtain_built (fun _ => ?_) (fun _ => ?_) ?_ ?_ <;> simp [Request.kind]
    exact brings_nil (hbuilt.grows.run hp)
  cases hr with
  | stopped hp => exact hobtain hp
  | refused hp hw =>
    have hcalm : Brings [] _ s' := brings_nil (Pool.grows_of_calls_eq hw.calm.calls)
    exact (hobtain hp).trans hcalm
  | @served u p _ _ hp hrun =>
    have hserved := h.ends_obtain.at_ok hp
    exact (hobtain hp).trans (consulted_of_served (s := { s with pool := p }) hserved hrun).brings

theorem Requested.returned {o : Except Fault (Option Handle)}
    (hr : Requested E.traced file line column flags t o s')
    (hreset : resetActive E.traced s = (.ok (), t)) (h : t.Idle []) :
    Returned E file flags s s'.pool.cache := by
  -- what the completion gets, if anything, is what this request got
  have hgets {o : Except Fault UnitRef} {p : Pool (Traced σ)} {u : UnitRef} {c : Cache}
      (hp : Pool.obtain E.traced t.settings file flags t.overlays.pairs t.pool = (o, p))
      (hc : Gets E.traced file flags s u c) : o = .ok u ∧ p.cache = c := by
    obtain ⟨s₁, p', hs₁, hobtain, hcache⟩ := hc
    rw [hreset] at hs₁
    cases hs₁
    rw [hp] at hobtain
    cases hobtain
    exact ⟨rfl, hcache⟩
  cases hr with
  | stopped hp =>
    intro u c hc
    cases (hgets hp hc).1
  | refused hp hw =>
    intro u c hc
    cases (hgets hp hc).1
  | @served v p _ _ hp hrun =>
    intro u c hc
    obtain ⟨hv, rfl⟩ := hgets hp hc
    cases hv
    have hserved := h.ends_obtain.at_ok hp
    have hconsulted := consulted_of_served (s := { t with pool := p }) hserved hrun
    exact ⟨hserved.counted, hconsulted.cache⟩

/-! ## The result set -/

def Lost (calls : List Call) (result : Except Fault Unit) (set : Handle) : Prop :=
  ∃ reply e, ⟨.completionResults set, reply⟩ ∈ calls ∧ reply.result = .error e ∧ result = .error e

/-- A completion that led from `s` to `s'` kept its result set, and no reference. -/
structure Settled (E : Engine σ) (file : String) (flags : List String) (s : Session (Traced σ))
    (result : Except Fault Unit) (s' : Session (Traced σ)) : Prop where
  sets : ∃ new, s'.calls = s.calls ++ new ∧ ∀ set ∈ Trace.setsMade new,
    s'.activeCompletion.map (·.handle) = some set ∨ Lost new result set
  reference : Returned E file flags s s'.pool.cache

theorem Brings.settled {result : Except Fault Unit} (h : Brings [] s s')
    (hreturned : Returned E file flags s s'.pool.cache) : Settled E file flags s result s' := by
  obtain ⟨new, hcalls, hnew⟩ := h
  refine ⟨⟨new, hcalls, fun set hset => ?_⟩, hreturned⟩
  rw [hnew] at hset
  cases hset

theorem Settled.calm {result : Except Fault Unit} (h : Settled E file flags s result t)
    (hcalm : Calm t s') : Settled E file flags s result s' := by
  constructor
  · rw [hcalm.calls, hcalm.completion]
    exact h.sets
  · rw [hcalm.cache]
    exact h.reference

theorem Completes.settled {o : Except Fault Unit}
    (hc : Completes E.traced file line column flags s o s') (h : s.Sound) :
    Settled E file flags s o s' := by
  have hreset {o : Except Fault Unit} {s₁ : Session (Traced σ)}
      (h : resetActive E.traced s = (o, s₁)) : Brings [] s s₁ := by
    have hspares : Allows (·.kind ≠ .codeComplete) [.disposeCompletion, .disposeUnit] := by
      intro r hr hk
      simp [hk] at hr
    exact brings_nil (((covers_grows E _).resetActive hspares).run h)
  have hidle {s₁ : Session (Traced σ)} (hs₁ : resetActive E.traced s = (.ok (), s₁)) : s₁.Idle [] :=
    (ends_resetActive h).at_ok hs₁
  -- a set that was computed is read at once
  have hread {s₁ s₂ s₃ : Session (Traced σ)} {id : Handle} {o : Except Fault (List ResultEntry)}
      (hs₁ : resetActive E.traced s = (.ok (), s₁))
      (hr : Requested E.traced file line column flags s₁ (.ok (some id)) s₂)
      (hcall : call E.traced (.completionResults id) s₂ = (o, s₃)) :
      Returned E file flags s s₃.pool.cache ∧
        ∃ new reply, reply.result = o ∧
          s₃.calls = s.calls ++ (new ++ [⟨.completionResults id, reply⟩]) ∧
          Trace.setsMade (new ++ [⟨.completionResults id, reply⟩]) = [id] := by
    obtain ⟨new, hcalls, hnew⟩ := (hreset hs₁).trans (hr.brings (hidle hs₁))
    obtain ⟨reply, hreply, hcalled⟩ := called_of_call hcall
    refine ⟨?_, new, reply, hreply, ?_, ?_⟩
    · rw [hcalled.cache]
      exact hr.returned hs₁ (hidle hs₁)
    · rw [hcalled.calls, hcalls, List.append_assoc]
    · rw [Trace.setsMade_append, hnew]
      rfl
  have hinstalled {s₁ s₂ s₃ : Session (Traced σ)} {id : Handle} {entries : List ResultEntry}
      (o : Except Fault Unit) (hs₁ : resetActive E.traced s = (.ok (), s₁))
      (hr : Requested E.traced file line column flags s₁ (.ok (some id)) s₂)
      (hcall : call E.traced (.completionResults id) s₂ = (.ok entries, s₃)) :
      Settled E file flags s o { s₃ with activeCompletion := some (.ofResults id entries) } := by
    obtain ⟨hreturned, new, reply, -, hcalls, hnew⟩ := hread hs₁ hr hcall
    refine ⟨⟨_, hcalls, fun set hset => .inl ?_⟩, hreturned⟩
    rw [hnew, List.mem_singleton] at hset
    rw [hset]
    rfl
  cases hc with
  | unreset hs₁ => exact (hreset hs₁).settled (.of_failed hs₁)
  | stopped hs₁ hr =>
    exact ((hreset hs₁).trans (hr.brings (hidle hs₁))).settled (hr.returned hs₁ (hidle hs₁))
  | @refused _ s₂ _ hs₁ hr hplace hw =>
    have hsettled : Settled E file flags s (.ok ()) s₂ :=
      ((hreset hs₁).trans (hr.brings (hidle hs₁))).settled (hr.returned hs₁ (hidle hs₁))
    exact hsettled.calm hw.calm
  | unwritten hs₁ hr =>
    exact ((hreset hs₁).trans (hr.brings (hidle hs₁))).settled (hr.returned hs₁ (hidle hs₁))
  | lost hs₁ hr hcall =>
    obtain ⟨hreturned, new, reply, hreply, hcalls, hnew⟩ := hread hs₁ hr hcall
    refine ⟨⟨_, hcalls, fun set hset => .inr ?_⟩, hreturned⟩
    rw [hnew, List.mem_singleton] at hset
    rw [hset]
    exact ⟨reply, _, by simp, hreply, rfl⟩
  | unlogged hs₁ hr hcall => exact hinstalled _ hs₁ hr hcall
  | installed hs₁ hr hcall hw => exact (hinstalled _ hs₁ hr hcall).calm hw.calm

theorem Sound.references (h : s.Sound) (u : UnitRef) (r : UnitRecord)
    (hr : s.pool.cache.get? u = some r) :
    r.refCount = (if s.activeParse = some u then 1 else 0) +
      if s.pool.cache.kept.get? r.file = some u then 1 else 0 := by
  have hactive : s.activeParse.toList.count u = if s.activeParse = some u then 1 else 0 := by
    cases s.activeParse <;> simp [List.count_singleton]
  rw [h.balanced.refCount_eq hr, hactive]
  split <;> rfl

/-- **Completions.** Whatever came before and whatever the engine breaks off, a completion gives the
reference to the unit back exactly once, and its result set is the active one, unless the
engine broke off the reading of it. Nothing holds a reference afterwards but the cache and the
active unit. -/
theorem complete_settled (state : σ) (settings : Settings) (journal : Journal)
    (moves : List (FileSystem × Operation)) (files : FileSystem) (file : String) (line column : Int)
    (flags : List String) :
    let s := { run E.traced (opened state settings journal) moves with files }
    let (result, s') := complete E.traced file line column flags s
    Settled E file flags s result s' ∧
      ∀ u r, s'.pool.cache.get? u = some r →
        r.refCount = (if s'.activeParse = some u then 1 else 0) +
          if s'.pool.cache.kept.get? r.file = some u then 1 else 0 := by
  have hsound : Sound { run E.traced (opened state settings journal) moves with files } :=
    (sound_run (sound_opened state settings journal) moves).withFiles files
  intro s
  have hcompletes : Completes E.traced file line column flags s
      (complete E.traced file line column flags s).1
      (complete E.traced file line column flags s).2 := (completes_complete s).result
  generalize complete E.traced file line column flags s = run at hcompletes ⊢
  obtain ⟨result, s'⟩ := run
  refine ⟨hcompletes.settled hsound, Sound.references ?_⟩
  cases result with
  | error e => exact (hcompletes.stops hsound).sound
  | ok _ => exact hcompletes.sound hsound

/-- The engine hands out a result set and breaks off the reading of it. Nobody has that set any more. -/
theorem results_lost :
    let s := opened (σ := Script)
      { traps := [(.completionResults, { fault := .engine .runtime "lost" })] } {} {}
    let (result, s') := complete Script.engine.traced "a.c" 1 1 [] s
    Trace.setsMade s'.calls = [2] ∧ Trace.setsDisposed s'.calls = [] ∧
      s'.activeCompletion.isNone = true ∧ result = .error (.engine .runtime "lost") := by
  decide +kernel

end Session

end CodeSense
