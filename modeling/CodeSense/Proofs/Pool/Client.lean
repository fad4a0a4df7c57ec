import CodeSense.Engine.Script
import CodeSense.Proofs.Pool.Growth
import CodeSense.Proofs.Pool.Operations

/-!
# Clients of a pool

Clients ask for units in any order and give back references that they hold. After any such
history every count is exact: `references_accounted`.
-/

namespace CodeSense

inductive Demand where
  | parse | obtain
  deriving DecidableEq, Repr

def Pool.serve (E : Engine σ) (settings : Settings) :
    Demand → String → List String → List Overlay → Act (Pool σ) UnitRef
  | .parse => Pool.parse E settings
  | .obtain => Pool.obtain E settings

/-- A kept unit may be handed out as it is. All else is parsing. -/
theorem Pool.serve_cases (E : Engine σ) (settings : Settings) (demand : Demand) (file : String)
    (flags : List String) (overlays : List Overlay) (p : Pool (Traced σ)) :
    (∃ u r, p.cache.kept.get? file = some u ∧ p.cache.get? u = some r ∧
      r.flags = settings.compilerArguments flags ∧
      serve E.traced settings demand file flags overlays p =
        (.ok u, { p with cache := p.cache.countHit.retain u 1 })) ∨
    Parsed E settings file (settings.compilerArguments flags) overlays p
      (serve E.traced settings demand file flags overlays p).1
      (serve E.traced settings demand file flags overlays p).2 := by
  cases demand with
  | parse => exact .inr (parse_parsed p).result
  | obtain =>
    refine (obtain_cases E settings file flags overlays p).imp id fun hparse => ?_
    have hobtain : serve E.traced settings .obtain file flags overlays p =
      parse E.traced settings file flags overlays p := hparse.2
    rw [hobtain]
    exact (parse_parsed p).result

inductive Errand where
  | request (demand : Demand) (file : String) (flags : List String) (overlays : List Overlay)
  | giveBack (u : UnitRef)
  deriving DecidableEq, Repr

structure Errand.Done where
  errand : Errand
  outcome : Except Fault (Option UnitRef)

structure Client (σ : Type) where
  pool : Pool σ
  held : List UnitRef := []
  past : List Errand.Done := []

namespace Client

variable {σ : Type}

def opened (state : σ) (journal : Journal) : Client (Traced σ) where
  pool := { engine := { state }, journal }

def onPool (x : Act (Pool σ) α) : Act (Client σ) α :=
  .within (·.pool) (fun pool c => { c with pool }) x

def request (x : Act (Pool σ) UnitRef) : Act (Client σ) (Option UnitRef) := do
  let u ← onPool x
  .modify fun c => { c with held := u :: c.held }
  return some u

def giveBack (E : Engine σ) (u : UnitRef) : Act (Client σ) (Option UnitRef) := do
  let c ← .get
  if u ∈ c.held then do
    .modify fun c => { c with held := c.held.erase u }
    onPool (Pool.release E u)
    return none
  else return none

def perform (E : Engine σ) (settings : Settings) : Errand → Act (Client σ) (Option UnitRef)
  | .request demand file flags overlays =>
    request (Pool.serve E settings demand file flags overlays)
  | .giveBack u => giveBack E u

def step (E : Engine σ) (settings : Settings) (c : Client σ) (e : Errand) : Client σ :=
  let (outcome, c') := perform E settings e c
  { c' with past := c.past ++ [⟨e, outcome⟩] }

def run (E : Engine σ) (settings : Settings) (c : Client σ) (errands : List Errand) : Client σ :=
  errands.foldl (step E settings) c

variable (E : Engine σ) (settings : Settings) {c : Client (Traced σ)}

/-- There is no unit, or it cannot be said how that came. -/
def LacksUnit (e : Fault) : Prop := (∃ f, e.failure? = some f) ∨ e = .tooManyDigits

structure Sound (c : Client (Traced σ)) : Prop where
  balanced : Balanced c.pool.cache c.pool.calls c.held
  faults : ∀ d ∈ c.past, ∀ e, d.outcome = .error e →
    Trace.Failed c.pool.calls e ∨ LacksUnit e

theorem sound_opened (state : σ) (journal : Journal) : (opened state journal).Sound :=
  ⟨.empty rfl rfl rfl, by simp [opened]⟩

theorem ends_serve {p : Pool (Traced σ)} {held : List UnitRef} (hb : Balanced p.cache p.calls held)
    (demand : Demand) (file : String) (flags : List String) (overlays : List Overlay) :
    (Pool.serve E.traced settings demand file flags overlays).Ends p
      (Pool.Granted file (settings.compilerArguments flags) held p)
      (Pool.Denied file (settings.compilerArguments flags) held p) := by
  cases demand with
  | parse => exact Pool.ends_parse hb
  | obtain => exact Pool.ends_obtain hb

theorem ends_request (hb : Balanced c.pool.cache c.pool.calls c.held) (demand : Demand)
    (file : String) (flags : List String) (overlays : List Overlay) :
    (perform E.traced settings (.request demand file flags overlays)).Ends c
      (fun o c' => ∃ u, o = some u ∧ c'.held = u :: c.held ∧
        Pool.Granted file (settings.compilerArguments flags) c.held c.pool u c'.pool)
      (fun e c' => c'.held = c.held ∧
        Pool.Denied file (settings.compilerArguments flags) c.held c.pool e c'.pool) := by
  unfold perform request onPool
  rw [Act.ends_bind, Act.ends_within]
  refine (ends_serve E settings hb demand file flags overlays).mono (fun u p hg => ?_)
    fun e p hd => ⟨rfl, hd⟩
  exact ⟨u, rfl, rfl, hg⟩

theorem ends_giveBack (hb : Balanced c.pool.cache c.pool.calls c.held) (u : UnitRef) :
    (perform E.traced settings (.giveBack u)).Ends c
      (fun o c' => o = none ∧ Balanced c'.pool.cache c'.pool.calls c'.held ∧
        c'.pool.cache.kept = c.pool.cache.kept)
      (fun e c' => Balanced c'.pool.cache c'.pool.calls c'.held ∧
        c'.pool.cache.kept = c.pool.cache.kept ∧ Trace.Failed c'.pool.calls e) := by
  unfold perform giveBack onPool
  rw [Act.ends_bind, Act.ends_get]
  split
  · rename_i hu
    rw [Act.ends_bind, Act.ends_modify, Act.ends_bind, Act.ends_within]
    have hb' := hb.perm (List.perm_cons_erase hu)
    exact (Pool.ends_release hb').mono (fun _ p h => ⟨rfl, h⟩) fun e p h =>
      ⟨h.1, h.2.1, h.2.2.failed⟩
  · exact ⟨rfl, hb, rfl⟩

theorem ends_perform (hb : Balanced c.pool.cache c.pool.calls c.held) (e : Errand) :
    (perform E.traced settings e).Ends c
      (fun _ c' => Balanced c'.pool.cache c'.pool.calls c'.held)
      (fun e c' => Balanced c'.pool.cache c'.pool.calls c'.held ∧
        (Trace.Failed c'.pool.calls e ∨ LacksUnit e)) := by
  cases e with
  | request demand file flags overlays =>
    refine (ends_request E settings hb demand file flags overlays).mono ?_ ?_
    · intro _ c' hend
      obtain ⟨u, -, hheld, hg⟩ := hend
      rw [hheld]
      exact hg.balanced
    · intro e c' hend
      obtain ⟨hheld, hd⟩ := hend
      rw [hheld]
      refine ⟨hd.balanced, hd.cause.imp Pool.Breaks.failed (Or.imp ?_ And.left)⟩
      rintro ⟨⟨f, hf, -⟩, -⟩
      exact ⟨f, hf⟩
  | giveBack u =>
    refine (ends_giveBack E settings hb u).mono ?_ ?_
    · intro _ c' hend
      obtain ⟨-, hb', -⟩ := hend
      exact hb'
    · intro e c' hend
      obtain ⟨hb', -, hf⟩ := hend
      exact ⟨hb', .inl hf⟩

/-! ## Histories -/

theorem request_pool (c : Client (Traced σ)) (demand : Demand) (file : String) (flags : List String)
    (overlays : List Overlay) :
    (perform E.traced settings (.request demand file flags overlays) c).2.pool =
      (Pool.serve E.traced settings demand file flags overlays c.pool).2 := by
  simp only [perform, request, Act.bind_apply, onPool, Act.within]
  rcases Pool.serve E.traced settings demand file flags overlays c.pool with ⟨e | u, p⟩ <;> rfl

theorem giveBack_pool (c : Client (Traced σ)) (u : UnitRef) :
    (perform E.traced settings (.giveBack u) c).2.pool =
      if u ∈ c.held then (Pool.release E.traced u c.pool).2 else c.pool := by
  simp only [perform, giveBack, Act.bind_apply, Act.get]
  split
  · simp only [Act.bind_apply, Act.modify, onPool, Act.within]
    rcases Pool.release E.traced u c.pool with ⟨e | _, p⟩ <;> rfl
  · rfl

theorem perform_grows (c : Client (Traced σ)) (e : Errand) :
    Pool.Grows (fun _ => True) c.pool (perform E.traced settings e c).2.pool := by
  cases e with
  | request demand file flags overlays =>
    rw [request_pool]
    cases demand with
    | parse => exact (Pool.parse_built (fun _ => trivial) (fun _ => trivial) trivial trivial).grows _
    | obtain => exact (Pool.obtain_built (fun _ => trivial) (fun _ => trivial) trivial trivial).grows _
  | giveBack u =>
    rw [giveBack_pool]
    split
    · exact (Pool.release_built (fun _ => trivial) u).grows _
    · exact Pool.grows_frame.refl _

theorem step_pool (c : Client (Traced σ)) (e : Errand) :
    (step E.traced settings c e).pool = (perform E.traced settings e c).2.pool := rfl

theorem sound_step (h : c.Sound) (e : Errand) : (step E.traced settings c e).Sound := by
  have hends := ends_perform E settings h.balanced e
  obtain ⟨new, hcalls, -⟩ := perform_grows E settings c e
  refine ⟨?_, fun d hd f hf => ?_⟩
  · exact Act.Ends.state (P := fun c' => Balanced c'.pool.cache c'.pool.calls c'.held)
      (hends.mono (fun _ _ h => h) fun _ _ h => h.1)
  · rw [step_pool]
    rcases List.mem_append.mp hd with hd | hd
    · rw [hcalls]
      exact (h.faults d hd f hf).imp Trace.Failed.append id
    · cases List.mem_singleton.mp hd
      exact (hends.of_error hf).2

theorem sound_run (h : c.Sound) (errands : List Errand) :
    (run E.traced settings c errands).Sound := by
  induction errands generalizing c with
  | nil => exact h
  | cons e errands ih => exact ih (sound_step E settings h e)

structure Accounted (c : Client (Traced σ)) : Prop where
  refCount : ∀ u r, c.pool.cache.get? u = some r →
    r.refCount = c.held.count u + if c.pool.cache.kept.get? r.file = some u then 1 else 0
  released : ∀ u r, c.pool.cache.get? u = some r → (r.released = true ↔ r.refCount = 0)
  disposed : ∀ u r, c.pool.cache.get? u = some r →
    (Trace.unitsDisposed c.pool.calls).count r.handle = if r.refCount = 0 then 1 else 0
  recorded : c.pool.cache.records.map (·.handle) = Trace.unitsMade c.pool.calls
  keptOnce : (c.pool.cache.kept.map Prod.fst).Nodup
  keptFile : ∀ file u, (file, u) ∈ c.pool.cache.kept →
    ∃ r, c.pool.cache.get? u = some r ∧ r.file = file
  outcomes : ∀ d ∈ c.past, ∀ e, d.outcome = .error e → LacksUnit e

/-- **References are accounted for.** After any history of requests and of references given
back by those who hold them, over an engine that answers every call and never hands out a
handle twice. -/
theorem references_accounted (state : σ) (journal : Journal) (errands : List Errand)
    (ha : Trace.Answered (run E.traced settings (opened state journal) errands).pool.calls)
    (hn : (Trace.unitsMade
      (run E.traced settings (opened state journal) errands).pool.calls).Nodup) :
    (run E.traced settings (opened state journal) errands).Accounted := by
  have hs := sound_run E settings (sound_opened state journal) errands
  generalize run E.traced settings (opened state journal) errands = c at ha hn hs
  have hb := hs.balanced
  refine ⟨fun u r hr => ?_, hb.counted.released, fun u r hr => ?_, hb.unitsMade_eq.symm,
    hb.filed.keys, hb.filed.file, fun d hd e he => ?_⟩
  · rw [hb.counted.count u r hr, List.count_append, Cache.count_keptRefs hb.filed hr]
    split <;> rfl
  · rw [hb.unitsMade_eq] at hn
    rw [hb.disposed.count_eq, Cache.count_releasedHandles hn hr]
    simp only [hb.counted.released u r hr]
  · rcases hs.faults d hd e he with hf | hf
    · exact absurd ha (Trace.not_answered_of_failed hf)
    · exact hf

/-- A unit is asked for twice, evicted while both references are out, and parsed anew. -/
theorem references_accounted_evicted :
    let c := run Script.engine.traced {} (opened { reparses := [0, 0, 0] } {})
      [.request .parse "a" [] [], .request .obtain "a" [] [], .request .parse "a" ["-x"] [],
        .giveBack 0, .giveBack 0, .giveBack 1]
    c.Accounted ∧ c.pool.cache.records.map (·.refCount) = [0, 1] ∧
      Trace.unitsDisposed c.pool.calls = [1] :=
  ⟨references_accounted Script.engine {} _ _ _ (by decide) (by decide), by decide, by decide⟩

end Client

end CodeSense
