import CodeSense.Proofs.Pool.Coherence
import CodeSense.Proofs.Pool.Locality

/-!
# Statistics

The statistics of a pool are kept at many places: a lookup counts evictions, a request counts a hit
or a miss, and the attempts to parse count retries. `Figures` puts them beside what the trace shows,
and every operation adds a fixed amount to the figures. After any history they account for all
requests, calls and kept units: `statistics_balanced`.
-/

namespace CodeSense

/-- Where a request found that there is no unit: when it parsed, or when it brought the unit up to
date. -/
def Fault.stage? (e : Fault) : Option String := e.failure?.map (·.reason)

/-! ## Kept records -/

namespace Cache

variable {c c' : Cache} {file : String}

def recordFor? (c : Cache) (file : String) : Option UnitRecord := (c.kept.get? file).bind c.get?

theorem recordFor?_eq_none_iff (h : c.Filed) :
    c.recordFor? file = none ↔ c.kept.get? file = none := by
  unfold recordFor?
  cases hk : c.kept.get? file with
  | none => simp
  | some u =>
    obtain ⟨r, hr, -⟩ := h.file file u (Keyed.mem_of_get? hk)
    simp [hr]

theorem recordFor?_eq_some {u : UnitRef} {r : UnitRecord} (hk : c.kept.get? file = some u)
    (hr : c.get? u = some r) : c.recordFor? file = some r := by
  simp [recordFor?, hk, hr]

theorem size_eq (h : c.Filed) (file : String) :
    c.size = (c.kept.erase file).length + (c.recordFor? file).isSome.toNat := by
  cases hk : c.kept.get? file with
  | none =>
    rw [(recordFor?_eq_none_iff h).mpr hk, Keyed.erase_of_get?_none hk]
    rfl
  | some u =>
    have hsome : (c.recordFor? file).isSome = true := by
      rw [← Option.ne_none_iff_isSome]
      intro hnone
      rw [(recordFor?_eq_none_iff h).mp hnone] at hk
      cases hk
    have hlength := (Keyed.perm_erase h.keys hk).length_eq
    rw [List.length_cons] at hlength
    simp [size, hsome, hlength]

end Cache

/-! ## Figures -/

@[ext] structure Figures extends Stats where
  pauses : Nat := 0
  parses : Nat := 0

namespace Figures

instance : Add Figures where
  add a b :=
    { hits := a.hits + b.hits
      misses := a.misses + b.misses
      evictions := a.evictions + b.evictions
      retries := a.retries + b.retries
      pauses := a.pauses + b.pauses
      parses := a.parses + b.parses }

variable (a b c : Figures)

@[simp] theorem hits_add : (a + b).hits = a.hits + b.hits := rfl
@[simp] theorem misses_add : (a + b).misses = a.misses + b.misses := rfl
@[simp] theorem evictions_add : (a + b).evictions = a.evictions + b.evictions := rfl
@[simp] theorem retries_add : (a + b).retries = a.retries + b.retries := rfl
@[simp] theorem pauses_add : (a + b).pauses = a.pauses + b.pauses := rfl
@[simp] theorem parses_add : (a + b).parses = a.parses + b.parses := rfl

theorem add_assoc : a + b + c = a + (b + c) := by
  ext <;> simp [Nat.add_assoc]

def attempts (crashes : Nat) : Figures :=
  { retries := crashes, pauses := crashes, parses := crashes + 1 }

def ofRequest (args : List String) (crashes : Nat) : Option UnitRecord → Figures
  | none => { misses := 1 } + attempts crashes
  | some r =>
    if r.flags = args then { hits := 1 }
    else { evictions := 1 } + ({ misses := 1 } + attempts crashes)

end Figures

namespace Pool

open Act

variable {σ : Type} {E : Engine σ} {settings : Settings} {p p' q : Pool (Traced σ)} {file : String}
  {flags : List String} {overlays : List Overlay} {held : List UnitRef} {u : UnitRef}

def figures (p : Pool (Traced σ)) : Figures where
  toStats := p.cache.stats
  pauses := Trace.pauseCount p.calls
  parses := Trace.parseCount p.calls

def Uncounted (r : Request) : Prop := r.kind ≠ .pause ∧ r.kind ≠ .parse

/-- Calls that are not counted leave all figures to the statistics. -/
theorem Grows.figures (h : Grows Uncounted p p') :
    p'.figures = { p.figures with toStats := p'.cache.stats } := by
  obtain ⟨new, hnew, hkind⟩ := h
  have hpauses : Trace.pauseCount new = 0 := by
    apply List.countP_eq_zero.mpr
    intro x hx
    simp [(hkind x hx).1]
  have hparses : Trace.parseCount new = 0 := by
    apply List.countP_eq_zero.mpr
    intro x hx
    simp [(hkind x hx).2]
  unfold Pool.figures
  rw [hnew, Trace.pauseCount_append, Trace.parseCount_append, hpauses, hparses]
  rfl

theorem Grows.figures_eq (h : Grows Uncounted p p') (hs : p'.cache.stats = p.cache.stats) :
    p'.figures = p.figures := by
  rw [h.figures, hs]
  rfl

/-! ## What is not counted -/

section
variable {o : Except Fault Unit}

theorem Released.figures (h : Released u p o p') : p'.figures = p.figures := by
  refine Grows.figures_eq (h.grows (by simp [Uncounted, Request.kind])) ?_
  rw [h.cache]
  rfl

theorem Refreshed.figures (h : Refreshed E file overlays u p o p') : p'.figures = p.figures := by
  refine Grows.figures_eq
    (h.grows (by simp [Uncounted, Request.kind]) (by simp [Uncounted, Request.kind])) ?_
  cases h with
  | absent => rfl
  | current _ _ hc => rw [hc.cache]
  | broken _ _ hc => rw [hc.cache]
  | unlogged _ _ _ _ _ hc => rw [hc.cache]
  | dropped _ _ _ hc hd =>
    rw [← hc.cache]
    cases hd with
    | nothing => rfl
    | unit _ h =>
      rw [h.cache]
      rfl

end

theorem Tried.figures {left : Nat} {o : Except Fault (Int × Option Handle)}
    (h : Tried E settings file flags overlays left p o p') (hleft : left ≠ 0)
    (ha : Trace.Answered p'.calls) : ∃ n, p'.figures = p.figures + .attempts n := by
  obtain ⟨new, hcalls, -, htries, hcache⟩ := h.calls
  rw [hcalls, Trace.answered_append] at ha
  refine ⟨Trace.pauseCount new, ?_⟩
  unfold Pool.figures
  rw [hcache, hcalls, Trace.pauseCount_append, Trace.parseCount_append,
    htries.parseCount ha.2 hleft]
  rfl

/-! ## Requests -/

def Booked (file : String) (args : List String) (p p' : Pool (Traced σ)) : Prop :=
  ∃ n, p'.figures = p.figures + .ofRequest args n (p.cache.recordFor? file)

theorem booked_of_fitting {r : UnitRecord} (hk : p.cache.kept.get? file = some u)
    (hr : p.cache.get? u = some r) (hflags : r.flags = flags)
    (hstats : q.cache.stats = p.cache.countHit.stats) (hcalls : q.calls = p.calls) : Booked file flags p q := by
  refine ⟨0, ?_⟩
  rw [Cache.recordFor?_eq_some hk hr, Figures.ofRequest, if_pos hflags]
  unfold Pool.figures
  rw [hstats, hcalls]
  rfl

theorem Found.figures (h : Found file flags p (.ok none) q) (hfiled : p.cache.Filed) (n : Nat) :
    q.figures + ({ misses := 1 } + .attempts n) =
      p.figures + .ofRequest flags n (p.cache.recordFor? file) := by
  have hg : Grows Uncounted p q := h.grows (by simp [Uncounted, Request.kind])
  generalize ho : (.ok none : Except Fault (Option UnitRef)) = o at h
  cases h with
  | kept => cases ho
  | missing hk =>
    rw [(Cache.recordFor?_eq_none_iff hfiled).mpr hk]
    rfl
  | @evicted u _ _ hk hflags h =>
    obtain ⟨r, hr, -⟩ := hfiled.file file u (Keyed.mem_of_get? hk)
    have hrecord : p.cache.recordFor? file = some r := Cache.recordFor?_eq_some hk hr
    have hevicted : q.figures = p.figures + { evictions := 1 } := by
      rw [hg.figures, h.cache]
      rfl
    rw [hrecord, Figures.ofRequest, if_neg (hflags r hr), hevicted, Figures.add_assoc]

section
variable (hs : 1 ≤ settings.parseAttempts) (hb : Balanced p.cache p.calls held)
include hs hb

theorem Located.booked {o : Except Fault UnitRef}
    (h : Located E settings file flags overlays p o q) (ha : Trace.Answered q.calls) :
    Booked file flags p q := by
  have hmiss {q₁ p' : Pool (Traced σ)} {o : Except Fault (Int × Option Handle)}
      (h : Found file flags p (.ok none) q₁)
      (ht : Tried E settings file flags overlays settings.parseAttempts.toNat
        { q₁ with cache := q₁.cache.countMiss } o p') (ha : Trace.Answered p'.calls) :
      Booked file flags p p' := by
    obtain ⟨n, hn⟩ := ht.figures (by omega) ha
    refine ⟨n, ?_⟩
    rw [← h.figures hb.filed, ← Figures.add_assoc, hn]
    rfl
  cases h with
  | hit hk hr hflags => exact booked_of_fitting hk hr hflags rfl rfl
  | stuck h =>
    have hbreaks := (h.balanced hb).2.2 _ rfl
    exact absurd ha (Trace.not_answered_of_failed hbreaks.failed)
  | missed h ht ho => exact hmiss h ht ha
  | added h ht ho hk =>
    obtain ⟨n, hn⟩ := hmiss h ht ha
    exact ⟨n, hn⟩

theorem Parsed.booked {o : Except Fault UnitRef}
    (h : Parsed E settings file flags overlays p o p') (ha : Trace.Answered p'.calls) :
    Booked file flags p p' := by
  have hthen {u : UnitRef} {o : Except Fault Unit} {q q' : Pool (Traced σ)}
      (h : Located E settings file flags overlays p (.ok u) q)
      (hr : Refreshed E file overlays u q o q') (ha : Trace.Answered q'.calls) :
      Booked file flags p q' := by
    have hgrows : Grows (fun _ => True) q q' := hr.grows (fun _ => trivial) fun _ => trivial
    obtain ⟨n, hn⟩ := h.booked hs hb (hgrows.answered ha)
    exact ⟨n, hr.figures.trans hn⟩
  cases h with
  | unlocated h => exact h.booked hs hb ha
  | stale h hr => exact hthen h hr ha
  | fresh h hr =>
    obtain ⟨n, hn⟩ := hthen h hr ha
    exact ⟨n, hn⟩

end

theorem serve_booked (hs : 1 ≤ settings.parseAttempts) (hb : Balanced p.cache p.calls held)
    (demand : Demand)
    (ha : Trace.Answered (serve E.traced settings demand file flags overlays p).2.calls) :
    Booked file (settings.compilerArguments flags) p
      (serve E.traced settings demand file flags overlays p).2 := by
  obtain ⟨u, r, hk, hr, hflags, hserve⟩ | hparsed :=
    serve_cases E settings demand file flags overlays p
  · rw [hserve]
    exact booked_of_fitting hk hr hflags rfl rfl
  · exact hparsed.booked hs hb ha

end Pool

/-! ## Histories -/

theorem Figures.ofRequest_sums (args : List String) (n : Nat) (o : Option UnitRecord) :
    let d := ofRequest args n o
    d.hits + d.misses = 1 ∧ d.pauses = d.retries ∧ d.parses = d.misses + d.retries ∧
      d.evictions = (o.any (·.flags ≠ args)).toNat ∧ d.hits + d.evictions = o.isSome.toNat := by
  cases o with
  | none => simp [ofRequest, attempts, Nat.add_comm]
  | some r =>
    by_cases hflags : r.flags = args
    · simp [ofRequest, hflags]
    · simp [ofRequest, hflags, attempts, Nat.add_comm]

namespace Errand

def isRequest : Errand → Bool
  | request .. => true
  | giveBack _ => false

def clashes (settings : Settings) (c : Cache) : Errand → Bool
  | request _ file flags _ =>
    (c.recordFor? file).any (·.flags ≠ settings.compilerArguments flags)
  | giveBack _ => false

def Done.failedAt (stage : String) (d : Done) : Bool :=
  match d.outcome with
  | .error e => e.stage? = some stage
  | .ok _ => false

end Errand

namespace Client

variable {σ : Type}

/-- How many errands of a history clash with what is kept when their turn comes. -/
def clashes (E : Engine σ) (settings : Settings) : Client σ → List Errand → Nat
  | _, [] => 0
  | c, e :: errands =>
    (e.clashes settings c.pool.cache).toNat + clashes E settings (step E settings c e) errands

structure Tallied (c : Client (Traced σ)) (requests clashes : Nat) : Prop where
  requests : c.pool.figures.hits + c.pool.figures.misses = requests
  pauses : c.pool.figures.pauses = c.pool.figures.retries
  parses : c.pool.figures.parses = c.pool.figures.misses + c.pool.figures.retries
  evictions : c.pool.figures.evictions = clashes
  kept : c.pool.figures.misses = c.pool.cache.size + c.past.countP (·.failedAt "parse") +
    c.pool.figures.evictions + c.past.countP (·.failedAt "reparse")

variable (E : Engine σ) (settings : Settings) {c : Client (Traced σ)}

theorem size_of_served {p p' : Pool (Traced σ)} {file : String} (h : Pool.Served file p p')
    (hf : p.cache.Filed) (hf' : p'.cache.Filed) :
    p'.cache.size + (p.cache.recordFor? file).isSome.toNat =
      p.cache.size + (p'.cache.recordFor? file).isSome.toNat := by
  rw [Cache.size_eq hf file, Cache.size_eq hf' file, h.cache.order]
  omega

/-- A request leaves a record for its file, or failed at one of the stages. -/
theorem request_settled (hs : 1 ≤ settings.parseAttempts)
    (hb : Balanced c.pool.cache c.pool.calls c.held) (demand : Demand) (file : String)
    (flags : List String) (overlays : List Overlay) :
    let e := Errand.request demand file flags overlays
    let c' := step E.traced settings c e
    let d : Errand.Done := ⟨e, (perform E.traced settings e c).1⟩
    Trace.Answered c'.pool.calls →
      Pool.Booked file (settings.compilerArguments flags) c.pool c'.pool ∧
      (c'.pool.cache.recordFor? file).isSome.toNat + (d.failedAt "parse").toNat +
        (d.failedAt "reparse").toNat = 1 := by
  intro e c' d ha
  have hends := ends_request E settings hb demand file flags overlays
  have hpool : c'.pool = (Pool.serve E.traced settings demand file flags overlays c.pool).2 :=
    request_pool E settings c demand file flags overlays
  rw [hpool] at ha
  refine ⟨hpool ▸ Pool.serve_booked hs hb demand ha, ?_⟩
  rcases ho : (perform E.traced settings e c).1 with fault | o
  · rcases (hends.of_error ho).2.cause with
      hbreaks | ⟨⟨f, hf, hreason⟩, hnone⟩ | ⟨rfl, u, hk, r, hr, -⟩
    · have hfailed : Trace.Failed c'.pool.calls fault := hbreaks.failed
      rw [hpool] at hfailed
      exact absurd ha (Trace.not_answered_of_failed hfailed)
    · have hrecord : c'.pool.cache.recordFor? file = none := by
        rw [Cache.recordFor?, show c'.pool.cache.kept.get? file = none from hnone]
        rfl
      rcases hreason with hreason | hreason
      · simp [d, Errand.Done.failedAt, ho, Fault.stage?, hf, hreason, hrecord]
      · simp [d, Errand.Done.failedAt, ho, Fault.stage?, hf, hreason, hrecord]
    · rw [show c'.pool.cache.recordFor? file = some r from Cache.recordFor?_eq_some hk hr]
      simp [d, Errand.Done.failedAt, ho, Fault.stage?, Fault.failure?]
  · obtain ⟨u, -, -, hg⟩ := hends.of_ok ho
    obtain ⟨hk, r, hr, -⟩ := hg.keeps
    rw [show c'.pool.cache.recordFor? file = some r from Cache.recordFor?_eq_some hk hr]
    simp [d, Errand.Done.failedAt, ho]

theorem countP_failedAt_step (c : Client (Traced σ)) (e : Errand) (stage : String) :
    (step E.traced settings c e).past.countP (·.failedAt stage) =
      c.past.countP (·.failedAt stage) +
        (Errand.Done.failedAt stage ⟨e, (perform E.traced settings e c).1⟩).toNat := by
  have hpast : (step E.traced settings c e).past =
      c.past ++ [⟨e, (perform E.traced settings e c).1⟩] := rfl
  rw [hpast, List.countP_append, List.countP_singleton]
  cases Errand.Done.failedAt stage ⟨e, (perform E.traced settings e c).1⟩ <;> rfl

theorem tallied_request (hs : 1 ≤ settings.parseAttempts) (hsound : c.Sound)
    {requests clashes : Nat} (h : c.Tallied requests clashes) (demand : Demand) (file : String)
    (flags : List String) (overlays : List Overlay)
    (ha : Trace.Answered
      (step E.traced settings c (.request demand file flags overlays)).pool.calls) :
    (step E.traced settings c (.request demand file flags overlays)).Tallied (requests + 1)
      (clashes + (Errand.clashes settings c.pool.cache
        (.request demand file flags overlays)).toNat) := by
  obtain ⟨⟨n, hfigures⟩, hsettled⟩ :=
    request_settled E settings hs hsound.balanced demand file flags overlays ha
  obtain ⟨hfound, hpauses, hparses, hevictions, hrecord⟩ := Figures.ofRequest_sums
    (settings.compilerArguments flags) n (c.pool.cache.recordFor? file)
  have hserved : Pool.Served file c.pool
      (step E.traced settings c (.request demand file flags overlays)).pool := by
    rw [step_pool, request_pool]
    exact Pool.serve_served demand c.pool
  have hsize := size_of_served hserved hsound.balanced.filed
    (sound_step E settings hsound (.request demand file flags overlays)).balanced.filed
  have hclash : (Errand.clashes settings c.pool.cache
    (.request demand file flags overlays)).toNat = _ := hevictions.symm
  obtain ⟨hrequests, hpaused, hparsed, hevicted, hkept⟩ := h
  constructor
  · rw [hfigures, Figures.hits_add, Figures.misses_add]
    omega
  · rw [hfigures, Figures.pauses_add, Figures.retries_add]
    omega
  · rw [hfigures, Figures.parses_add, Figures.misses_add, Figures.retries_add]
    omega
  · rw [hfigures, Figures.evictions_add]
    omega
  · rw [hfigures, Figures.misses_add, Figures.evictions_add, countP_failedAt_step,
      countP_failedAt_step]
    omega

theorem tallied_giveBack (hsound : c.Sound) {requests clashes : Nat}
    (h : c.Tallied requests clashes) (u : UnitRef)
    (ha : Trace.Answered (step E.traced settings c (.giveBack u)).pool.calls) :
    (step E.traced settings c (.giveBack u)).Tallied requests clashes := by
  have hfigures : (step E.traced settings c (.giveBack u)).pool.figures = c.pool.figures := by
    rw [step_pool, giveBack_pool]
    split
    · exact (Pool.release_released u c.pool).result.figures
    · rfl
  have hsize : (step E.traced settings c (.giveBack u)).pool.cache.size = c.pool.cache.size :=
    congrArg List.length (giveBack_kept E settings hsound.balanced u)
  have hfailed (stage : String) : Errand.Done.failedAt stage
      ⟨.giveBack u, (perform E.traced settings (.giveBack u) c).1⟩ = false := by
    rcases ho : (perform E.traced settings (.giveBack u) c).1 with fault | o
    · have hf := ((ends_giveBack E settings hsound.balanced u).of_error ho).2.2
      exact absurd ha (Trace.not_answered_of_failed hf)
    · rfl
  constructor
  · rw [hfigures]
    exact h.requests
  · rw [hfigures]
    exact h.pauses
  · rw [hfigures]
    exact h.parses
  · rw [hfigures]
    exact h.evictions
  · rw [hfigures, hsize, countP_failedAt_step, countP_failedAt_step, hfailed, hfailed]
    exact h.kept

theorem run_answered (errands : List Errand)
    (ha : Trace.Answered (run E.traced settings c errands).pool.calls) :
    Trace.Answered c.pool.calls := by
  induction errands generalizing c with
  | nil => exact ha
  | cons e errands ih =>
    have hstep : Trace.Answered (step E.traced settings c e).pool.calls := ih ha
    exact (perform_grows E settings c e).answered hstep

theorem tallied_run (hs : 1 ≤ settings.parseAttempts) (hsound : c.Sound) {requests clashed : Nat}
    (h : c.Tallied requests clashed) (errands : List Errand)
    (ha : Trace.Answered (run E.traced settings c errands).pool.calls) :
    (run E.traced settings c errands).Tallied (requests + errands.countP (·.isRequest))
      (clashed + clashes E.traced settings c errands) := by
  induction errands generalizing c requests clashed with
  | nil => exact h
  | cons e errands ih =>
    have hstep : Trace.Answered (step E.traced settings c e).pool.calls :=
      run_answered E settings errands ha
    have hnext : (step E.traced settings c e).Tallied (requests + if e.isRequest then 1 else 0)
        (clashed + (e.clashes settings c.pool.cache).toNat) := by
      cases e with
      | request demand file flags overlays =>
        exact tallied_request E settings hs hsound h demand file flags overlays hstep
      | giveBack u => exact tallied_giveBack E settings hsound h u hstep
    have hrest := ih (sound_step E settings hsound e) hnext ha
    rw [Nat.add_assoc, Nat.add_assoc] at hrest
    rw [List.countP_cons, Nat.add_comm (errands.countP _)]
    exact hrest

end Client

end CodeSense
