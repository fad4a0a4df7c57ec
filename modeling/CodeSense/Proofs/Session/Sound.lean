import CodeSense.Proofs.Pool.Operations
import CodeSense.Proofs.Session.ResultSets
import CodeSense.Proofs.Session.Steps

/-!
# What a session holds

A session holds a reference to its active unit, or an active result set, and drops them before
it touches the cache. `sound_run`: this is so after any operations, whatever calls the engine
breaks off. What an operation stops with has one of a few causes, and is never a miscount of its
own (`ends_perform`).
-/

namespace CodeSense

def Fault.isMiscount : Fault → Bool
  | overReleased .. | alreadyCached _ => true
  | _ => false

/-- Whether the fault is about a text that is no path, or about a number that is too long. -/
def Fault.isMisfit : Fault → Bool
  | nullInPath | unencodable .. | tooManyDigits | unreported _ => true
  | _ => false

inductive Operation.Unfit (files : FileSystem) : Operation → Fault → Prop
  | path {file source : String} {e : Fault} (h : files.pathFault? source = some e) :
    Unfit files (.setUnsaved file source) e
  | place {file : String} {line column : Int} {flags : List String}
    (h : Session.isWritable line column = false) :
    Unfit files (.complete file line column flags) .tooManyDigits

namespace Session

variable {σ : Type}

abbrev calls (s : Session (Traced σ)) : List Call := s.pool.calls

def opened (state : σ) (settings : Settings) (journal : Journal) : Session (Traced σ) where
  pool := { engine := { state }, journal }
  settings

def step (E : Engine σ) (s : Session σ) (move : FileSystem × Operation) : Session σ :=
  (perform E move.2 { s with files := move.1 }).2

def run (E : Engine σ) (s : Session σ) (moves : List (FileSystem × Operation)) : Session σ :=
  moves.foldl (step E) s

/-- The session holds what is active and nothing else, and only one thing at a time. Entries that
cannot be read say why with a fault of the engine. -/
structure Sound (s : Session (Traced σ)) : Prop where
  balanced : Balanced s.pool.cache s.calls s.activeParse.toList
  kept : ∀ u, s.activeParse = some u → u ∈ s.pool.cache.keptRefs
  exclusive : s.activeParse = none ∨ s.activeCompletion = none
  sets : Trace.SetsOut s.calls (s.activeCompletion.map (·.handle)).toList
  entries : ∀ set, s.activeCompletion = some set → ∀ entry ∈ set.entries,
    ∀ e, entry.unreadable = some e → Trace.Raised s.calls e

/-- The fault came with the answer to a call between `s` and `s'`, or with a result that is active
in `s`. -/
def Raises (s s' : Session (Traced σ)) (e : Fault) : Prop :=
  (∃ new, s'.calls = s.calls ++ new ∧ Trace.Raised new e) ∨
    ∃ set, s.activeCompletion = some set ∧ ∃ entry ∈ set.entries, entry.unreadable = some e

/-- Between `s` and `s'`, or among the results that are active in `s`, there is a number that cannot
be written. -/
def Overlong (s s' : Session (Traced σ)) : Prop :=
  Pool.Overlong s.settings s.pool s'.pool ∨
    ∃ set, s.activeCompletion = some set ∧ ∃ entry ∈ set.entries, entry.isTooLong = true

inductive Cause (s : Session (Traced σ)) (op : Operation) (e : Fault) (s' : Session (Traced σ)) :
    Prop
  | raised (h : Raises s s' e)
  | overlong (he : e.isLength = true) (h : Overlong s s')
  | unfit (h : op.Unfit s.files e)

structure Stopped (s : Session (Traced σ)) (op : Operation) (e : Fault)
    (s' : Session (Traced σ)) : Prop where
  sound : s'.Sound
  cause : Cause s op e s'

structure Idle (out : List Handle) (s : Session (Traced σ)) : Prop where
  balanced : Balanced s.pool.cache s.calls []
  sets : Trace.SetsOut s.calls out
  parse : s.activeParse = none
  completion : s.activeCompletion = none

theorem Idle.sound {s : Session (Traced σ)} (h : s.Idle []) : s.Sound where
  balanced := by rw [h.parse]; exact h.balanced
  kept := by simp [h.parse]
  exclusive := .inl h.parse
  sets := by rw [h.completion]; exact h.sets
  entries := by simp [h.completion]

theorem sound_opened (state : σ) (settings : Settings) (journal : Journal) :
    (opened state settings journal).Sound :=
  Idle.sound ⟨.empty rfl rfl rfl, .empty, rfl, rfl⟩

/-! ## Writing -/

/-- The two sessions differ in log, output, files and buffers at most. -/
structure Calm (s s' : Session (Traced σ)) : Prop where
  cache : s'.pool.cache = s.pool.cache
  calls : s'.calls = s.calls
  parse : s'.activeParse = s.activeParse
  completion : s'.activeCompletion = s.activeCompletion

theorem Wrote.calm {text : String} {s s' : Session (Traced σ)} (h : Wrote text s s') :
    Calm s s' := by
  obtain ⟨journal, -, rfl⟩ := h
  exact ⟨rfl, rfl, rfl, rfl⟩

theorem Wrote.calm_overlays {text : String} {s s' : Session (Traced σ)} {o : Overlays}
    (h : Wrote text { s with overlays := o } s') : Calm s s' := by
  obtain ⟨cache, calls, parse, completion⟩ := h.calm
  exact ⟨cache, calls, parse, completion⟩

theorem Sound.calm {s s' : Session (Traced σ)} (h : s.Sound) (hc : Calm s s') : s'.Sound where
  balanced := by rw [hc.cache, hc.calls, hc.parse]; exact h.balanced
  kept := by rw [hc.cache, hc.parse]; exact h.kept
  exclusive := by rw [hc.parse, hc.completion]; exact h.exclusive
  sets := by rw [hc.calls, hc.completion]; exact h.sets
  entries := by rw [hc.calls, hc.completion]; exact h.entries

theorem Idle.calm {out : List Handle} {s s' : Session (Traced σ)} (h : s.Idle out)
    (hc : Calm s s') : s'.Idle out where
  balanced := by rw [hc.cache, hc.calls]; exact h.balanced
  sets := by rw [hc.calls]; exact h.sets
  parse := hc.parse.trans h.parse
  completion := hc.completion.trans h.completion

/-! ## Calls -/

structure Called (E : Engine σ) (x : Call) (s s' : Session (Traced σ)) : Prop where
  pool : Pool.Called E x s.pool s'.pool
  rest : s' = { s with pool := s'.pool }

section
variable {E : Engine σ} {s s' : Session (Traced σ)} {r : Request}

namespace Called

variable {x : Call} (h : Called E x s s')
include h

theorem cache : s'.pool.cache = s.pool.cache := h.pool.cache

theorem calls : s'.calls = s.calls ++ [x] := h.pool.calls

theorem parse : s'.activeParse = s.activeParse := by rw [h.rest]

theorem completion : s'.activeCompletion = s.activeCompletion := by rw [h.rest]

theorem breaks {e : Fault} (he : x.reply.result = .error e) : Pool.Breaks s.pool s'.pool e :=
  Pool.breaks_snoc h.calls he

end Called

theorem ends_call {ok : r.Answer → Session (Traced σ) → Prop}
    {err : Fault → Session (Traced σ) → Prop}
    (hok : ∀ (reply : Reply r.Answer) a s', reply.result = .ok a → Called E ⟨r, reply⟩ s s' → ok a s')
    (herr : ∀ (reply : Reply r.Answer) e s', reply.result = .error e →
      Called E ⟨r, reply⟩ s s' → err e s') :
    (call E.traced r).Ends s ok err := by
  unfold call
  rw [ends_onPool]
  apply Pool.ends_call
  · intro reply a p hreply hc
    exact hok reply a _ hreply ⟨hc, rfl⟩
  · intro reply e p hreply hc
    exact herr reply e _ hreply ⟨hc, rfl⟩

theorem called_of_call {o : Except Fault r.Answer} (h : call E.traced r s = (o, s')) :
    ∃ reply : Reply r.Answer, reply.result = o ∧ Called E ⟨r, reply⟩ s s' := by
  have hends : (call E.traced r).Ends s
      (fun a s' => ∃ reply : Reply r.Answer, reply.result = .ok a ∧ Called E ⟨r, reply⟩ s s')
      (fun e s' => ∃ reply : Reply r.Answer, reply.result = .error e ∧ Called E ⟨r, reply⟩ s s') :=
    ends_call (fun reply a s' hreply hc => ⟨reply, hreply, hc⟩) fun reply e s' hreply hc =>
      ⟨reply, hreply, hc⟩
  cases o with
  | error e => exact hends.at_error h
  | ok a => exact hends.at_ok h

theorem Sound.called {x : Call} (h : s.Sound) (hc : Called E x s s')
    (hb : Balanced s.pool.cache (s.calls ++ [x]) s.activeParse.toList)
    (hs : Trace.SetsOut (s.calls ++ [x]) (s.activeCompletion.map (·.handle)).toList) :
    s'.Sound where
  balanced := by rw [hc.cache, hc.calls, hc.parse]; exact hb
  kept := by rw [hc.cache, hc.parse]; exact h.kept
  exclusive := by rw [hc.parse, hc.completion]; exact h.exclusive
  sets := by rw [hc.calls, hc.completion]; exact hs
  entries := by
    rw [hc.calls, hc.completion]
    exact fun set hset entry hentry e he => (h.entries set hset entry hentry e he).append

theorem Sound.called_active {x : Call} {record : UnitRecord}
    (h : s.Sound) (hc : Called E x s s') (hu : s.activeUnit? = some record)
    (hp : x.parsed? = none) (hd : x.request.unitDisposed? = none)
    (hx : x.request.unit? = some record.handle) (hsets : x.request.sparesSets = true) :
    s'.Sound := by
  obtain ⟨u, hactive, hr⟩ := Option.bind_eq_some_iff.mp hu
  refine h.called hc ?_ (h.sets.snoc_sparing hsets (.inl hd))
  refine h.balanced.snoc_of_unit hr ?_ hp hd hx
  rw [hactive]
  exact List.mem_append_left _ (List.mem_singleton.mpr rfl)

/-! ## Active state -/

/-- The cache keeps the unit, so that no call is made that could fail. -/
theorem ends_releaseKept {u : UnitRef} (hb : Balanced s.pool.cache s.calls [u])
    (hu : u ∈ s.pool.cache.keptRefs) :
    (onPool (Pool.release E.traced u)).Ends s
      (fun _ s' => s'.pool.cache = s.pool.cache.retain u (-1) ∧
        Balanced s'.pool.cache s'.calls [] ∧ s'.calls = s.calls ∧
        s'.activeParse = s.activeParse ∧ s'.activeCompletion = s.activeCompletion)
      (fun _ _ => False) := by
  rw [ends_onPool]
  refine (Pool.ends_release_shared hb hu).mono ?_ fun _ _ hf => hf
  intro _ p hend
  obtain ⟨hb', hcache, hcalls⟩ := hend
  exact ⟨hcache, hb', hcalls, rfl, rfl⟩

theorem ends_disposeSet {set : ActiveCompletion} (h : s.Sound) (hp : s.activeParse = none)
    (hset : s.activeCompletion = some set) :
    (call E.traced (.disposeCompletion set.handle)).Ends s
      (fun _ s' => Balanced s'.pool.cache s'.calls [] ∧ Trace.SetsOut s'.calls [])
      (fun e s' => s'.Sound ∧ Pool.Breaks s.pool s'.pool e) := by
  have hb : ∀ reply, Balanced s.pool.cache (s.calls ++ [⟨.disposeCompletion set.handle, reply⟩])
      s.activeParse.toList := fun _ => h.balanced.snoc_of_unit?_none rfl rfl (by simp)
  have hsets := h.sets
  rw [hset] at hsets
  apply ends_call
  · intro reply _ s' _ hc
    have hb' := hb reply
    rw [hp, ← hc.cache, ← hc.calls] at hb'
    refine ⟨hb', ?_⟩
    rw [hc.calls]
    exact hsets.snoc_dispose reply
  · intro reply e s' he hc
    have hf : Trace.Failed (s.calls ++ [⟨.disposeCompletion set.handle, reply⟩]) e :=
      Trace.failed_snoc he
    exact ⟨h.called hc (hb reply) (.of_failed hf), hc.breaks he⟩

theorem ends_resetActive (h : s.Sound) :
    (resetActive E.traced).Ends s (fun _ => Idle [])
      (fun e s' => s'.Sound ∧ Pool.Breaks s.pool s'.pool e) := by
  unfold resetActive
  rw [Act.ends_bind, Act.ends_get, Act.ends_bind]
  cases hset : s.activeCompletion with
  | none =>
    have hsets := h.sets
    rw [hset] at hsets
    rw [show Act.onSome none _ = (pure () : Act (Session (Traced σ)) Unit) from rfl,
      Act.ends_pure, Act.ends_bind]
    have hbalanced := h.balanced
    cases hactive : s.activeParse with
    | none =>
      rw [hactive] at hbalanced
      exact ⟨hbalanced, hsets, rfl, rfl⟩
    | some u =>
      rw [hactive] at hbalanced
      refine Act.Ends.mono (ends_releaseKept hbalanced (h.kept u hactive)) ?_ fun _ _ hf => hf.elim
      intro _ s' hend
      obtain ⟨-, hb, hcalls, -, -⟩ := hend
      exact ⟨hb, hcalls ▸ hsets, rfl, rfl⟩
  | some set =>
    have hactive : s.activeParse = none := h.exclusive.resolve_right (by simp [hset])
    rw [hactive]
    refine Act.Ends.mono (ends_disposeSet h hactive hset) ?_ fun _ _ hf => hf
    intro _ s' hend
    exact ⟨hend.1, hend.2, rfl, rfl⟩

theorem stopped_of_breaks {op : Operation} {e : Fault} (h : s'.Sound)
    (he : Pool.Breaks s.pool s'.pool e) : Stopped s op e s' := by
  obtain ⟨new, hcalls, hf⟩ := he
  exact ⟨h, .raised (.inl ⟨new, hcalls, hf.raised⟩)⟩

theorem resetActive_grows {o : Except Fault Unit} (h : resetActive E.traced s = (o, s')) :
    Pool.Grows (fun _ => True) s.pool s'.pool :=
  ((covers_grows E _).resetActive fun _ _ => trivial).run h

theorem resetActive_refuses {o : Except Fault Unit} (h : resetActive E.traced s = (o, s')) :
    s'.pool.journal.refuses = s.pool.journal.refuses :=
  ((covers_refuses E.traced).resetActive fun _ _ => trivial).run h

/-! ## Parsing -/

structure Served (u : UnitRef) (p : Pool (Traced σ)) : Prop where
  balanced : Balanced p.cache p.calls [u]
  kept : u ∈ p.cache.keptRefs
  sets : Trace.SetsOut p.calls []

/-- No unit was handed out: the engine failed, it has none, or a number was too long. -/
structure Refused (s : Session (Traced σ)) (e : Fault) (p : Pool (Traced σ)) : Prop where
  idle : Idle [] { s with pool := p }
  cause : Pool.Breaks s.pool p e ∨ (∃ f, e = .parseFailed f) ∨
    e.isLength = true ∧ Pool.Overlong s.settings s.pool p

theorem Idle.ends_request {x : Act (Pool (Traced σ)) UnitRef} {file : String} {flags : List String}
    (h : s.Idle []) (hx : x.Ends s.pool (Pool.Granted file flags [] s.pool)
      (Pool.Denied file flags [] s.pool))
    (hlong : x.Ends s.pool (fun _ _ => True) (fun e p => Pool.Breaks s.pool p e ∨
      (∃ f, e = .parseFailed f) ∨ e.isLength = true ∧ Pool.Overlong s.settings s.pool p))
    (hbuilt : Pool.Built E.traced (·.sparesSets = true) x) :
    x.Ends s.pool Served (Refused s) := by
  have hsets : ∀ p, Pool.Grows (·.sparesSets = true) s.pool p → Trace.SetsOut p.calls [] := by
    intro p hend
    obtain ⟨new, hcalls, hnew⟩ := hend
    rw [hcalls]
    exact h.sets.append_sparing hnew
  refine (hx.and (hlong.and (hbuilt.grows.ends s.pool))).mono ?_ ?_
  · intro u p hend
    obtain ⟨hg, -, hp⟩ := hend
    exact ⟨hg.balanced, Cache.mem_keptRefs hg.keeps.1, hsets p hp⟩
  · intro e p hend
    obtain ⟨hd, hcause, hp⟩ := hend
    exact ⟨⟨hd.balanced, hsets p hp, h.parse, h.completion⟩, hcause⟩

variable {file : String} {flags : List String} {line column : Int} {overlays : List Overlay}

theorem Idle.ends_parse (h : s.Idle []) :
    (Pool.parse E.traced s.settings file flags overlays).Ends s.pool Served (Refused s) :=
  h.ends_request (Pool.ends_parse h.balanced) (Pool.ends_parse_overlong h.balanced)
    (Pool.parse_built (fun _ => rfl) (fun _ => rfl) rfl rfl)

theorem Idle.ends_obtain (h : s.Idle []) :
    (Pool.obtain E.traced s.settings file flags overlays).Ends s.pool Served (Refused s) :=
  h.ends_request (Pool.ends_obtain h.balanced) (Pool.ends_obtain_overlong h.balanced)
    (Pool.obtain_built (fun _ => rfl) (fun _ => rfl) rfl rfl)

theorem overlong_after {s₁ : Session (Traced σ)} (hreset : resetActive E.traced s = (.ok (), s₁))
    (h : Pool.Overlong s₁.settings s₁.pool s'.pool) : Pool.Overlong s.settings s.pool s'.pool := by
  rw [((resetActive_quiet E.traced).run hreset).settings] at h
  exact h.since (resetActive_grows hreset) (resetActive_refuses hreset)

/-- What stops a request stops the operation that made it after a reset. -/
theorem stopped_after {s₁ : Session (Traced σ)} {op : Operation} {e : Fault}
    (hreset : resetActive E.traced s = (.ok (), s₁)) (h : s'.Sound)
    (hcause : Pool.Breaks s₁.pool s'.pool e ∨
      e.isLength = true ∧ Pool.Overlong s₁.settings s₁.pool s'.pool) : Stopped s op e s' := by
  rcases hcause with hbreaks | ⟨hlength, hlong⟩
  · exact stopped_of_breaks h ((resetActive_grows hreset).breaks hbreaks)
  · exact ⟨h, .overlong hlength (.inl (overlong_after hreset hlong))⟩

theorem Parses.sound (hp : Parses E.traced file flags s (.ok ()) s') (h : s.Sound) :
    s'.Sound := by
  cases hp with
  | refused hreset hp hw =>
    have hrefused := ((ends_resetActive h).at_ok hreset).ends_parse.at_error hp
    exact hrefused.idle.sound.calm hw.calm
  | @granted s₁ _ u p hreset hp hw =>
    have h₁ := (ends_resetActive h).at_ok hreset
    have hserved := h₁.ends_parse.at_ok hp
    have hs : Sound { s₁ with pool := p, activeParse := some u } := by
      refine ⟨hserved.balanced, fun v hv => ?_, .inr h₁.completion, ?_, ?_⟩
      · cases hv
        exact hserved.kept
      · rw [show Option.map _ _ = none from congrArg _ h₁.completion]
        exact hserved.sets
      · simp [h₁.completion]
    exact hs.calm hw.calm

theorem Parses.stops {e : Fault} (hp : Parses E.traced file flags s (.error e) s')
    (h : s.Sound) : Stopped s (.parse file flags) e s' := by
  cases hp with
  | unreset hreset =>
    obtain ⟨hs, hbreaks⟩ := (ends_resetActive h).at_error hreset
    exact stopped_of_breaks hs hbreaks
  | stopped hreset hp he =>
    have hrefused := ((ends_resetActive h).at_ok hreset).ends_parse.at_error hp
    refine stopped_after hreset hrefused.idle.sound (hrefused.cause.imp id fun hcause => ?_)
    exact hcause.resolve_left fun hf => he _ hf.choose_spec

/-! ## Completing -/

structure Consulted (u : UnitRef) (file : String) (line column : Int) (overlays : List Overlay)
    (s : Session (Traced σ)) (o : Except Fault (Option Handle)) (s' : Session (Traced σ)) :
    Prop where
  cache : s'.pool.cache = s.pool.cache.retain u (-1)
  balanced : Balanced s'.pool.cache s'.calls []
  parse : s'.activeParse = s.activeParse
  completion : s'.activeCompletion = s.activeCompletion
  calls : ∃ unit reply, reply.result = o ∧
    s'.calls = s.calls ++ [⟨.codeComplete unit file line column overlays, reply⟩]

theorem ends_completeUnit {u : UnitRef} (h : Served u s.pool) :
    (completeUnit E.traced u file line column overlays).Ends s
      (fun o => Consulted u file line column overlays s (.ok o))
      (fun e => Consulted u file line column overlays s (.error e)) := by
  obtain ⟨r, hr⟩ := h.balanced.counted.get (List.mem_cons_self ..)
  -- the reference is given back whatever the call brought
  have hrelease (reply : Reply (Option Handle)) (s₁ : Session (Traced σ))
      (h₁ : Called E ⟨.codeComplete r.handle file line column overlays, reply⟩ s s₁) :
      (onPool (Pool.release E.traced u)).Ends s₁
        (fun _ => Consulted u file line column overlays s reply.result) (fun _ _ => False) := by
    have hb := h.balanced.snoc_of_unit
      (x := ⟨.codeComplete r.handle file line column overlays, reply⟩) hr (List.mem_cons_self ..)
      rfl rfl rfl
    have hu := h.kept
    rw [← h₁.cache, ← h₁.calls] at hb
    rw [← h₁.cache] at hu
    refine (ends_releaseKept hb hu).mono ?_ fun _ _ hf => hf
    intro _ s₂ hend
    obtain ⟨hcache, hb₂, hcalls, hparse, hcompletion⟩ := hend
    refine ⟨?_, hb₂, hparse.trans h₁.parse, hcompletion.trans h₁.completion, r.handle, reply, rfl,
      hcalls.trans h₁.calls⟩
    rw [hcache, h₁.cache]
  unfold completeUnit
  rw [Act.ends_bind, ends_onPool, Pool.ends_get?, hr]
  dsimp only
  rw [Act.ends_andFinally]
  apply ends_call
  · intro reply o s₁ hreply h₁
    have hend := hrelease reply s₁ h₁
    rw [hreply] at hend
    exact hend.mono (fun _ _ h₂ => h₂) fun _ _ hf => hf.elim
  · intro reply e s₁ hreply h₁
    have hend := hrelease reply s₁ h₁
    rw [hreply] at hend
    exact hend.mono (fun _ _ h₂ => h₂) fun _ _ hf => hf.elim

/-- The result sets that are out after the engine was asked for one. -/
theorem Consulted.sets {u : UnitRef} {o : Except Fault (Option Handle)}
    (h : Consulted u file line column overlays s o s') (hs : Trace.SetsOut s.calls []) :
    Trace.SetsOut s'.calls (o.toOption.join).toList := by
  obtain ⟨unit, reply, hreply, hcalls⟩ := h.calls
  rw [hcalls]
  cases o with
  | error e => exact .of_failed (Trace.failed_snoc hreply)
  | ok o =>
    have hout := hs.snoc_compute (c := ⟨.codeComplete unit file line column overlays, reply⟩) rfl
    simp only [Call.computed?, hreply] at hout
    cases o <;> exact hout

theorem consulted_of_served {u : UnitRef} {o : Except Fault (Option Handle)} (h : Served u s.pool)
    (hrun : completeUnit E.traced u file line column overlays s = (o, s')) :
    Consulted u file line column overlays s o s' := by
  cases o with
  | error e => exact (ends_completeUnit h).at_error hrun
  | ok o => exact (ends_completeUnit h).at_ok hrun

theorem obtain_grows {settings : Settings} {o : Except Fault UnitRef} {p p' : Pool (Traced σ)}
    (hp : Pool.obtain E.traced settings file flags overlays p = (o, p')) :
    Pool.Grows (fun _ => True) p p' :=
  (Pool.obtain_built (K := fun _ => True) (fun _ => trivial) (fun _ => trivial) trivial
    trivial).grows.run hp

theorem Requested.idle {o : Except Fault (Option Handle)}
    (hr : Requested E.traced file line column flags s o s') (h : s.Idle []) :
    s'.Idle (o.toOption.join).toList := by
  cases hr with
  | stopped hp => exact (h.ends_obtain.at_error hp).idle
  | refused hp hw => exact (h.ends_obtain.at_error hp).idle.calm hw.calm
  | @served u p _ _ hp hrun =>
    have hserved := h.ends_obtain.at_ok hp
    have hc := consulted_of_served (s := { s with pool := p }) hserved hrun
    exact ⟨hc.balanced, hc.sets hserved.sets, hc.parse.trans h.parse,
      hc.completion.trans h.completion⟩

theorem Requested.cause {e : Fault} (hr : Requested E.traced file line column flags s (.error e) s')
    (h : s.Idle []) :
    Pool.Breaks s.pool s'.pool e ∨ e.isLength = true ∧ Pool.Overlong s.settings s.pool s'.pool := by
  cases hr with
  | stopped hp he =>
    rcases (h.ends_obtain.at_error hp).cause with hbreaks | ⟨f, rfl⟩ | hlong
    · exact .inl hbreaks
    · exact absurd rfl (he f)
    · exact .inr hlong
  | @served u p _ _ hp hrun =>
    have hc := consulted_of_served (s := { s with pool := p }) (h.ends_obtain.at_ok hp) hrun
    obtain ⟨unit, reply, hreply, hcalls⟩ := hc.calls
    exact .inl ((obtain_grows hp).breaks (Pool.breaks_snoc hcalls hreply))

section
variable {s₁ s₂ : Session (Traced σ)} {id : Handle}

theorem Idle.results {reply : Reply (List ResultEntry)} (h : s.Idle [id])
    (hc : Called E ⟨.completionResults id, reply⟩ s s') : s'.Idle [id] where
  balanced := by
    rw [hc.cache, hc.calls]
    exact h.balanced.snoc_of_unit?_none rfl rfl (by simp)
  sets := by
    rw [hc.calls]
    exact h.sets.snoc_naming rfl (List.mem_singleton.mpr rfl) rfl
  parse := hc.parse.trans h.parse
  completion := hc.completion.trans h.completion

theorem Idle.installed {reply : Reply (List ResultEntry)} {entries : List ResultEntry}
    (h : s.Idle [id]) (hreply : reply.result = .ok entries)
    (hc : Called E ⟨.completionResults id, reply⟩ s s') :
    Sound { s' with activeCompletion := some (.ofResults id entries) } := by
  have h' := h.results hc
  refine ⟨?_, ?_, .inl h'.parse, h'.sets, fun set hset entry hentry e he => ?_⟩
  · rw [show Session.activeParse _ = none from h'.parse]
    exact h'.balanced
  · rw [show Session.activeParse _ = none from h'.parse]
    simp
  · cases hset
    refine ⟨⟨.completionResults id, reply⟩, by rw [hc.calls]; simp, ?_⟩
    have hentry : entry ∈ entries := List.mem_mergeSort.mp hentry
    simpa [Call.faults, hreply] using ⟨entry, hentry, he⟩

theorem Completes.sound (hc : Completes E.traced file line column flags s (.ok ()) s')
    (h : s.Sound) : s'.Sound := by
  cases hc with
  | refused hreset hr hplace hw =>
    exact (hr.idle ((ends_resetActive h).at_ok hreset)).sound.calm hw.calm
  | installed hreset hr hcall hw =>
    obtain ⟨reply, hreply, hcalled⟩ := called_of_call hcall
    have h₂ := hr.idle ((ends_resetActive h).at_ok hreset)
    exact (h₂.installed hreply hcalled).calm hw.calm

theorem Completes.stops {e : Fault} (hc : Completes E.traced file line column flags s (.error e) s')
    (h : s.Sound) : Stopped s (.complete file line column flags) e s' := by
  have h₁ {s₁ : Session (Traced σ)} (hreset : resetActive E.traced s = (.ok (), s₁)) : s₁.Idle [] :=
    (ends_resetActive h).at_ok hreset
  cases hc with
  | unreset hreset =>
    obtain ⟨hs, hbreaks⟩ := (ends_resetActive h).at_error hreset
    exact stopped_of_breaks hs hbreaks
  | stopped hreset hr =>
    exact stopped_after hreset (hr.idle (h₁ hreset)).sound (hr.cause (h₁ hreset))
  | unwritten hreset hr hplace => exact ⟨(hr.idle (h₁ hreset)).sound, .unfit (.place hplace)⟩
  | @lost _ s₂ _ id _ hreset hr hcall =>
    obtain ⟨reply, hreply, hcalled⟩ := called_of_call hcall
    have h₂ : s₂.Idle [id] := hr.idle (h₁ hreset)
    have h₃ := h₂.results hcalled
    refine stopped_after hreset (Idle.sound ⟨h₃.balanced, ?_, h₃.parse, h₃.completion⟩) (.inl ?_)
    · rw [hcalled.calls]
      exact .of_failed (Trace.failed_snoc hreply)
    · have hg : Pool.Grows (fun _ => True) _ s₂.pool :=
        (covers_grows E _).requested (fun _ _ => trivial) hr
      exact hg.breaks (hcalled.breaks hreply)
  | unlogged hreset hr hcall hplace =>
    obtain ⟨reply, hreply, hcalled⟩ := called_of_call hcall
    exact ⟨(hr.idle (h₁ hreset)).installed hreply hcalled, .unfit (.place hplace)⟩

end

/-! ## Queries -/

theorem Sound.asked {op : Operation} {reply : Reply r.Answer} (h : s.Sound)
    (hr : op.asks? s = some r) (hc : Called E ⟨r, reply⟩ s s') : s'.Sound := by
  cases Operation.inquires_of_asks? hr with
  | completionDiagnostics hset =>
    refine h.called hc (h.balanced.snoc_of_unit?_none rfl rfl (by simp)) ?_
    exact h.sets.snoc_naming rfl (by simp [hset]) rfl
  | diagnostics hunit => exact h.called_active hc hunit rfl rfl rfl rfl
  | getType hunit => exact h.called_active hc hunit rfl rfl rfl rfl
  | getCompileOptions =>
    refine h.called hc (h.balanced.snoc_of_unit?_none rfl rfl (by simp)) ?_
    exact h.sets.snoc_sparing rfl (.inl rfl)

theorem Queried.sound {op : Operation} {o : Except Fault Unit} (hq : Queried E.traced s op o s')
    (h : s.Sound) : s'.Sound := by
  cases hq with
  | known hr hw => exact h.calm hw.calm
  | failed hr hcall =>
    obtain ⟨reply, -, hcalled⟩ := called_of_call hcall
    exact h.asked hr hcalled
  | told hr hcall hw =>
    obtain ⟨reply, -, hcalled⟩ := called_of_call hcall
    exact (h.asked hr hcalled).calm hw.calm

theorem Queried.cause {op : Operation} {e : Fault} (hq : Queried E.traced s op (.error e) s') :
    Raises s s' e ∨ e = .tooManyDigits ∧ Overlong s s' := by
  generalize ho : (.error e : Except Fault Unit) = o at hq
  cases hq with
  | known hr hw =>
    obtain ⟨set, hset, hbroken⟩ := Operation.knows_broken (Listing.result_eq_error.mp ho.symm)
    refine hbroken.imp (fun hu => .inr ⟨set, hset, hu⟩) fun hlong => ⟨hlong.1, .inr ⟨set, hset, hlong.2⟩⟩
  | failed hr hcall =>
    cases ho
    obtain ⟨reply, hreply, hcalled⟩ := called_of_call hcall
    obtain ⟨new, hcalls, hf⟩ := hcalled.breaks hreply
    exact .inl (.inl ⟨new, hcalls, hf.raised⟩)
  | @told r a _ _ hr hcall hw =>
    obtain ⟨reply, hreply, hcalled⟩ := called_of_call hcall
    have hcalls : s'.calls = s.calls ++ [⟨r, reply⟩] := hw.calm.calls.trans hcalled.calls
    rcases Request.shown_broken (Listing.result_eq_error.mp ho.symm) with hbroken | ⟨he, hlong⟩
    · refine .inl (.inl ⟨_, hcalls, _, List.mem_singleton.mpr rfl, ?_⟩)
      exact hbroken reply hreply
    · refine .inr ⟨he, .inl (.inr ⟨_, hcalls, _, List.mem_singleton.mpr rfl, a, hreply, hlong⟩)⟩

theorem Queried.stops {op : Operation} {e : Fault} (hq : Queried E.traced s op (.error e) s')
    (h : s.Sound) : Stopped s op e s' := by
  refine ⟨hq.sound h, ?_⟩
  rcases hq.cause with hraises | ⟨rfl, hlong⟩
  · exact .raised hraises
  · exact .overlong rfl hlong

/-! ## Operations -/

theorem SetsUnsaved.sound {source : String} {o : Except Fault Unit}
    (hs : SetsUnsaved file source s o s') (h : s.Sound) : s'.Sound := by
  cases hs with
  | noPath => exact h
  | unread _ _ hw => exact h.calm hw.calm_overlays
  | read _ _ hw => exact h.calm hw.calm_overlays

theorem SetsUnsaved.stops {source : String} {e : Fault}
    (hs : SetsUnsaved file source s (.error e) s') (h : s.Sound) :
    Stopped s (.setUnsaved file source) e s' := by
  cases hs with
  | noPath hfault => exact ⟨h, .unfit (.path hfault)⟩

theorem ResetsUnsaved.sound (hr : ResetsUnsaved E.traced file s (.ok ()) s') (h : s.Sound) :
    s'.Sound := by
  cases hr with
  | reset hreset _ hw =>
    have h₁ := ((ends_resetActive h).at_ok hreset).sound
    exact h₁.calm hw.calm_overlays

theorem ends_perform (h : s.Sound) (op : Operation) :
    (perform E.traced op).Ends s (fun _ => Sound) (Stopped s op) := by
  by_cases hquery : op.isQuery = true
  · refine (Act.ends_eq _ _).mono (fun _ s' hrun => ?_) fun e s' hrun => ?_
    · have hq := queried_perform (E := E.traced) hquery s
      rw [hrun] at hq
      exact hq.sound h
    · have hq := queried_perform (E := E.traced) hquery s
      rw [hrun] at hq
      exact hq.stops h
  · cases op with
    | setUnsaved file source =>
      exact (setsUnsaved_setUnsaved file source s).mono (fun _ _ hs => hs.sound h) fun _ _ hs =>
        hs.stops h
    | resetUnsaved file =>
      refine (resetsUnsaved_resetUnsaved file s).mono (fun _ _ hr => hr.sound h) fun e s' hr => ?_
      cases hr with
      | unreset hreset =>
        obtain ⟨hs, hbreaks⟩ := (ends_resetActive h).at_error hreset
        exact stopped_of_breaks hs hbreaks
    | parse file flags =>
      exact (parses_parse file flags s).mono (fun _ _ hp => hp.sound h) fun _ _ hp => hp.stops h
    | complete file line column flags =>
      exact (completes_complete s).mono (fun _ _ hc => hc.sound h) fun _ _ hc => hc.stops h
    | resetActive =>
      exact (ends_resetActive h).mono (fun _ _ h' => h'.sound) fun _ _ h' =>
        stopped_of_breaks h'.1 h'.2
    | _ => exact absurd rfl hquery

/-- All other faults are the engine's. -/
theorem Stopped.raises {op : Operation} {e : Fault} (h : Stopped s op e s')
    (he : e.isMisfit = false) : Raises s s' e := by
  cases h.cause with
  | raised hraises => exact hraises
  | overlong hlength => cases e <;> simp [Fault.isMisfit, Fault.isLength] at he hlength
  | unfit hunfit =>
    cases hunfit with
    | path hpath =>
      rcases FileSystem.pathFault?_eq_some hpath with ⟨rfl, -⟩ | ⟨c, position, rfl, -⟩ <;> cases he
    | place => cases he

/-- What an operation raises is a fault that the engine met at some time. -/
theorem Raises.raised {e : Fault} (h : Raises s s' e) (hs : s.Sound)
    (hcalls : s.calls <+: s'.calls) : Trace.Raised s'.calls e := by
  obtain ⟨before, hbefore⟩ := hcalls
  rcases h with ⟨new, hnew, hraised⟩ | ⟨set, hset, entry, hentry, he⟩
  · obtain ⟨c, hc, hce⟩ := hraised
    exact ⟨c, by rw [hnew]; exact List.mem_append_right _ hc, hce⟩
  · rw [← hbefore]
    exact (hs.entries set hset entry hentry e he).append

theorem perform_adds (op : Operation) (s : Session (Traced σ)) :
    s.calls <+: (perform E.traced op s).2.calls := by
  obtain ⟨new, hcalls, -⟩ :=
    perform_moves (covers_grows E fun _ => True) op (fun _ _ => trivial) s
  exact ⟨new, hcalls.symm⟩

/-! ## Runs -/

theorem Sound.withFiles (h : s.Sound) (files : FileSystem) : { s with files }.Sound :=
  h.calm ⟨rfl, rfl, rfl, rfl⟩

theorem sound_step (h : s.Sound) (move : FileSystem × Operation) : (step E.traced s move).Sound :=
  Act.Ends.state ((ends_perform (h.withFiles move.1) move.2).mono (fun _ _ h' => h')
    fun _ _ h' => h'.sound)

theorem sound_run (h : s.Sound) (moves : List (FileSystem × Operation)) :
    (run E.traced s moves).Sound := by
  induction moves generalizing s with
  | nil => exact h
  | cons move moves ih => exact ih (sound_step h move)

end

end Session

end CodeSense
