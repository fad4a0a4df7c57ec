import CodeSense.Engine.Script
import CodeSense.Proofs.FileSystem
import CodeSense.Proofs.Server.Runs
import CodeSense.Proofs.Session.Steps
import CodeSense.Proofs.Startup.Modes

/-!
# Cleaning up

However the command loop ended, the server gives back what it holds, closes the engine and removes
the scratch file, unless the engine breaks this off: `cleaned_up`. If it does, the rest is left
undone, and `cleanup_broken_off` shows what stays behind.
-/

namespace CodeSense

def Request.givesBack : Request → Bool
  | disposeUnit _ | disposeCompletion _ => true
  | _ => false

namespace Trace

/-- From `calls` to `calls'`, only handles were given back, and the engine answered. -/
def GivesBack (calls calls' : List Call) : Prop :=
  ∃ new, calls' = calls ++ new ∧ ∀ c ∈ new, c.request.givesBack = true ∧ c.Answered

def BreaksOff (e : Fault) (calls calls' : List Call) : Prop :=
  ∃ before c, calls' = before ++ [c] ∧ GivesBack calls before ∧
    (c.request.givesBack = true ∨ c.request = .close) ∧ c.reply.result = .error e

variable {a b c : List Call} {e : Fault}

theorem GivesBack.refl (calls : List Call) : GivesBack calls calls := ⟨[], by simp, by simp⟩

theorem GivesBack.trans (h : GivesBack a b) (h' : GivesBack b c) : GivesBack a c := by
  obtain ⟨new, rfl, hnew⟩ := h
  obtain ⟨new', rfl, hnew'⟩ := h'
  exact ⟨new ++ new', by simp, List.forall_mem_append.mpr ⟨hnew, hnew'⟩⟩

theorem GivesBack.breaksOff (h : GivesBack a b) (h' : BreaksOff e b c) : BreaksOff e a c := by
  obtain ⟨before, x, rfl, hbefore, hx⟩ := h'
  exact ⟨before, x, rfl, h.trans hbefore, hx⟩

def Closes (calls calls' : List Call) : Prop :=
  ∃ before c, calls' = before ++ [c] ∧ GivesBack calls before ∧ c.request = .close ∧ c.Answered

def cleansUp (c : Call) : Prop := c.request.givesBack = true ∨ c.request = .close

theorem Closes.cleanup (h : Closes a b) :
    ∃ new, b = a ++ new ∧ (∀ c ∈ new, cleansUp c) ∧ Answered new := by
  obtain ⟨before, c, rfl, ⟨new, rfl, hnew⟩, hc, hanswered⟩ := h
  refine ⟨new ++ [c], by simp, ?_, ?_⟩
  · exact List.forall_mem_append.mpr
      ⟨fun x hx => .inl (hnew x hx).1, List.forall_mem_singleton.mpr (.inr hc)⟩
  · exact List.forall_mem_append.mpr
      ⟨fun x hx => (hnew x hx).2, List.forall_mem_singleton.mpr hanswered⟩

/-- Nothing else failed than the call that was broken off. -/
theorem BreaksOff.cleanup (h : BreaksOff e a b) :
    ∃ new, b = a ++ new ∧ (∀ c ∈ new, cleansUp c) ∧ ¬ Answered new ∧
      ∀ f, Failed new f → f = e := by
  obtain ⟨before, c, rfl, ⟨new, rfl, hnew⟩, hc, hfailed⟩ := h
  refine ⟨new ++ [c], by simp, ?_, not_answered_of_failed (failed_snoc hfailed), ?_⟩
  · exact List.forall_mem_append.mpr
      ⟨fun x hx => .inl (hnew x hx).1, List.forall_mem_singleton.mpr hc⟩
  · rintro f ⟨x, hx, hf⟩
    rcases List.mem_append.mp hx with hx | hx
    · obtain ⟨answer, hanswer⟩ := (hnew x hx).2
      rw [hf] at hanswer
      cases hanswer
    · cases List.mem_singleton.mp hx
      rw [hfailed] at hf
      cases hf
      rfl

def closings (calls : List Call) : Nat := calls.countP (·.request = .close)

theorem closings_eq_zero (h : ∀ c ∈ a, c.request ≠ .close) : closings a = 0 := by
  simpa [closings, List.countP_eq_zero] using h

theorem GivesBack.closings (h : GivesBack a b) : closings b = closings a := by
  obtain ⟨new, rfl, hnew⟩ := h
  have hnone : Trace.closings new = 0 := by
    refine closings_eq_zero fun c hc hclose => ?_
    have hgives := (hnew c hc).1
    rw [hclose] at hgives
    cases hgives
  unfold Trace.closings at hnone ⊢
  rw [List.countP_append, hnone, Nat.add_zero]

theorem Closes.closings (h : Closes a b) : closings b = closings a + 1 := by
  obtain ⟨before, c, rfl, hbefore, hc, -⟩ := h
  rw [← hbefore.closings]
  simp [Trace.closings, hc]

end Trace

open Trace (GivesBack BreaksOff Closes)

/-! ## Giving back -/

section
variable {σ : Type} {E : Engine σ}

theorem Pool.ends_giveBack {p : Pool (Traced σ)} {r : Request} (hr : r.givesBack = true) :
    (call E.traced r).Ends p (fun _ p' => GivesBack p.calls p'.calls)
      (fun e p' => BreaksOff e p.calls p'.calls) := by
  apply ends_call
  · intro reply a p' hreply hc
    exact ⟨_, hc.calls, List.forall_mem_singleton.mpr ⟨hr, a, hreply⟩⟩
  · intro reply e p' hreply hc
    exact ⟨_, _, hc.calls, .refl _, .inl hr, hreply⟩

theorem Pool.ends_discard_gives (p : Pool (Traced σ)) (u : UnitRef) :
    (discard E.traced u).Ends p (fun _ p' => GivesBack p.calls p'.calls)
      (fun e p' => BreaksOff e p.calls p'.calls) := by
  unfold discard
  rw [Act.ends_bind, ends_get?]
  cases p.cache.get? u with
  | none => exact .refl _
  | some record =>
    dsimp only
    split
    · exact .refl _
    · rw [Act.ends_bind, ends_modifyCache]
      exact Pool.ends_giveBack rfl

theorem Pool.ends_discardAll_gives (p : Pool (Traced σ)) (us : List UnitRef) :
    (discardAll E.traced us).Ends p (fun _ p' => GivesBack p.calls p'.calls)
      (fun e p' => BreaksOff e p.calls p'.calls) := by
  induction us generalizing p with
  | nil => exact .refl _
  | cons u us ih =>
    unfold discardAll
    rw [Act.ends_bind, ends_modifyCache, Act.ends_bind]
    refine (ends_discard_gives _ u).mono (fun _ q hq => ?_) fun _ _ h => h
    exact (ih q).mono (fun _ _ h => hq.trans h) fun _ _ h => hq.breaksOff h

theorem Pool.ends_teardown_closes {p : Pool (Traced σ)} (hrunning : p.cache.closed = false) :
    (teardown E.traced).Ends p (fun _ p' => Closes p.calls p'.calls)
      (fun e p' => BreaksOff e p.calls p'.calls) := by
  unfold teardown
  rw [Act.ends_bind, Act.ends_gets, if_neg (by simp [hrunning]), Act.ends_bind, ends_modifyCache,
    Act.ends_bind]
  refine (ends_discardAll_gives _ _).mono (fun _ q hq => ?_) fun _ _ h => h
  rw [Act.ends_bind, ends_modifyCache]
  apply ends_call
  · intro reply a p' hreply hc
    exact ⟨_, _, hc.calls, hq, rfl, a, hreply⟩
  · intro reply e p' hreply hc
    exact ⟨_, _, hc.calls, hq, .inr rfl, hreply⟩

namespace Session

variable {s : Session (Traced σ)}

theorem ends_giveBack {r : Request} (hr : r.givesBack = true) :
    (call E.traced r).Ends s (fun _ s' => GivesBack s.calls s'.calls)
      (fun e s' => BreaksOff e s.calls s'.calls) := by
  unfold call
  rw [ends_onPool]
  exact Pool.ends_giveBack hr

theorem ends_resetActive_gives (h : s.Sound) :
    (resetActive E.traced).Ends s (fun _ s' => GivesBack s.calls s'.calls)
      (fun e s' => BreaksOff e s.calls s'.calls) := by
  unfold resetActive
  rw [Act.ends_bind, Act.ends_get, Act.ends_bind]
  cases hset : s.activeCompletion with
  | none =>
    rw [show Act.onSome none _ = (pure () : Act (Session (Traced σ)) Unit) from rfl,
      Act.ends_pure, Act.ends_bind]
    have hbalanced := h.balanced
    cases hactive : s.activeParse with
    | none => exact .refl _
    | some u =>
      -- the cache keeps the unit
      rw [hactive] at hbalanced
      refine Act.Ends.mono (ends_releaseKept hbalanced (h.kept u hactive)) ?_ fun _ _ hf => hf.elim
      intro _ s' hend
      obtain ⟨-, -, hcalls, -, -⟩ := hend
      rw [Act.ends_modify, show Session.calls _ = s'.calls from rfl, hcalls]
      exact .refl _
  | some set =>
    rw [h.exclusive.resolve_right (by simp [hset])]
    exact Act.Ends.mono (ends_giveBack rfl) (fun _ _ hs => hs) fun _ _ hs => hs

theorem ends_dispose_closes (h : s.Sound) :
    (dispose E.traced).Ends s (fun _ s' => Closes s.calls s'.calls)
      (fun e s' => BreaksOff e s.calls s'.calls) := by
  unfold dispose
  rw [Act.ends_bind]
  refine ((ends_resetActive_gives h).and (ends_resetActive h)).mono ?_ fun _ _ hf => hf.1
  rintro _ t ⟨hgives, hidle⟩
  rw [ends_onPool]
  refine (Pool.ends_teardown_closes hidle.balanced.running).mono ?_ fun _ _ hf => hgives.breaksOff hf
  rintro _ p ⟨before, c, hcalls, hbefore, hc⟩
  exact ⟨before, c, hcalls, hgives.trans hbefore, hc⟩

theorem dispose_files (E : Engine σ) (s : Session σ) : (dispose E s).2.files = s.files := by
  have hcovers := covers_files E
  exact Act.moves_bind hcovers.frame (hcovers.resetActive fun _ _ => trivial)
    (fun _ => hcovers.onPool (Pool.teardown_built (fun _ => trivial) trivial)) s

end Session

end

/-! ## The scratch file -/

namespace Server

variable {σ : Type} {E : Engine σ} {files : FileSystem} {path : String}

/-- The files are as they were, but for the scratch file while there is one. -/
structure Tidy (files : FileSystem) (path : String) (s : Server σ) : Prop where
  located : s.scratch.path = path
  closed : s.scratch.isOpen = false → s.session.files = files
  made : s.scratch.isOpen = true → files.write path [] = .ok s.session.files

theorem tidy_invariant (E : Engine σ) (hfree : files.Free path) :
    Invariant E (Tidy files path) where
  untouched {s t} h hs := by
    have hpath := h.scratch.path.trans hs.located
    rcases h.scratch with ⟨hscratch, hfiles⟩ | ⟨hclosed, -, hscratch, hfiles⟩
    · refine ⟨hpath, ?_, ?_⟩
      · rw [hscratch, hfiles]
        exact hs.closed
      · rw [hscratch, hfiles]
        exact hs.made
    · obtain ⟨made, hmade, -⟩ := FileSystem.remove_write hfree []
      rw [hs.located, hs.closed hclosed, hmade] at hfiles
      refine ⟨hpath, ?_, fun _ => ?_⟩
      · rw [hscratch]
        simp
      · rw [hmade, hfiles]
        rfl
  emit _ _ hs := ⟨hs.located, hs.closed, hs.made⟩
  verbose _ _ hs := ⟨hs.located, hs.closed, hs.made⟩
  perform op s hs := by
    have hfiles : (perform E op s).2.session.files = s.session.files :=
      Session.perform_moves (Session.covers_files E) op (fun _ _ => trivial) s.session
    refine ⟨hs.located, ?_, ?_⟩
    · rw [hfiles]
      exact hs.closed
    · rw [hfiles]
      exact hs.made

theorem closeScratch_files {s : Server σ} (hfree : files.Free path) (h : Tidy files path s) :
    (closeScratch s).2.session.files = files := by
  cases hopen : s.scratch.isOpen with
  | false =>
    rw [← h.closed hopen]
    simp [closeScratch, Act.bind_apply, Act.gets, Act.when, hopen, Act.pure]
  | true =>
    obtain ⟨made, hmade, hremove⟩ := FileSystem.remove_write hfree []
    rw [h.made hopen] at hmade
    cases hmade
    simp only [closeScratch, Act.bind_apply, Act.gets, Act.when, hopen, if_true, setScratchOpen,
      Act.modify, removeScratch, Act.get, h.located, hremove]
    rfl

theorem closeScratch_engine (s : Server σ) :
    (closeScratch s).2.session.pool.engine = s.session.pool.engine := by
  have hremove : ∀ (t : Server σ) (path : String),
      (removeScratch path t).2.session.pool.engine = t.session.pool.engine := by
    intro t path
    unfold removeScratch
    rw [Act.bind_apply]
    dsimp only [Act.get]
    cases t.session.files.remove path <;> rfl
  cases hopen : s.scratch.isOpen with
  | false => simp [closeScratch, Act.bind_apply, Act.gets, Act.when, hopen, Act.pure]
  | true =>
    simp only [closeScratch, Act.bind_apply, Act.gets, Act.when, hopen, if_true, setScratchOpen,
      Act.modify]
    exact hremove _ _

theorem conclude_untouched (ending : Ending) (s : Server σ) :
    Untouched s (conclude ending s).2 := by
  unfold conclude
  split
  · exact .refl s
  · exact .refl s
  · exact log_untouched _ _ _ s

theorem shutDown_closes {t : Server (Traced σ)} (hfree : files.Free path) (hs : t.session.Sound)
    (htidy : Tidy files path t) (ending : Ending) :
    (Closes t.calls (shutDown E.traced ending t).2.calls ∧
      (shutDown E.traced ending t).2.session.files = files) ∨
    ∃ e, BreaksOff e t.calls (shutDown E.traced ending t).2.calls ∧
      (shutDown E.traced ending t).1 = .fault e := by
  have hends := Session.ends_dispose_closes (E := E) hs
  have hfiles := Session.dispose_files E.traced t.session
  unfold Act.Ends at hends
  rcases hdispose : Session.dispose E.traced t.session with ⟨e | _, session⟩
  · rw [hdispose] at hends
    have hshut : shutDown E.traced ending t = (.fault e, { t with session }) := by
      simp [shutDown, onSession, Act.within, hdispose]
    rw [hshut]
    exact .inr ⟨e, hends, rfl⟩
  · rw [hdispose] at hends hfiles
    have hshut : shutDown E.traced ending t =
        (ending, (closeScratch { t with session }).2) := by
      simp [shutDown, onSession, Act.within, hdispose]
    have htidy' : Tidy files path { t with session } := by
      refine ⟨htidy.located, ?_, ?_⟩
      · rw [show Session.files _ = t.session.files from hfiles]
        exact htidy.closed
      · rw [show Session.files _ = t.session.files from hfiles]
        exact htidy.made
    rw [hshut]
    refine .inl ⟨?_, closeScratch_files hfree htidy'⟩
    have hcalls : (closeScratch { t with session }).2.calls = session.calls :=
      congrArg Traced.calls (closeScratch_engine _)
    rw [hcalls]
    exact hends

theorem serve_closes {s : Server (Traced σ)} (hfree : files.Free path) (hs : s.session.Sound)
    (htidy : Tidy files path s) (sources : List Source) :
    (Closes (run E.traced sources s).final.calls (serve E.traced sources s).2.calls ∧
      (serve E.traced sources s).2.session.files = files) ∨
    ∃ e, BreaksOff e (run E.traced sources s).final.calls (serve E.traced sources s).2.calls ∧
      (serve E.traced sources s).1 = .fault e := by
  have hinvariant := (sound_invariant E).and (tidy_invariant E.traced hfree)
  have hfinal := hinvariant.run sources ⟨hs, htidy⟩
  have huntouched := conclude_untouched (run E.traced sources s).ending
    (run E.traced sources s).final
  obtain ⟨hsound, htidy'⟩ := hinvariant.untouched huntouched hfinal
  have hcloses := shutDown_closes (E := E) hfree hsound htidy'
    (conclude (run E.traced sources s).ending (run E.traced sources s).final).1
  rw [show Server.calls _ = (run E.traced sources s).final.calls from huntouched.calm.calls] at hcloses
  exact hcloses

end Server

/-! ## Whole runs -/

variable {σ : Type}

/-- **Cleaning up.** However the loop ends, what follows it gives handles back and closes the
engine. As long as the engine answers this, it has been closed once, and the files are as they were
before the first command. -/
theorem cleaned_up (E : Engine σ) (start : Option String → σ) (w : Surroundings)
    (args : List String) {settings : Settings} {library : Given} {command : List String}
    {files : FileSystem} (hplan : Plan.ofArguments w.env args = .serve settings library command)
    (hlog : w.files.withLog settings.logFile = .ok files) (hfree : files.Free w.scratchPath) :
    let outcome := launch E.traced (fun library => { state := start library }) w args
    let loop := Server.run E.traced (sourcesOf settings command w.input)
      (Server.started w settings files { state := start library.text? })
    ∃ (t : Traced σ) (cleanup : List Call), outcome.engine = some (library, t) ∧
      t.calls = loop.final.calls ++ cleanup ∧
      (∀ c ∈ cleanup, Trace.cleansUp c) ∧
      (Trace.Answered cleanup → Trace.closings t.calls = 1 ∧ outcome.files = files) ∧
      ∀ e, Trace.Failed cleanup e → outcome.ending = .fault e := by
  intro outcome loop
  have hsound : (Server.started w settings files
      ({ state := start library.text? } : Traced σ)).session.Sound :=
    (Server.sound_invariant E).log _ _ _ (Server.sound_initial settings files w.scratchPath _)
  have htidy : Server.Tidy files w.scratchPath
      (Server.started w settings files ({ state := start library.text? } : Traced σ)) :=
    ⟨rfl, fun _ => rfl, fun h => by cases h⟩
  have hfinal := (Server.sound_invariant E).run (sourcesOf settings command w.input) hsound
  have hserve := Server.serve_closes (E := E) hfree hsound htidy
    (sourcesOf settings command w.input)
  let served := Server.serve E.traced (sourcesOf settings command w.input)
    (Server.started w settings files { state := start library.text? })
  obtain ⟨hengine, hfiles, hending⟩ : outcome.engine = some (library, served.2.session.pool.engine) ∧
      outcome.files = served.2.session.files ∧ outcome.ending = served.1 := by
    have hlaunch : outcome = launchServer E.traced (fun library => { state := start library }) w
        settings library command := by
      simp only [outcome, launch, hplan]
    rw [hlaunch, launchServer_ok hlog]
    exact ⟨rfl, rfl, rfl⟩
  rcases hserve with ⟨hcloses, hremoved⟩ | ⟨e, hbreaks, hfault⟩
  · obtain ⟨cleanup, hcalls, hcleanup, hanswered⟩ := hcloses.cleanup
    refine ⟨_, cleanup, hengine, hcalls, hcleanup, fun _ => ⟨?_, hfiles.trans hremoved⟩,
      fun e he => absurd hanswered (Trace.not_answered_of_failed he)⟩
    rw [hcloses.closings, Trace.closings_eq_zero hfinal.balanced.unclosed]
  · obtain ⟨cleanup, hcalls, hcleanup, hunanswered, honly⟩ := hbreaks.cleanup
    refine ⟨_, cleanup, hengine, hcalls, hcleanup, fun ha => absurd ha hunanswered, fun f hf => ?_⟩
    rw [honly f hf, hending, hfault]

/-- The user interrupts the server while it brings the scratch file's unit up to date. -/
theorem cleaned_up_interrupted :
    let start : Option String → Script := fun _ =>
      { traps := [(.reparse, { fault := .interrupted "" })] }
    let w : Surroundings := { scratchPath := "s" }
    let outcome := launch Script.engine.traced (fun library => { state := start library }) w
      ["parse", "-"]
    outcome.ending = .status 130 ∧ outcome.files = {} ∧
      outcome.engine.map (Trace.closings ·.2.calls) = some 1 := by
  intro start w outcome
  have hplan : Plan.ofArguments w.env ["parse", "-"] = .serve {} .nothing ["parse", "-"] := by
    decide +kernel
  have hfree : ({} : FileSystem).Free "s" := ⟨by decide, ["s"], by decide +kernel, by decide⟩
  obtain ⟨t, cleanup, hengine, hcalls, -, hclosed, -⟩ :=
    cleaned_up Script.engine start w ["parse", "-"] hplan rfl hfree
  have hanswered : Trace.Answered cleanup := by
    have hloop : (Server.run Script.engine.traced (sourcesOf {} ["parse", "-"] "")
        (Server.started w {} {} { state := start none })).final.calls.length = 2 := by
      decide +kernel
    have hdrop : t.calls.drop 2 = cleanup := by
      rw [hcalls, ← hloop]
      exact List.drop_left
    have hall : outcome.engine.map (fun e => decide (Trace.Answered (e.2.calls.drop 2))) =
        some true := by decide +kernel
    rw [hengine] at hall
    simpa [hdrop] using hall
  refine ⟨by decide +kernel, (hclosed hanswered).2, ?_⟩
  rw [hengine, Option.map_some, (hclosed hanswered).1]

/-- An engine that fails to dispose of a unit is not closed, and the scratch file stays. -/
theorem cleanup_broken_off :
    let start : Option String → Traced Script := fun _ =>
      { state := { traps := [(.disposeUnit, { fault := .engine .runtime "lost" })] } }
    let outcome := launch Script.engine.traced start { scratchPath := "s" } ["parse", "-"]
    outcome.ending = .fault (.engine .runtime "lost") ∧
      outcome.engine.map (Trace.closings ·.2.calls) = some 0 ∧
      outcome.files.node? ["s"] = some (.file []) := by
  intro start outcome
  exact ⟨by decide +kernel, by decide +kernel, by decide +kernel⟩

end CodeSense
