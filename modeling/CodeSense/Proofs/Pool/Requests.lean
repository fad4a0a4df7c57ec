import CodeSense.Pool
import CodeSense.Proofs.Act
import CodeSense.Proofs.Cache
import CodeSense.Proofs.Engine
import CodeSense.Proofs.Trace

/-!
# What the operations of a pool do

A relation for each operation says which calls it makes, what becomes of the cache, and what it
answers or stops with, for every pool and every engine. The log is left out of it, but for the
entries that it refuses. Each relation is shown once to hold (`release_released`, `find_found`,
`attemptParse_tried`, `refresh_refreshed`, `findOrParse_located`, `parse_parsed`), and all that is
kept by the operations is shown from the relations.
-/

namespace CodeSense

abbrev Pool.calls {σ : Type} (p : Pool (Traced σ)) : List Call := p.engine.calls

theorem Journal.refuses_record (j : Journal) (e : Entry) : (j.record e).refuses = j.refuses := by
  unfold record
  split <;> rfl

theorem Journal.refuses_foldl_record (notes : List Entry) (j : Journal) :
    (notes.foldl record j).refuses = j.refuses := by
  induction notes generalizing j with
  | nil => rfl
  | cons e notes ih => exact (ih (j.record e)).trans (j.refuses_record e)

theorem Text.isWritable_zero : isWritable 0 = true := by
  unfold isWritable
  generalize maxDigits = n
  exact decide_eq_true (Nat.pow_pos (Nat.succ_pos 9))

namespace Fault

def failure? : Fault → Option ParseFailure
  | parseFailed f | unreported f => some f
  | _ => none

def isLength : Fault → Bool
  | unreported _ | tooManyDigits => true
  | _ => false

@[simp] theorem failure?_ofFailure (f : ParseFailure) : (ofFailure f).failure? = some f := by
  unfold ofFailure
  split <;> rfl

theorem ofFailure_cases (f : ParseFailure) :
    ofFailure f = parseFailed f ∨ (ofFailure f).isLength = true ∧ Text.isWritable f.code = false := by
  unfold ofFailure
  split
  · exact .inl rfl
  · rename_i hlong
    exact .inr ⟨rfl, by simpa using hlong⟩

end Fault

/-! ## Caches -/

namespace Cache

def countRetries (c : Cache) (n : Nat) : Cache :=
  { c with stats.retries := c.stats.retries + n }

theorem countRetries_countRetry (c : Cache) (n : Nat) :
    c.countRetry.countRetries n = c.countRetries (n + 1) := by
  simp only [countRetry, countRetries, Nat.add_assoc, Nat.add_comm 1 n]

end Cache

/-! ## Attempts to parse -/

/-- There is a unit, or what went wrong was no crash. -/
def IsFinal (o : Int × Option Handle) : Prop := o.2.isSome = true ∨ o.1 ≠ ErrorCode.crashed

instance : DecidablePred IsFinal := fun o =>
  inferInstanceAs (Decidable (o.2.isSome = true ∨ o.1 ≠ ErrorCode.crashed))

theorem eq_crashed_of_not_final {o : Int × Option Handle} (h : ¬ IsFinal o) :
    o = (ErrorCode.crashed, none) := by
  obtain ⟨code, handle⟩ := o
  simpa [IsFinal, and_comm] using h

section
variable (settings : Settings) (file : String) (flags : List String) (overlays : List Overlay)

def Call.attempt (reply : Reply (Int × Option Handle)) : Call :=
  ⟨.parse file flags overlays UnitOption.standard, reply⟩

def Call.rest (reply : Reply Unit) : Call := ⟨.pause settings.retryDelay, reply⟩

variable {settings file flags overlays} in
theorem Trace.counts_round {reply : Reply (Int × Option Handle)} {reply' : Reply Unit}
    (calls : List Call) :
    parseCount (.attempt file flags overlays reply :: .rest settings reply' :: calls) =
        parseCount calls + 1 ∧
      pauseCount (.attempt file flags overlays reply :: .rest settings reply' :: calls) =
        pauseCount calls + 1 := by
  unfold parseCount pauseCount
  rw [List.countP_cons_of_pos rfl, List.countP_cons_of_neg (by exact nofun),
    List.countP_cons_of_neg (by exact nofun), List.countP_cons_of_pos rfl]
  exact ⟨rfl, rfl⟩

/-- The calls of up to `left` attempts, and what these come to. `refuses` says whether the log may
stop them. -/
inductive Attempts (refuses : Bool) : (left : Nat) → List Call →
    Except Fault (Int × Option Handle) → Prop
  | unasked : Attempts refuses 0 [] (.ok (ErrorCode.success, none))
  | answered {left : Nat} {reply : Reply (Int × Option Handle)} {o : Int × Option Handle}
    (h : reply.result = .ok o) (hlast : IsFinal o ∨ left = 0) :
    Attempts refuses (left + 1) [.attempt file flags overlays reply] (.ok o)
  | broken {left : Nat} {reply : Reply (Int × Option Handle)} {e : Fault}
    (h : reply.result = .error e) :
    Attempts refuses (left + 1) [.attempt file flags overlays reply] (.error e)
  /-- The log refuses to say how many attempts there are. -/
  | unlogged {left : Nat} {reply : Reply (Int × Option Handle)}
    (h : reply.result = .ok (ErrorCode.crashed, none)) (hrefuses : refuses = true)
    (hlong : Text.isWritable settings.parseAttempts = false) :
    Attempts refuses (left + 1) [.attempt file flags overlays reply]
      (.error (.unreported { file, code := ErrorCode.crashed }))
  | restless {left : Nat} {reply : Reply (Int × Option Handle)} {reply' : Reply Unit} {e : Fault}
    (h : reply.result = .ok (ErrorCode.crashed, none)) (hleft : left ≠ 0)
    (he : reply'.result = .error e) :
    Attempts refuses (left + 1) [.attempt file flags overlays reply, .rest settings reply']
      (.error e)
  | again {left : Nat} {reply : Reply (Int × Option Handle)} {reply' : Reply Unit}
    {more : List Call} {o : Except Fault (Int × Option Handle)}
    (h : reply.result = .ok (ErrorCode.crashed, none)) (hleft : left ≠ 0)
    (hrest : reply'.result = .ok ()) (hmore : Attempts refuses left more o) :
    Attempts refuses (left + 1)
      (.attempt file flags overlays reply :: .rest settings reply' :: more) o

/-- What a request makes of its attempts: their unit, whatever its code, or a failure. -/
def decided : Except Fault (Int × Option Handle) → Except Fault Handle
  | .ok (_, some handle) => .ok handle
  | .ok (code, none) => .error (.ofFailure { file, code })
  | .error e => .error e

end

namespace Attempts

variable {settings : Settings} {file : String} {flags : List String} {overlays : List Overlay}
  {refuses : Bool} {left : Nat} {calls : List Call} {o : Except Fault (Int × Option Handle)}

theorem mem (h : Attempts settings file flags overlays refuses left calls o) :
    ∀ c ∈ calls, c.request = .parse file flags overlays UnitOption.standard ∨
      c.request = .pause settings.retryDelay := by
  induction h with
  | unasked => simp
  | answered => simp [Call.attempt]
  | broken => simp [Call.attempt]
  | unlogged => simp [Call.attempt]
  | restless => simp [Call.attempt, Call.rest]
  | again _ _ _ _ ih => simpa [Call.attempt, Call.rest] using ih

/-- A unit comes with the last attempt only. -/
theorem parsed (h : Attempts settings file flags overlays refuses left calls o) :
    Trace.parsed calls = ((decided file o).toOption.map (file, flags, ·)).toList := by
  induction h with
  | unasked => rfl
  | @answered left reply o h hlast =>
    obtain ⟨code, _ | handle⟩ := o <;>
      simp [Trace.parsed, Call.attempt, Call.parsed?, h, decided, Except.toOption]
  | broken h => simp [Trace.parsed, Call.attempt, Call.parsed?, h, decided, Except.toOption]
  | unlogged h => simp [Trace.parsed, Call.attempt, Call.parsed?, h, decided, Except.toOption]
  | restless h => simp [Trace.parsed, Call.attempt, Call.rest, Call.parsed?, h, decided, Except.toOption]
  | again h _ _ _ ih =>
    rw [← ih]
    simp [Trace.parsed, Call.attempt, Call.rest, Call.parsed?, h]

/-- Where there is no unit, a call failed, or the engine said that there is none. -/
theorem cause {e : Fault} (h : Attempts settings file flags overlays refuses left calls o)
    (he : decided file o = .error e) :
    Trace.Failed calls e ∨ ∃ code, e.failure? = some { file, code } := by
  induction h with
  | unasked =>
    cases he
    exact .inr ⟨_, Fault.failure?_ofFailure _⟩
  | @answered left reply o h hlast =>
    obtain ⟨code, _ | handle⟩ := o
    · cases he
      exact .inr ⟨code, Fault.failure?_ofFailure _⟩
    · cases he
  | broken h =>
    cases he
    exact .inl ⟨_, List.mem_singleton.mpr rfl, h⟩
  | unlogged h =>
    cases he
    exact .inr ⟨_, rfl⟩
  | restless h _ hrest =>
    cases he
    exact .inl ⟨_, List.mem_cons_of_mem _ (List.mem_singleton.mpr rfl), hrest⟩
  | again _ _ _ _ ih => exact (ih he).imp (fun hf => hf.mono (by simp)) id

/-- Where the failure is not reported as such, a number is too long to be written. -/
theorem tooLong {e : Fault} (h : Attempts settings file flags overlays refuses left calls o)
    (he : decided file o = .error e) :
    Trace.Failed calls e ∨ (∃ f, e = .parseFailed f) ∨ e.isLength = true ∧
      (refuses = true ∧ Text.isWritable settings.parseAttempts = false ∨
        Trace.HasTooLong calls) := by
  induction h with
  | unasked =>
    cases he
    rcases Fault.ofFailure_cases { file, code := ErrorCode.success } with hf | ⟨-, hlong⟩
    · exact .inr (.inl ⟨_, hf⟩)
    · cases hlong.symm.trans Text.isWritable_zero
  | @answered left reply o h hlast =>
    obtain ⟨code, _ | handle⟩ := o
    · cases he
      rcases Fault.ofFailure_cases { file, code } with hf | ⟨hlength, hlong⟩
      · exact .inr (.inl ⟨_, hf⟩)
      · refine .inr (.inr ⟨hlength, .inr ⟨_, List.mem_singleton.mpr rfl, _, h, ?_⟩⟩)
        simp [Call.attempt, Request.tooLong, hlong]
    · cases he
  | broken h =>
    cases he
    exact .inl ⟨_, List.mem_singleton.mpr rfl, h⟩
  | unlogged h hrefuses hlong =>
    cases he
    exact .inr (.inr ⟨rfl, .inl ⟨hrefuses, hlong⟩⟩)
  | restless h _ hrest =>
    cases he
    exact .inl ⟨_, List.mem_cons_of_mem _ (List.mem_singleton.mpr rfl), hrest⟩
  | again _ _ _ _ ih =>
    refine (ih he).imp (fun hf => hf.mono (by simp)) (.imp id (.imp id (.imp id fun hlong => ?_)))
    obtain ⟨c, hc, hlong⟩ := hlong
    exact ⟨c, by simp [hc], hlong⟩

/-- As long as calls are answered, there is one attempt more than there are pauses. -/
theorem parseCount (h : Attempts settings file flags overlays refuses left calls o)
    (ha : Trace.Answered calls) (hleft : left ≠ 0) :
    Trace.parseCount calls = Trace.pauseCount calls + 1 := by
  induction h with
  | unasked => exact absurd rfl hleft
  | answered => rfl
  | broken => rfl
  | unlogged => rfl
  | restless _ _ hrest =>
    exact absurd ha (Trace.not_answered_of_failed
      ⟨_, List.mem_cons_of_mem _ (List.mem_singleton.mpr rfl), hrest⟩)
  | again _ hmore _ _ ih =>
    have hmany := ih (fun c hc => ha c (by simp [hc])) hmore
    rw [(Trace.counts_round _).1, (Trace.counts_round _).2, hmany]

end Attempts

namespace Pool

open Act

variable {σ : Type}

/-! ## Traces -/

section
variable {K : Request → Prop}

def Grows (K : Request → Prop) (p p' : Pool (Traced σ)) : Prop :=
  ∃ new, p'.calls = p.calls ++ new ∧ ∀ c ∈ new, K c.request

theorem grows_frame : Act.Frame (Grows K (σ := σ)) where
  refl p := ⟨[], by simp, by simp⟩
  trans := by
    rintro p q r ⟨new, hq, hnew⟩ ⟨new', hr, hnew'⟩
    refine ⟨new ++ new', by rw [hr, hq, List.append_assoc], fun c hc => ?_⟩
    rcases List.mem_append.mp hc with hc | hc
    · exact hnew c hc
    · exact hnew' c hc

theorem grows_of_calls_eq {p p' : Pool (Traced σ)} (h : p'.calls = p.calls) : Grows K p p' :=
  ⟨[], by simp [h], by simp⟩

theorem Grows.mono {K' : Request → Prop} {p p' : Pool (Traced σ)} (h : Grows K p p')
    (hK : ∀ r, K r → K' r) : Grows K' p p' := by
  obtain ⟨new, hnew, hcalls⟩ := h
  exact ⟨new, hnew, fun c hc => hK _ (hcalls c hc)⟩

theorem grows_snoc {p p' : Pool (Traced σ)} {x : Call} (hcalls : p'.calls = p.calls ++ [x])
    (hx : K x.request) : Grows K p p' :=
  ⟨[x], hcalls, by simpa using hx⟩

def Breaks (p p' : Pool (Traced σ)) (e : Fault) : Prop :=
  ∃ new, p'.calls = p.calls ++ new ∧ Trace.Failed new e

variable {p p' q : Pool (Traced σ)} {e : Fault}

theorem Breaks.failed (h : Breaks p p' e) : Trace.Failed p'.calls e := by
  obtain ⟨new, hnew, hf⟩ := h
  rw [hnew]
  exact hf.mono (List.subset_append_right ..)

theorem Grows.breaks (h : Grows K p q) (h' : Breaks q p' e) : Breaks p p' e := by
  obtain ⟨new, hq, -⟩ := h
  obtain ⟨new', hp', hf⟩ := h'
  exact ⟨new ++ new', by rw [hp', hq, List.append_assoc], hf.mono (List.subset_append_right ..)⟩

theorem breaks_snoc {r : Request} {reply : Reply r.Answer}
    (hcalls : p'.calls = p.calls ++ [⟨r, reply⟩]) (he : reply.result = .error e) : Breaks p p' e :=
  ⟨_, hcalls, _, List.mem_singleton.mpr rfl, he⟩

end

/-! ## Calls and entries -/

theorem ends_log {p : Pool σ} {origin : Origin} {level : Level} {message : String}
    {ok : Unit → Pool σ → Prop} {err : Fault → Pool σ → Prop} :
    (log origin level message).Ends p ok err ↔
      ok () { p with journal := p.journal.record ⟨level, origin, message⟩ } := Iff.rfl

theorem ends_modifyCache {p : Pool σ} {f : Cache → Cache} {ok : Unit → Pool σ → Prop}
    {err : Fault → Pool σ → Prop} :
    (modifyCache f).Ends p ok err ↔ ok () { p with cache := f p.cache } := Iff.rfl

theorem ends_retain {p : Pool σ} {u : UnitRef} {n : Int} {ok : Unit → Pool σ → Prop}
    {err : Fault → Pool σ → Prop} :
    (retain u n).Ends p ok err ↔ ok () { p with cache := p.cache.retain u n } := Iff.rfl

theorem ends_get? {p : Pool σ} {u : UnitRef} {ok : Option UnitRecord → Pool σ → Prop}
    {err : Fault → Pool σ → Prop} :
    (get? u).Ends p ok err ↔ ok (p.cache.get? u) p := Iff.rfl

structure Called (E : Engine σ) (x : Call) (p p' : Pool (Traced σ)) : Prop where
  cache : p'.cache = p.cache
  calls : p'.calls = p.calls ++ [x]
  answers : E.Answers p.engine.state [x] p'.engine.state
  refuses : p'.journal.refuses = p.journal.refuses

variable {E : Engine σ} {p p' q : Pool (Traced σ)}

theorem ends_call {r : Request} {ok : r.Answer → Pool (Traced σ) → Prop}
    {err : Fault → Pool (Traced σ) → Prop}
    (hok : ∀ (reply : Reply r.Answer) a p', reply.result = .ok a → Called E ⟨r, reply⟩ p p' →
      ok a p')
    (herr : ∀ (reply : Reply r.Answer) e p', reply.result = .error e → Called E ⟨r, reply⟩ p p' →
      err e p') :
    (call E.traced r).Ends p ok err := by
  have hcalled : Called E ⟨r, (E.call r p.engine.state).1⟩ p (call E.traced r p).2 :=
    ⟨rfl, rfl, ⟨rfl, rfl⟩, Journal.refuses_foldl_record _ _⟩
  unfold Ends
  split
  · rename_i a p' hx
    rw [hx] at hcalled
    exact hok _ a p' (congrArg Prod.fst hx) hcalled
  · rename_i e p' hx
    rw [hx] at hcalled
    exact herr _ e p' (congrArg Prod.fst hx) hcalled

theorem ends_logNumbers {p : Pool σ} {origin : Origin} {level : Level} {numbers : List Int}
    {message : String} {e : Fault} {ok : Unit → Pool σ → Prop} {err : Fault → Pool σ → Prop}
    (hok : ∀ journal, journal.refuses = p.journal.refuses → ok () { p with journal })
    (herr : numbers.all Text.isWritable = false → p.journal.refuses level = true → err e p) :
    (logNumbers origin level numbers message e).Ends p ok err := by
  unfold logNumbers
  split
  · rw [ends_log]
    exact hok _ (p.journal.refuses_record _)
  · rename_i hnumbers
    rw [ends_bind, ends_gets]
    unfold Act.when
    split
    · rename_i hrefuses
      exact herr (by simpa using hnumbers) hrefuses
    · exact hok p.journal rfl

/-! ## Giving back -/

structure Released (u : UnitRef) (p : Pool (Traced σ)) (o : Except Fault Unit)
    (p' : Pool (Traced σ)) : Prop where
  cache : p'.cache = p.cache.giveBack u
  calls : ∃ new, p'.calls = p.calls ++ new ∧ new.map (·.request) = p.cache.lastOut u ∧
    ∀ e, o = .error e → Trace.Failed new e ∨ ∃ r, p.cache.get? u = some r ∧ r.refCount ≤ 0
  refuses : p'.journal.refuses = p.journal.refuses

theorem Released.grows {K : Request → Prop} (hdispose : ∀ unit, K (.disposeUnit unit))
    {u : UnitRef} {o : Except Fault Unit} (h : Released u p o p') : Grows K p p' := by
  obtain ⟨new, hcalls, hout, -⟩ := h.calls
  refine ⟨new, hcalls, fun x hx => ?_⟩
  have hmem : x.request ∈ p.cache.lastOut u := hout ▸ List.mem_map_of_mem hx
  unfold Cache.lastOut at hmem
  split at hmem
  · cases hmem
  · split at hmem
    · rw [List.mem_singleton.mp hmem]
      exact hdispose _
    · cases hmem

theorem release_released (u : UnitRef) (p : Pool (Traced σ)) :
    (release E.traced u).Ends p (fun a => Released u p (.ok a)) (fun e => Released u p (.error e)) := by
  unfold release
  rw [ends_bind, ends_retain, ends_bind, ends_get?]
  rcases hr : p.cache.get? u with _ | r
  · have hnone : (p.cache.retain u (-1)).get? u = none := by
      rw [Cache.retain, Cache.get?_update, if_pos rfl, hr]
      rfl
    rw [hnone]
    exact ⟨Cache.retain_eq_giveBack (by simp [hr]), ⟨[], by simp, by simp [Cache.lastOut, hr], by simp⟩,
      rfl⟩
  · have hshared (o : Except Fault Unit) (hr' : r.released = true ∨ r.refCount ≠ 1)
        (ho : ∀ e, o = .error e → r.refCount ≤ 0) :
        Released u p o { p with cache := p.cache.retain u (-1) } := by
      refine ⟨Cache.retain_eq_giveBack fun r₀ hr₀ => ?_, ⟨[], by simp, ?_, fun e he => ?_⟩, rfl⟩
      · cases hr.symm.trans hr₀
        exact hr'
      · rcases hr' with hr' | hr' <;> simp [Cache.lastOut, hr, hr']
      · exact .inr ⟨r, hr, ho e he⟩
    rw [Cache.get?_retain hr]
    dsimp only
    -- from here on the count is the one without the reference
    split
    · exact hshared _ (.inr (by omega)) fun _ _ => by omega
    · split
      · unfold discard
        rw [ends_bind, ends_get?, Cache.get?_retain hr]
        dsimp only
        split
        · rename_i hrel
          exact hshared _ (.inl hrel) (by simp)
        · rename_i hzero hrel
          have hone : r.refCount = 1 := by omega
          have hlast : (p.cache.retain u (-1)).markReleased u = p.cache.giveBack u := by
            refine Cache.markReleased_eq_giveBack fun r₀ hr₀ => ?_
            cases hr.symm.trans hr₀
            exact hone
          have hout : p.cache.lastOut u = [.disposeUnit r.handle] := by
            simp [Cache.lastOut, hr, hone, hrel]
          rw [ends_bind, ends_modifyCache]
          apply ends_call
          · intro reply _ p' _ hcalled
            exact ⟨hcalled.cache.trans hlast, ⟨_, hcalled.calls, hout.symm, by simp⟩, hcalled.refuses⟩
          · intro reply e p' hreply hcalled
            refine ⟨hcalled.cache.trans hlast, ⟨_, hcalled.calls, hout.symm, fun f hf => ?_⟩,
              hcalled.refuses⟩
            cases hf
            exact .inl ⟨_, List.mem_singleton.mpr rfl, hreply⟩
      · exact hshared _ (.inr (by omega)) (by simp)

inductive Dropped (file : String) (p : Pool (Traced σ)) :
    Except Fault Unit → Pool (Traced σ) → Prop
  | nothing (hk : p.cache.kept.get? file = none) : Dropped file p (.ok ()) p
  | unit {u : UnitRef} {o : Except Fault Unit} {p' : Pool (Traced σ)}
    (hk : p.cache.kept.get? file = some u)
    (h : Released u { p with cache := p.cache.forget file } o p') : Dropped file p o p'

theorem Dropped.grows {K : Request → Prop} (hdispose : ∀ unit, K (.disposeUnit unit))
    {file : String} {o : Except Fault Unit} (h : Dropped file p o p') : Grows K p p' := by
  cases h with
  | nothing => exact grows_frame.refl p
  | unit hk h => exact Released.grows (p := { p with cache := p.cache.forget file }) hdispose h

theorem drop_dropped (file : String) (p : Pool (Traced σ)) :
    (drop E.traced file).Ends p (fun a => Dropped file p (.ok a))
      (fun e => Dropped file p (.error e)) := by
  unfold drop
  rw [ends_bind, ends_gets]
  split
  · rename_i hk
    exact .nothing hk
  · rename_i u hk
    rw [ends_bind, ends_modifyCache]
    exact (release_released u _).mono (fun _ _ => .unit hk) fun _ _ => .unit hk

/-! ## Looking up -/

section
variable {file : String} {flags : List String} {overlays : List Overlay} {u : UnitRef}

abbrev Evicted (file : String) (u : UnitRef) (p : Pool (Traced σ)) (o : Except Fault Unit)
    (p' : Pool (Traced σ)) : Prop :=
  Released u { p with cache := (p.cache.forget file).countEviction } o p'

theorem Evicted.kept {o : Except Fault Unit} (h : Evicted file u p o p') :
    p'.cache.kept.get? file = none := by
  rw [h.cache]
  exact (Keyed.get?_erase ..).trans (if_pos rfl)

inductive Found (file : String) (flags : List String) (p : Pool (Traced σ)) :
    Except Fault (Option UnitRef) → Pool (Traced σ) → Prop
  | kept {u : UnitRef} {r : UnitRecord} (hk : p.cache.kept.get? file = some u)
    (hr : p.cache.get? u = some r) (hflags : r.flags = flags) : Found file flags p (.ok (some u)) p
  | missing (hk : p.cache.kept.get? file = none) : Found file flags p (.ok none) p
  | evicted {u : UnitRef} {o : Except Fault Unit} {p' : Pool (Traced σ)}
    (hk : p.cache.kept.get? file = some u)
    (hflags : ∀ r, p.cache.get? u = some r → r.flags ≠ flags) (h : Evicted file u p o p') :
    Found file flags p (o.map fun _ => none) p'

theorem find_found (file : String) (flags : List String) (p : Pool (Traced σ)) :
    (find E.traced file flags).Ends p (fun a => Found file flags p (.ok a))
      (fun e => Found file flags p (.error e)) := by
  unfold find
  rw [ends_bind, ends_gets]
  split
  · rename_i hk
    exact .missing hk
  · rename_i u hk
    split
    · rename_i hfits
      obtain ⟨r, hr, hflags⟩ := (Option.any_eq_true ..).mp hfits
      exact .kept hk hr (by simpa [sameFlags] using hflags)
    · rename_i hfits
      have hflags (r : UnitRecord) (hr : p.cache.get? u = some r) : r.flags ≠ flags := by
        simpa [hr, sameFlags] using hfits
      unfold evict
      rw [ends_bind, ends_bind, ends_log, ends_bind, ends_modifyCache, ends_bind, ends_modifyCache]
      refine (release_released u _).mono (fun _ p' h => ?_) fun e p' h => ?_
      · exact .evicted hk hflags ⟨h.cache, h.calls, h.refuses.trans (Journal.refuses_record ..)⟩
      · exact .evicted (o := .error e) hk hflags
          ⟨h.cache, h.calls, h.refuses.trans (Journal.refuses_record ..)⟩

theorem Found.grows {K : Request → Prop} (hdispose : ∀ unit, K (.disposeUnit unit))
    {o : Except Fault (Option UnitRef)} (h : Found file flags p o q) : Grows K p q := by
  cases h with
  | kept => exact grows_frame.refl p
  | missing => exact grows_frame.refl p
  | evicted hk hflags h =>
    exact Released.grows (p := { p with cache := (p.cache.forget file).countEviction }) hdispose h

theorem Found.fits (h : Found file flags p (.ok (some u)) q) :
    q = p ∧ p.cache.kept.get? file = some u ∧ ∃ r, p.cache.get? u = some r ∧ r.flags = flags := by
  generalize ho : (.ok (some u) : Except Fault (Option UnitRef)) = o at h
  cases h with
  | kept hk hr hflags =>
    cases ho
    exact ⟨rfl, hk, _, hr, hflags⟩
  | missing => cases ho
  | @evicted _ o => cases o <;> cases ho

theorem Found.free (h : Found file flags p (.ok none) q) : q.cache.kept.get? file = none := by
  generalize ho : (.ok none : Except Fault (Option UnitRef)) = o at h
  cases h with
  | kept => cases ho
  | missing hk => exact hk
  | evicted _ _ h => exact h.kept

end

/-! ## Attempts -/

section
variable (E : Engine σ) (settings : Settings) (file : String) (flags : List String)
  (overlays : List Overlay)

structure Tried (left : Nat) (p : Pool (Traced σ)) (o : Except Fault (Int × Option Handle))
    (p' : Pool (Traced σ)) : Prop where
  calls : ∃ new, p'.calls = p.calls ++ new ∧ E.Answers p.engine.state new p'.engine.state ∧
    Attempts settings file flags overlays (p.journal.refuses .info) left new o ∧
    p'.cache = p.cache.countRetries (Trace.pauseCount new)
  refuses : p'.journal.refuses = p.journal.refuses

variable {E settings file flags overlays} {left : Nat} {o : Except Fault (Int × Option Handle)}

theorem Called.tried {x : Call} (h : Called E x p p') (hkind : x.request.kind ≠ .pause)
    (hone : Attempts settings file flags overlays (p.journal.refuses .info) left [x] o) :
    Tried E settings file flags overlays left p o p' := by
  refine ⟨⟨[x], h.calls, h.answers, hone, ?_⟩, h.refuses⟩
  rw [h.cache]
  simp [Trace.pauseCount, hkind, Cache.countRetries]

theorem Tried.log (h : Tried E settings file flags overlays left p o p') {journal : Journal}
    (hj : journal.refuses = p'.journal.refuses) :
    Tried E settings file flags overlays left p o { p' with journal } :=
  ⟨h.calls, hj.trans h.refuses⟩

theorem Tried.grows (h : Tried E settings file flags overlays left p o p') :
    Grows (fun _ => True) p p' := by
  obtain ⟨new, hcalls, -⟩ := h.calls
  exact ⟨new, hcalls, fun _ _ => trivial⟩

theorem Tried.kept (h : Tried E settings file flags overlays left p o p') :
    p'.cache.kept = p.cache.kept := by
  obtain ⟨new, -, -, -, hcache⟩ := h.calls
  rw [hcache]
  rfl

/-- An attempt crashed, a pause came after it, and then `h`. -/
theorem Tried.after_crash {reply : Reply (Int × Option Handle)} {reply' : Reply Unit}
    {p₁ p₂ : Pool (Traced σ)} {journal : Journal}
    (h : Tried E settings file flags overlays left p₂ o p')
    (hcrash : reply.result = .ok (ErrorCode.crashed, none)) (hleft : left ≠ 0)
    (hrest : reply'.result = .ok ()) (h₁ : Called E (.attempt file flags overlays reply) p p₁)
    (hj : journal.refuses = p₁.journal.refuses)
    (h₂ : Called E (.rest settings reply')
      { p₁ with journal, cache := p₁.cache.countRetry } p₂) :
    Tried E settings file flags overlays (left + 1) p o p' := by
  have hrefuses : p₂.journal.refuses = p.journal.refuses :=
    h₂.refuses.trans (hj.trans h₁.refuses)
  obtain ⟨⟨new, hcalls, hanswers, htries, hcache⟩, hlast⟩ := h
  rw [hrefuses] at htries
  refine ⟨⟨.attempt file flags overlays reply :: .rest settings reply' :: new, ?_, ?_,
    .again hcrash hleft hrest htries, ?_⟩, hlast.trans hrefuses⟩
  · rw [hcalls, h₂.calls, show Pool.calls _ = p₁.calls from rfl, h₁.calls]
    simp
  · exact (h₁.answers.append h₂.answers).append hanswers
  · rw [hcache, h₂.cache, h₁.cache, Cache.countRetries_countRetry, (Trace.counts_round _).2]

theorem attemptParse_tried (left k : Nat) (p : Pool (Traced σ)) :
    (attemptParse E.traced settings file flags overlays left k).Ends p
      (fun o => Tried E settings file flags overlays left p (.ok o))
      (fun e => Tried E settings file flags overlays left p (.error e)) := by
  induction left generalizing p k with
  | zero => exact ⟨⟨[], by simp, rfl, .unasked, rfl⟩, rfl⟩
  | succ left ih =>
    unfold attemptParse
    rw [ends_bind]
    apply ends_call
    · intro reply o p₁ hreply h₁
      dsimp only
      split
      · rename_i hfinal
        exact h₁.tried (by simp [Request.kind]) (.answered hreply (.inl hfinal))
      · rename_i hfinal
        cases eq_crashed_of_not_final hfinal
        rw [ends_bind]
        apply ends_logNumbers
        · intro journal hj
          by_cases hleft : left = 0
          · rw [if_pos hleft]
            exact (h₁.tried (by simp [Request.kind]) (.answered hreply (.inr hleft))).log hj
          · rw [if_neg hleft, ends_bind, ends_modifyCache, ends_bind]
            apply ends_call
            · intro reply' _ p₂ hrest h₂
              exact (ih (k + 1) p₂).mono (fun _ _ h => h.after_crash hreply hleft hrest h₁ hj h₂)
                fun _ _ h => h.after_crash hreply hleft hrest h₁ hj h₂
            · intro reply' e p₂ he h₂
              refine ⟨⟨_, ?_, h₁.answers.append h₂.answers, .restless hreply hleft he, ?_⟩,
                h₂.refuses.trans (hj.trans h₁.refuses)⟩
              · rw [h₂.calls, show Pool.calls _ = p₁.calls from rfl, h₁.calls]
                exact List.append_assoc ..
              · rw [h₂.cache, h₁.cache]
                rfl
        · intro hlong hrefuses
          rw [h₁.refuses] at hrefuses
          exact h₁.tried (by simp [Request.kind])
            (.unlogged hreply hrefuses (by simpa using hlong))
    · intro reply e p₁ hreply h₁
      exact h₁.tried (by simp [Request.kind]) (.broken hreply)

theorem parseWithRetry_tried (p : Pool (Traced σ)) :
    (parseWithRetry E.traced settings file flags overlays).Ends p
      (fun handle p' => ∃ o, decided file o = .ok handle ∧
        Tried E settings file flags overlays settings.parseAttempts.toNat p o p')
      (fun e p' => ∃ o, decided file o = .error e ∧
        Tried E settings file flags overlays settings.parseAttempts.toNat p o p') := by
  unfold parseWithRetry
  rw [ends_bind]
  refine (attemptParse_tried _ 1 p).mono (fun o p' h => ?_) fun e p' h => ⟨_, rfl, h⟩
  obtain ⟨code, _ | handle⟩ := o
  · rw [ends_bind]
    apply ends_logNumbers
    · intro journal hj
      exact ⟨_, rfl, h.log hj⟩
    · intro hlong _
      -- the fault is the one that the failure itself would come to
      refine ⟨_, ?_, h⟩
      simp only [decided, Fault.ofFailure]
      rw [if_neg (by simpa using hlong)]
  · exact ⟨_, rfl, h⟩

end

/-! ## Requests -/

section
variable (E : Engine σ) (settings : Settings) (file : String) (flags : List String)
  (overlays : List Overlay)

inductive Located (p : Pool (Traced σ)) : Except Fault UnitRef → Pool (Traced σ) → Prop
  | hit {u : UnitRef} {r : UnitRecord} (hk : p.cache.kept.get? file = some u)
    (hr : p.cache.get? u = some r) (hflags : r.flags = flags) :
    Located p (.ok u) { p with cache := p.cache.countHit }
  | stuck {e : Fault} {q : Pool (Traced σ)} (h : Found file flags p (.error e) q) :
    Located p (.error e) q
  | missed {q p' : Pool (Traced σ)} {o : Except Fault (Int × Option Handle)} {e : Fault}
    (h : Found file flags p (.ok none) q)
    (ht : Tried E settings file flags overlays settings.parseAttempts.toNat
      { q with cache := q.cache.countMiss } o p')
    (ho : decided file o = .error e) : Located p (.error e) p'
  | added {q p' : Pool (Traced σ)} {o : Except Fault (Int × Option Handle)} {handle : Handle}
    (h : Found file flags p (.ok none) q)
    (ht : Tried E settings file flags overlays settings.parseAttempts.toNat
      { q with cache := q.cache.countMiss } o p')
    (ho : decided file o = .ok handle) (hk : p'.cache.kept.get? file = none) :
    Located p (.ok p'.cache.records.length)
      { p' with cache := p'.cache.insert { file, flags, handle } }

inductive Refreshed (u : UnitRef) (p : Pool (Traced σ)) :
    Except Fault Unit → Pool (Traced σ) → Prop
  | absent (hr : p.cache.get? u = none) : Refreshed u p (.ok ()) p
  | current {r : UnitRecord} {reply : Reply Int} {p' : Pool (Traced σ)}
    (hr : p.cache.get? u = some r) (h : reply.result = .ok ErrorCode.success)
    (hc : Called E ⟨.reparse r.handle overlays, reply⟩ p p') : Refreshed u p (.ok ()) p'
  | broken {r : UnitRecord} {reply : Reply Int} {e : Fault} {p' : Pool (Traced σ)}
    (hr : p.cache.get? u = some r) (h : reply.result = .error e)
    (hc : Called E ⟨.reparse r.handle overlays, reply⟩ p p') : Refreshed u p (.error e) p'
  /-- The log refuses the code, and the unit stays. -/
  | unlogged {r : UnitRecord} {reply : Reply Int} {code : Int} {p' : Pool (Traced σ)}
    (hr : p.cache.get? u = some r) (h : reply.result = .ok code) (hcode : code ≠ ErrorCode.success)
    (hlong : Text.isWritable code = false) (hrefuses : p.journal.refuses .info = true)
    (hc : Called E ⟨.reparse r.handle overlays, reply⟩ p p') :
    Refreshed u p (.error .tooManyDigits) p'
  | dropped {r : UnitRecord} {reply : Reply Int} {code : Int} {q p' : Pool (Traced σ)}
    {o : Except Fault Unit} (hr : p.cache.get? u = some r) (h : reply.result = .ok code)
    (hcode : code ≠ ErrorCode.success)
    (hc : Called E ⟨.reparse r.handle overlays, reply⟩ p q) (hd : Dropped file q o p') :
    Refreshed u p (o >>= fun _ => .error (.ofFailure { file, code, reason := "reparse" })) p'

inductive Parsed (p : Pool (Traced σ)) : Except Fault UnitRef → Pool (Traced σ) → Prop
  | unlocated {e : Fault} {p' : Pool (Traced σ)}
    (h : Located E settings file flags overlays p (.error e) p') : Parsed p (.error e) p'
  | stale {u : UnitRef} {e : Fault} {q p' : Pool (Traced σ)}
    (h : Located E settings file flags overlays p (.ok u) q)
    (hr : Refreshed E file overlays u q (.error e) p') : Parsed p (.error e) p'
  | fresh {u : UnitRef} {q p' : Pool (Traced σ)}
    (h : Located E settings file flags overlays p (.ok u) q)
    (hr : Refreshed E file overlays u q (.ok ()) p') :
    Parsed p (.ok u) { p' with cache := p'.cache.retain u 1 }

variable {E settings file flags overlays}

theorem Located.grows {o : Except Fault UnitRef}
    (h : Located E settings file flags overlays p o p') : Grows (fun _ => True) p p' := by
  cases h with
  | hit => exact grows_of_calls_eq rfl
  | stuck h => exact h.grows fun _ => trivial
  | missed h ht _ => exact grows_frame.trans (h.grows fun _ => trivial) ht.grows
  | added h ht _ _ => exact grows_frame.trans (h.grows fun _ => trivial) ht.grows

theorem findOrParse_located (p : Pool (Traced σ)) :
    (findOrParse E.traced settings file flags overlays).Ends p
      (fun u => Located E settings file flags overlays p (.ok u))
      (fun e => Located E settings file flags overlays p (.error e)) := by
  unfold findOrParse
  rw [ends_bind]
  refine (find_found file flags p).mono (fun o q h => ?_) fun _ _ => .stuck
  cases o with
  | some u =>
    obtain ⟨rfl, hk, r, hr, hflags⟩ := h.fits
    exact .hit hk hr hflags
  | none =>
    rw [ends_bind, ends_modifyCache, ends_bind]
    refine (parseWithRetry_tried _).mono (fun handle p' htried => ?_) fun e p' htried => ?_
    · obtain ⟨o, ho, ht⟩ := htried
      have hfree : p'.cache.kept.get? file = none := by
        rw [ht.kept]
        exact h.free
      unfold add
      rw [ends_bind, ends_gets,
        if_neg (by simp [Cache.has, Keyed.has_eq_false_iff.mpr hfree])]
      exact .added h ht ho hfree
    · obtain ⟨o, ho, ht⟩ := htried
      exact .missed h ht ho

theorem refresh_refreshed (u : UnitRef) (p : Pool (Traced σ)) :
    (refresh E.traced file overlays u).Ends p
      (fun a => Refreshed E file overlays u p (.ok a))
      (fun e => Refreshed E file overlays u p (.error e)) := by
  unfold refresh
  rw [ends_bind, ends_get?]
  split
  · rename_i hr
    exact .absent hr
  · rename_i r hr
    rw [ends_bind]
    apply ends_call
    · intro reply code p₁ hreply h₁
      by_cases hcode : code = ErrorCode.success
      · rw [if_pos hcode]
        subst hcode
        exact .current hr hreply h₁
      · rw [if_neg hcode, ends_bind]
        apply ends_logNumbers
        · intro journal hj
          have hlogged : Called E ⟨.reparse r.handle overlays, reply⟩ p { p₁ with journal } :=
            ⟨h₁.cache, h₁.calls, h₁.answers, hj.trans h₁.refuses⟩
          rw [ends_bind]
          exact (drop_dropped file _).mono (fun _ _ => .dropped hr hreply hcode hlogged)
            fun e _ => .dropped (o := .error e) hr hreply hcode hlogged
        · intro hlong hrefuses
          rw [h₁.refuses] at hrefuses
          exact .unlogged hr hreply hcode (by simpa using hlong) hrefuses h₁
    · intro reply e p₁ hreply h₁
      exact .broken hr hreply h₁

theorem Refreshed.grows {K : Request → Prop} (hdispose : ∀ unit, K (.disposeUnit unit))
    (hreparse : ∀ unit, K (.reparse unit overlays)) {u : UnitRef} {o : Except Fault Unit}
    (h : Refreshed E file overlays u p o p') : Grows K p p' := by
  cases h with
  | absent => exact grows_frame.refl p
  | current _ _ hc => exact grows_snoc hc.calls (hreparse _)
  | broken _ _ hc => exact grows_snoc hc.calls (hreparse _)
  | unlogged _ _ _ _ _ hc => exact grows_snoc hc.calls (hreparse _)
  | dropped _ _ _ hc hd =>
    exact grows_frame.trans (grows_snoc hc.calls (hreparse _)) (hd.grows hdispose)

theorem Refreshed.cache_of_ok {u : UnitRef}
    (h : Refreshed E file overlays u p (.ok ()) p') :
    p'.cache = p.cache := by
  generalize ho : (.ok () : Except Fault Unit) = o at h
  cases h with
  | absent => rfl
  | current _ _ hc => exact hc.cache
  | broken => cases ho
  | unlogged => cases ho
  | @dropped _ _ _ _ _ o => cases o <;> cases ho

theorem parse_parsed (p : Pool (Traced σ)) :
    (parse E.traced settings file flags overlays).Ends p
      (fun u => Parsed E settings file (settings.compilerArguments flags) overlays p (.ok u))
      (fun e => Parsed E settings file (settings.compilerArguments flags) overlays p
        (.error e)) := by
  unfold parse
  rw [ends_bind]
  refine (findOrParse_located p).mono (fun u q h => ?_) fun _ _ => .unlocated
  rw [ends_bind]
  refine (refresh_refreshed u q).mono (fun _ p' hr => ?_) fun _ _ => .stale h
  rw [ends_bind, ends_retain]
  exact .fresh h hr

/-! ## Handing out what is there -/

section
variable {u : UnitRef} {r : UnitRecord}

theorem find_free (hk : p.cache.kept.get? file = none) :
    find E.traced file flags p = (.ok none, p) := by
  simp only [find, bind_apply, gets, hk]
  rfl

/-- Parsing goes on from where a lookup has found nothing. -/
theorem parse_of_find_none
    (hfind : find E.traced file (settings.compilerArguments flags) p = (.ok none, q))
    (hfree : q.cache.kept.get? file = none) :
    parse E.traced settings file flags overlays p =
      parse E.traced settings file flags overlays q := by
  simp only [parse, findOrParse, bind_apply, hfind, find_free hfree]

/-- A kept unit that fits is handed out as it is. Otherwise obtaining a unit is parsing. -/
theorem obtain_cases (E : Engine σ) (settings : Settings) (file : String) (flags : List String)
    (overlays : List Overlay) (p : Pool (Traced σ)) :
    (∃ u r, p.cache.kept.get? file = some u ∧ p.cache.get? u = some r ∧
      r.flags = settings.compilerArguments flags ∧
      obtain E.traced settings file flags overlays p =
        (.ok u, { p with cache := p.cache.countHit.retain u 1 })) ∨
    (∀ u r, p.cache.kept.get? file = some u → p.cache.get? u = some r →
      r.flags ≠ settings.compilerArguments flags) ∧
      obtain E.traced settings file flags overlays p =
        parse E.traced settings file flags overlays p := by
  have hends := find_found (E := E) file (settings.compilerArguments flags) p
  rcases hfind : find E.traced file (settings.compilerArguments flags) p with ⟨o, q⟩
  have hfound := hends.result
  rw [hfind] at hfound
  dsimp only at hfound
  cases hfound with
  | kept hk hr hflags =>
    refine .inl ⟨_, _, hk, hr, hflags, ?_⟩
    simp only [obtain, bind_apply, hfind]
    rfl
  | missing hk =>
    refine .inr ⟨fun u r hu => ?_, ?_⟩
    · rw [hk] at hu
      cases hu
    · simp only [obtain, bind_apply, hfind]
  | @evicted u o p' hk hflags h =>
    refine .inr ⟨fun v r hv hr => ?_, ?_⟩
    · cases hk.symm.trans hv
      exact hflags r hr
    · cases o with
      | error e => simp only [obtain, parse, findOrParse, bind_apply, hfind, Except.map]
      | ok _ =>
        rw [parse_of_find_none hfind h.kept]
        simp only [obtain, bind_apply, hfind, Except.map]

end

end

end Pool

end CodeSense
