import Mathlib.Data.ENat.Lattice
import CodeSense.Engine.Absent
import CodeSense.Proofs.Pool.Requests

/-!
# Attempts to parse

A crash that left no unit is worth another attempt, as long as there are any. Whatever an engine
answers, the attempts end with the first result that is final or when they are used up, there is one
pause between each two of them, and the last one decides: `retry_bounded`.
-/

namespace CodeSense

/-! ## Results -/

open Classical in
/-- The position of the first final result, counted from one. -/
noncomputable def firstFinal (results : Nat → Int × Option Handle) : ℕ∞ :=
  if h : ∃ i, IsFinal (results i) then (Nat.find h + 1 : Nat) else ⊤

def lastResult (results : Nat → Int × Option Handle) : Nat → Int × Option Handle
  | 0 => (ErrorCode.success, none)
  | n + 1 => results n

variable {results : Nat → Int × Option Handle}

theorem firstFinal_of_final (h : IsFinal (results 0)) : firstFinal results = 1 := by
  have hex : ∃ i, IsFinal (results i) := ⟨0, h⟩
  rw [firstFinal, dif_pos hex, (Nat.find_eq_zero hex).mpr h]
  rfl

theorem firstFinal_of_not_final (h : ¬ IsFinal (results 0)) :
    firstFinal results = firstFinal (fun i => results (i + 1)) + 1 := by
  unfold firstFinal
  by_cases hex : ∃ i, IsFinal (results (i + 1))
  · have hex' : ∃ i, IsFinal (results i) := hex.imp' _ fun _ => id
    rw [dif_pos hex, dif_pos hex', Nat.find_comp_succ hex' hex h]
    rfl
  · have hex' : ¬ ∃ i, IsFinal (results i) := by
      rintro ⟨_ | i, hi⟩
      · exact h hi
      · exact hex ⟨i, hi⟩
    rw [dif_neg hex, dif_neg hex']
    rfl

theorem one_le_firstFinal (results : Nat → Int × Option Handle) : 1 ≤ firstFinal results := by
  by_cases h : IsFinal (results 0)
  · rw [firstFinal_of_final h]
  · rw [firstFinal_of_not_final h]
    exact le_add_self

theorem lastResult_succ {n : Nat} (h : 0 < n) :
    lastResult results (n + 1) = lastResult (fun i => results (i + 1)) n := by
  obtain ⟨n, rfl⟩ := Nat.exists_eq_succ_of_ne_zero (Nat.ne_of_gt h)
  rfl

/-! ## Engines that answer -/

namespace Engine

variable {σ : Type}

/-- However many attempts are made, with pauses between them, they come to these results. -/
def Yields (E : Engine σ) (file : String) (flags : List String) (overlays : List Overlay)
    (delay : Int) (s : σ) (results : Nat → Int × Option Handle) : Prop :=
  ∀ i, (E.call (.parse file flags overlays UnitOption.standard)
    (E.after (List.replicate i [.parse file flags overlays UnitOption.standard,
      .pause delay]).flatten s)).1.result = .ok (results i)

variable {E : Engine σ} {file : String} {flags : List String} {overlays : List Overlay}
  {delay : Int} {s : σ}

theorem Yields.next (h : E.Yields file flags overlays delay s results) :
    E.Yields file flags overlays delay
      (E.after [.parse file flags overlays UnitOption.standard, .pause delay] s)
      fun i => results (i + 1) :=
  fun i => h (i + 1)

def reciting (results : Nat → Int × Option Handle) : Engine Nat where
  call
    | .parse .., i => (.answer (results i), i + 1)
    | r, i => (.answer (absent.answer r), i)

/-- There is an engine for any results. -/
theorem yields_reciting (results : Nat → Int × Option Handle) (file : String)
    (flags : List String) (overlays : List Overlay) (delay : Int) :
    (reciting results).Yields file flags overlays delay 0 results := by
  have hstate (i n : Nat) : (reciting results).after
      (List.replicate i [.parse file flags overlays UnitOption.standard,
        .pause delay]).flatten n = n + i := by
    induction i generalizing n with
    | zero => rfl
    | succ i ih => exact (ih (n + 1)).trans (by omega)
  intro i
  rw [hstate, Nat.zero_add]
  rfl

end Engine

/-! ## The course of attempts -/

section
variable (settings : Settings) (file : String) (flags : List String) (overlays : List Overlay)
  (results : Nat → Int × Option Handle)

def attempts (n : Nat) : List Request :=
  (List.replicate n (.parse file flags overlays UnitOption.standard)).intersperse
    (.pause settings.retryDelay)

/-- Up to `left` attempts were made as far as the results give reason to, and the last one
decides. -/
def Completed (left : Nat) (new : List Call) (o : Except Fault (Int × Option Handle)) : Prop :=
  ∃ n : Nat, (n : ℕ∞) = min (left : ℕ∞) (firstFinal results) ∧
    new.map (·.request) = attempts settings file flags overlays n ∧
    o = .ok (lastResult results n)

/-- A pause before the next attempt failed, or the log refused to say how many there are. -/
def BrokenOff (refuses : Bool) (left : Nat) (new : List Call)
    (o : Except Fault (Int × Option Handle)) : Prop :=
  ∃ (n : Nat) (e : Fault), 0 < n ∧ (n : ℕ∞) ≤ min (left : ℕ∞) (firstFinal results) ∧
    o = .error e ∧
    (new.map (·.request) =
        attempts settings file flags overlays n ++ [.pause settings.retryDelay] ∧
        Trace.Failed new e ∨
      new.map (·.request) = attempts settings file flags overlays n ∧ refuses = true ∧
        Text.isWritable settings.parseAttempts = false ∧
        e = .unreported { file, code := ErrorCode.crashed })

end

section
variable {σ : Type} {E : Engine σ} {settings : Settings} {file : String} {flags : List String}
  {overlays : List Overlay} {refuses : Bool} {left : Nat} {new : List Call}
  {o : Except Fault (Int × Option Handle)} {s t : σ}

theorem attempts_succ {n : Nat} (h : 0 < n) :
    attempts settings file flags overlays (n + 1) =
      .parse file flags overlays UnitOption.standard :: .pause settings.retryDelay ::
        attempts settings file flags overlays n := by
  obtain ⟨n, rfl⟩ := Nat.exists_eq_succ_of_ne_zero (Nat.ne_of_gt h)
  rfl

theorem min_firstFinal_succ (h : ¬ IsFinal (results 0)) (left : Nat) :
    min ((left + 1 : Nat) : ℕ∞) (firstFinal results) =
      min (left : ℕ∞) (firstFinal fun i => results (i + 1)) + 1 := by
  rw [firstFinal_of_not_final h, Nat.cast_succ, min_add_add_right]

/-- Another attempt stands before those of `h`. -/
theorem Completed.after_crash (hnot : ¬ IsFinal (results 0)) (hleft : left ≠ 0)
    {reply : Reply (Int × Option Handle)} {reply' : Reply Unit}
    (h : Completed settings file flags overlays (fun i => results (i + 1)) left new o) :
    Completed settings file flags overlays results (left + 1)
      (.attempt file flags overlays reply :: .rest settings reply' :: new) o := by
  obtain ⟨n, hn, hrequests, ho⟩ := h
  have hpos : 0 < n := by
    have hone : (1 : ℕ∞) ≤ n := by
      rw [hn]
      exact le_min (Nat.one_le_cast.mpr (Nat.one_le_iff_ne_zero.mpr hleft)) (one_le_firstFinal _)
    exact Nat.one_le_cast.mp hone
  refine ⟨n + 1, ?_, ?_, ?_⟩
  · rw [min_firstFinal_succ hnot, ← hn]
    rfl
  · rw [attempts_succ hpos, ← hrequests]
    rfl
  · rw [ho, lastResult_succ hpos]

theorem BrokenOff.after_crash (hnot : ¬ IsFinal (results 0))
    {reply : Reply (Int × Option Handle)} {reply' : Reply Unit}
    (h : BrokenOff settings file flags overlays (fun i => results (i + 1)) refuses left new o) :
    BrokenOff settings file flags overlays results refuses (left + 1)
      (.attempt file flags overlays reply :: .rest settings reply' :: new) o := by
  obtain ⟨n, e, hpos, hn, ho, hcause⟩ := h
  refine ⟨n + 1, e, Nat.succ_pos n, ?_, ho, hcause.imp ?_ ?_⟩
  · rw [min_firstFinal_succ hnot, Nat.cast_succ]
    exact add_le_add_left hn 1
  · intro hpause
    refine ⟨?_, hpause.2.mono (by simp)⟩
    rw [attempts_succ hpos, List.cons_append, List.cons_append, ← hpause.1]
    rfl
  · intro hlog
    refine ⟨?_, hlog.2⟩
    rw [attempts_succ hpos, ← hlog.1]
    rfl

theorem Attempts.course (h : Attempts settings file flags overlays refuses left new o)
    (ha : E.Answers s new t) (hy : E.Yields file flags overlays settings.retryDelay s results) :
    Completed settings file flags overlays results left new o ∨
      BrokenOff settings file flags overlays results refuses left new o := by
  induction h generalizing s results with
  | unasked => exact .inl ⟨0, by simp, rfl, rfl⟩
  | @answered left reply o h hlast =>
    have hfirst : o = results 0 := by
      rw [show reply = _ from ha.1] at h
      exact Except.ok.inj (h.symm.trans (hy 0))
    subst hfirst
    refine .inl ⟨1, ?_, rfl, rfl⟩
    rcases hlast with hfinal | rfl
    · rw [firstFinal_of_final hfinal]
      simp
    · exact (min_eq_left (one_le_firstFinal results)).symm
  | @broken left reply e h =>
    rw [show reply = _ from ha.1] at h
    cases h.symm.trans (hy 0)
  | unlogged h hrefuses hlong =>
    exact .inr ⟨1, _, one_pos, le_min (by simp) (one_le_firstFinal results), rfl,
      .inr ⟨rfl, hrefuses, hlong, rfl⟩⟩
  | restless h hleft he =>
    exact .inr ⟨1, _, one_pos, le_min (by simp) (one_le_firstFinal results), rfl,
      .inl ⟨rfl, _, List.mem_cons_of_mem _ (List.mem_singleton.mpr rfl), he⟩⟩
  | @again left reply reply' more o h hleft hrest hmore ih =>
    have hnot : ¬ IsFinal (results 0) := by
      rw [show reply = _ from ha.1] at h
      rw [← Except.ok.inj (h.symm.trans (hy 0))]
      decide
    exact (ih ha.2.2 hy.next).imp (.after_crash hnot hleft) (.after_crash hnot)

end

namespace Pool

/-- **Attempts are bounded.** Whatever attempt after attempt would come to, they are made up to the
first final result, as far as they are allowed, with a pause between each two. The last attempt
decides, and no other one brought a unit. There are fewer only if a pause fails, or a log that takes
no number of this length was to say how many attempts there are. -/
theorem retry_bounded {σ : Type} (E : Engine σ) (settings : Settings) (file : String)
    (flags : List String) (overlays : List Overlay) (p : Pool (Traced σ))
    (results : Nat → Int × Option Handle)
    (h : E.Yields file flags overlays settings.retryDelay p.engine.state results) :
    let r := parseWithRetry E.traced settings file flags overlays p
    ∃ (new : List Call) (o : Except Fault (Int × Option Handle)),
      r.2.calls = p.calls ++ new ∧
      r.2.cache = { p.cache with
        stats.retries := p.cache.stats.retries + Trace.pauseCount new } ∧
      r.1 = decided file o ∧ Trace.unitsMade new = r.1.toOption.toList ∧
      (Completed settings file flags overlays results settings.parseAttempts.toNat new o ∨
        BrokenOff settings file flags overlays results (p.journal.refuses .info)
          settings.parseAttempts.toNat new o) := by
  intro r
  have htried : ∃ o, decided file o = r.1 ∧
      Tried E settings file flags overlays settings.parseAttempts.toNat p o r.2 := by
    have hends : (parseWithRetry E.traced settings file flags overlays).Ends p _ _ :=
      parseWithRetry_tried p
    rcases hr : r.1 with e | handle
    · exact hends.of_error hr
    · exact hends.of_ok hr
  obtain ⟨o, ho, ⟨new, hcalls, ha, hattempts, hcache⟩, -⟩ := htried
  refine ⟨new, o, hcalls, hcache, ho.symm, ?_, hattempts.course ha h⟩
  rw [Trace.unitsMade, hattempts.parsed, ho]
  cases r.1 <;> rfl

/-- Two crashes, and a third one that leaves a unit. -/
theorem retry_bounded_crashed :
    let results : Nat → Int × Option Handle :=
      fun i => (ErrorCode.crashed, if i < 2 then none else some 7)
    let settings : Settings := { parseAttempts := 5 }
    let p : Pool (Traced Nat) := { engine := { state := 0 } }
    let r := parseWithRetry (Engine.reciting results).traced settings "a" [] [] p
    (Engine.reciting results).Yields "a" [] [] settings.retryDelay p.engine.state results ∧
      firstFinal results = 3 ∧ r.1 = .ok 7 ∧ r.2.cache.stats.retries = 2 ∧
      r.2.calls.map (·.request) = attempts settings "a" [] [] 3 := by
  intro results settings p r
  have hyields := Engine.yields_reciting results "a" [] [] settings.retryDelay
  have hfirst : firstFinal results = 3 := by
    rw [firstFinal_of_not_final (by decide), firstFinal_of_not_final (by decide),
      firstFinal_of_final (by decide)]
    rfl
  have hok : r.1 = .ok 7 := by decide +kernel
  obtain ⟨new, o, hcalls, hcache, ho, -, hcourse⟩ :=
    retry_bounded (Engine.reciting results) settings "a" [] [] p results hyields
  have hnew : r.2.calls = new := hcalls
  obtain ⟨n, hn, hrequests, -⟩ | ⟨n, e, -, -, rfl, -⟩ := hcourse
  · have hthree : n = 3 := by
      have hle : ((3 : Nat) : ℕ∞) ≤ (5 : Nat) := Nat.cast_le.mpr (by decide)
      rw [hfirst] at hn
      exact Nat.cast_injective (hn.trans (min_eq_right hle))
    subst hthree
    refine ⟨hyields, hfirst, hok, ?_, ?_⟩
    · rw [hcache, ← hnew]
      decide +kernel
    · rw [hnew]
      exact hrequests
  · cases hok.symm.trans ho

/-- A code that is too long to be written leaves no failure to parse, but a fault of its own. -/
theorem code_unwritten :
    let results : Nat → Int × Option Handle := fun _ => (10 ^ 4300, none)
    let p : Pool (Traced Nat) := { engine := { state := 0 } }
    let r := parseWithRetry (Engine.reciting results).traced {} "a" [] [] p
    (Engine.reciting results).Yields "a" [] [] 100 p.engine.state results ∧
      r.1 = .error (.unreported { file := "a", code := 10 ^ 4300 }) ∧
      ∀ f, r.1 ≠ .error (.parseFailed f) := by
  intro results p r
  have hr : r.1 = .error (.unreported { file := "a", code := 10 ^ 4300 }) := by decide +kernel
  refine ⟨Engine.yields_reciting results "a" [] [] 100, hr, ?_⟩
  rw [hr]
  exact nofun

end Pool

end CodeSense
