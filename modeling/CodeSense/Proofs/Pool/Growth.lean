import CodeSense.Proofs.Pool.Requests

/-!
# The trace of a pool

Whatever a pool does is built from a few kinds of steps: it looks at the cache or changes it, logs,
stops with a fault of its own, or calls the engine. `Built E K` says so of an action
whose calls satisfy `K`. It follows, in every state, that the action only adds such calls to the
trace (`Built.grows`), and what it can stop with (`Built.stops`).
-/

namespace CodeSense

/-- Whether a session comes up with the fault by itself. -/
def Fault.isOwn : Fault → Bool
  | parseFailed _ | unreported _ | overReleased .. | alreadyCached _ | nullInPath | unencodable ..
  | tooManyDigits | cannotOpen .. => true
  | _ => false

theorem Fault.isOwn_ofFailure (f : ParseFailure) : (ofFailure f).isOwn = true := by
  unfold ofFailure
  split <;> rfl

namespace Pool

variable {σ : Type} {K : Request → Prop}

inductive Built (E : Engine σ) (K : Request → Prop) : {α : Type} → Act (Pool σ) α → Prop
  | pure {α : Type} (a : α) : Built E K (Pure.pure a)
  | gets {α : Type} (f : Cache → α) : Built E K (.gets fun p => f p.cache)
  | modifyCache (f : Cache → Cache) : Built E K (modifyCache f)
  | log (origin : Origin) (level : Level) (message : String) : Built E K (log origin level message)
  | logNumbers (origin : Origin) (numbers : List Int) (message : String) {e : Fault}
    (he : e.isOwn = true) : Built E K (logNumbers origin .info numbers message e)
  | fail {α : Type} {e : Fault} (he : e.isOwn = true) : Built E K (.fail e : Act (Pool σ) α)
  | call {r : Request} (hr : K r) : Built E K (call E r)
  | bind {α β : Type} {x : Act (Pool σ) α} {f : α → Act (Pool σ) β} (hx : Built E K x)
    (hf : ∀ a, Built E K (f a)) : Built E K (x >>= f)

theorem Built.ite {E : Engine σ} {α : Type} {c : Prop} [Decidable c] {x y : Act (Pool σ) α}
    (hx : Built E K x) (hy : Built E K y) : Built E K (if c then x else y) := by
  split
  · exact hx
  · exact hy

/-! ## Operations -/

section
variable {E : Engine σ} {settings : Settings} {file : String} {flags : List String}
  {overlays : List Overlay}

theorem add_built (handle : Handle) : Built E K (add file flags handle) :=
  .bind (.gets id) fun _ => .ite (.fail rfl) (.bind (.modifyCache _) fun _ => .pure _)

theorem attemptParse_built (hparse : K (.parse file flags overlays UnitOption.standard))
    (hpause : K (.pause settings.retryDelay)) (left k : Nat) :
    Built E K (attemptParse E settings file flags overlays left k) := by
  induction left generalizing k with
  | zero => exact .pure _
  | succ left ih =>
    refine .bind (.call hparse) fun o => .ite (.pure _) ?_
    refine .bind (.logNumbers _ _ _ rfl) fun _ => .ite (.pure _) ?_
    exact .bind (.modifyCache _) fun _ => .bind (.call hpause) fun _ => ih (k + 1)

theorem parseWithRetry_built (hparse : K (.parse file flags overlays UnitOption.standard))
    (hpause : K (.pause settings.retryDelay)) :
    Built E K (parseWithRetry E settings file flags overlays) := by
  refine .bind (attemptParse_built hparse hpause _ _) fun o => ?_
  split
  · exact .pure _
  · exact .bind (.logNumbers _ _ _ rfl) fun _ => .fail (Fault.isOwn_ofFailure _)

section
variable (hdispose : ∀ unit, K (.disposeUnit unit))
include hdispose

theorem discard_built (u : UnitRef) : Built E K (discard E u) := by
  refine .bind (.gets (·.get? u)) fun o => ?_
  cases o with
  | none => exact .pure _
  | some record =>
    exact .ite (.pure _) (.bind (.modifyCache _) fun _ => .call (hdispose _))

theorem release_built (u : UnitRef) : Built E K (release E u) := by
  refine .bind (.modifyCache _) fun _ => .bind (.gets (·.get? u)) fun o => ?_
  cases o with
  | none => exact .pure _
  | some record => exact .ite (.fail rfl) (.ite (discard_built hdispose u) (.pure _))

theorem drop_built : Built E K (drop E file) := by
  refine .bind (.gets (·.kept.get? file)) fun o => ?_
  cases o with
  | none => exact .pure _
  | some u => exact .bind (.modifyCache _) fun _ => release_built hdispose u

theorem evict_built (u : UnitRef) : Built E K (evict E file u) :=
  .bind (.log _ _ _) fun _ => .bind (.modifyCache _) fun _ => .bind (.modifyCache _) fun _ =>
    release_built hdispose u

theorem find_built : Built E K (find E file flags) := by
  refine .bind (.gets id) fun cache => ?_
  split
  · exact .pure _
  · exact .ite (.pure _) (.bind (evict_built hdispose _) fun _ => .pure _)

theorem refresh_built (hreparse : ∀ unit, K (.reparse unit overlays)) (u : UnitRef) :
    Built E K (refresh E file overlays u) := by
  refine .bind (.gets (·.get? u)) fun o => ?_
  cases o with
  | none => exact .pure _
  | some record =>
    refine .bind (.call (hreparse _)) fun code => .ite (.pure _) ?_
    refine .bind (.logNumbers _ _ _ rfl) fun _ => .bind (drop_built hdispose) fun _ => ?_
    exact .fail (Fault.isOwn_ofFailure _)

theorem handOut_built (hreparse : ∀ unit, K (.reparse unit overlays)) (u : UnitRef) :
    Built E K (do
      refresh E file overlays u
      retain u 1
      return u) :=
  .bind (refresh_built hdispose hreparse u) fun _ => .bind (.modifyCache _) fun _ => .pure _

theorem findOrParse_built (hparse : K (.parse file flags overlays UnitOption.standard))
    (hpause : K (.pause settings.retryDelay)) :
    Built E K (findOrParse E settings file flags overlays) := by
  refine .bind (find_built hdispose) fun o => ?_
  cases o with
  | none =>
    refine .bind (.modifyCache _) fun _ => ?_
    exact .bind (parseWithRetry_built hparse hpause) fun handle => add_built handle
  | some u => exact .bind (.modifyCache _) fun _ => .pure _

section
variable (hreparse : ∀ unit, K (.reparse unit overlays)) (hpause : K (.pause settings.retryDelay))
  (hparse : K (.parse file (settings.compilerArguments flags) overlays UnitOption.standard))
include hreparse hpause hparse

theorem parse_built : Built E K (parse E settings file flags overlays) :=
  .bind (findOrParse_built hdispose hparse hpause) fun u => handOut_built hdispose hreparse u

theorem obtain_built : Built E K (obtain E settings file flags overlays) := by
  refine .bind (find_built hdispose) fun o => ?_
  cases o with
  | none => exact parse_built hdispose hreparse hpause hparse
  | some u => exact .bind (.modifyCache _) fun _ => .bind (.modifyCache _) fun _ => .pure _

end

theorem discardAll_built (us : List UnitRef) : Built E K (discardAll E us) := by
  induction us with
  | nil => exact .pure _
  | cons u us ih => exact .bind (.modifyCache _) fun _ => .bind (discard_built hdispose u) fun _ => ih

theorem teardown_built (hclose : K .close) : Built E K (teardown E) := by
  refine .bind (.gets id) fun cache => .ite (.pure _) ?_
  refine .bind (.modifyCache _) fun _ => .bind (discardAll_built hdispose _) fun _ => ?_
  exact .bind (.modifyCache _) fun _ => .call hclose

end

end

/-! ## What follows -/

variable {E : Engine σ} {α : Type} {x : Act (Pool (Traced σ)) α}

theorem Built.grows (h : Built E.traced K x) : Act.Moves (Grows K) x := by
  induction h with
  | pure a => exact Act.moves_pure grows_frame a
  | gets f => exact Act.moves_gets grows_frame _
  | modifyCache f => exact fun _ => grows_of_calls_eq rfl
  | log origin level message => exact fun _ => grows_of_calls_eq rfl
  | logNumbers origin numbers message he =>
    intro p
    apply Act.Ends.state
    apply ends_logNumbers
    · intro journal _
      exact grows_of_calls_eq rfl
    · intro _ _
      exact grows_frame.refl p
  | fail he => exact Act.moves_fail grows_frame _
  | @call r hr =>
    intro p
    refine ⟨[⟨r, (E.call r p.engine.state).1⟩], rfl, fun c hc => ?_⟩
    rw [List.mem_singleton.mp hc]
    exact hr
  | bind hx hf ihx ihf => exact Act.moves_bind grows_frame ihx ihf

/-- What stops the action is a fault of its own, or one that a call met. -/
theorem Built.stops (h : Built E.traced K x) (p : Pool (Traced σ)) :
    x.Ends p (fun _ _ => True) fun e p' => e.isOwn = true ∨ Trace.Failed p'.calls e := by
  induction h generalizing p with
  | pure a => trivial
  | gets f => trivial
  | modifyCache f => trivial
  | log origin level message => trivial
  | logNumbers origin numbers message he =>
    apply ends_logNumbers
    · intro _ _
      trivial
    · intro _ _
      exact .inl he
  | fail he => exact .inl he
  | @call r hr =>
    unfold Act.Ends Pool.call
    dsimp only [Engine.traced]
    rcases he : (E.call r p.engine.state).1.result with e | a
    · exact .inr (Trace.failed_snoc he)
    · trivial
  | bind hx hf ihx ihf =>
    rw [Act.ends_bind]
    exact (ihx p).mono (fun a p' _ => ihf a p') fun _ _ h => h

end Pool

end CodeSense
