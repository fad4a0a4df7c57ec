import CodeSense.Proofs.Pool.Growth
import CodeSense.Proofs.Session.Outcomes

/-!
# The calls of an operation

`Operation.kinds` says which calls an operation may make. What these calls keep, the operation
keeps (`perform_moves`): it does not touch the files, it only adds such calls to the trace, and it
keeps of the engine what they keep.
-/

namespace CodeSense

def Operation.kinds : Operation → List CallKind
  | .setUnsaved .. | .candidates .. => []
  | .resetUnsaved _ | .resetActive => [.disposeCompletion, .disposeUnit]
  | .parse .. => [.disposeCompletion, .disposeUnit, .parse, .reparse, .pause]
  | .complete .. =>
    [.disposeCompletion, .disposeUnit, .parse, .reparse, .pause, .codeComplete, .completionResults]
  | .getType .. => [.typeAt]
  | .getCompileOptions .. => [.compileCommands]
  | .diagnostics => [.diagnostics]
  | .completionDiagnostics => [.completionDiagnostics]

def Allows (K : Request → Prop) (kinds : List CallKind) : Prop := ∀ r, r.kind ∈ kinds → K r

theorem Allows.mono {K : Request → Prop} {kinds kinds' : List CallKind} (h : Allows K kinds)
    (hsub : ∀ kind ∈ kinds', kind ∈ kinds) : Allows K kinds' :=
  fun r hr => h r (hsub _ hr)

/-- The engine is asked only what the operation may ask. -/
theorem Operation.kind_mem_of_asks {σ : Type} {s : Session σ} {op : Operation} {r : Request}
    (h : op.asks? s = some r) : r.kind ∈ op.kinds := by
  cases inquires_of_asks? h <;> exact List.mem_singleton.mpr rfl

theorem Pool.Built.engine {σ α : Type} {E : Engine σ} {K : Request → Prop} {x : Act (Pool σ) α}
    {I : σ → Prop} (h : Built E K x) (hI : ∀ r t, K r → I t → I (E.call r t).2) :
    Act.Moves (fun p q => I p.engine → I q.engine) x := by
  have hframe : Act.Frame fun p q : Pool σ => I p.engine → I q.engine :=
    ⟨fun _ h => h, fun h h' => h' ∘ h⟩
  induction h with
  | pure a => exact Act.moves_pure hframe a
  | gets f => exact Act.moves_gets hframe _
  | modifyCache f => exact fun _ h => h
  | log origin level message => exact fun _ h => h
  | logNumbers origin numbers message he =>
    intro p
    apply Act.Ends.state (P := fun q : Pool σ => I p.engine → I q.engine)
    exact ends_logNumbers (fun _ _ h => h) fun _ _ h => h
  | fail he => exact Act.moves_fail hframe _
  | call hr => exact fun p => hI _ p.engine hr
  | bind hx hf ihx ihf => exact Act.moves_bind hframe ihx ihf

theorem Pool.Built.refuses {σ α : Type} {E : Engine σ} {K : Request → Prop} {x : Act (Pool σ) α}
    (h : Built E K x) : Act.Moves (fun p q => q.journal.refuses = p.journal.refuses) x := by
  have hframe : Act.Frame fun p q : Pool σ => q.journal.refuses = p.journal.refuses :=
    ⟨fun _ => rfl, fun h h' => h'.trans h⟩
  induction h with
  | pure a => exact Act.moves_pure hframe a
  | gets f => exact Act.moves_gets hframe _
  | modifyCache f => exact fun _ => rfl
  | log origin level message => exact fun p => p.journal.refuses_record _
  | logNumbers origin numbers message he =>
    intro p
    apply Act.Ends.state (P := fun q : Pool σ => q.journal.refuses = p.journal.refuses)
    exact ends_logNumbers (fun _ h => h) fun _ _ => rfl
  | fail he => exact Act.moves_fail hframe _
  | call hr => exact fun p => Journal.refuses_foldl_record _ _
  | bind hx hf ihx ihf => exact Act.moves_bind hframe ihx ihf

namespace Session

variable {σ : Type} {E : Engine σ} {K : Request → Prop} {R : Session σ → Session σ → Prop}

/-- What leaves the engine, the files and the kind of log alone is in `R`, and so is what makes calls
in `K`. -/
structure Covers (E : Engine σ) (K : Request → Prop) (R : Session σ → Session σ → Prop) :
    Prop where
  frame : Act.Frame R
  still : ∀ {s t : Session σ}, t.pool.engine = s.pool.engine →
    t.pool.journal.refuses = s.pool.journal.refuses → t.files = s.files → R s t
  pool : ∀ {α : Type} {x : Act (Pool σ) α} (s : Session σ), Pool.Built E K x →
    R s { s with pool := (x s.pool).2 }

/-! ## Operations -/

namespace Covers

variable (hR : Covers E K R) {s s' : Session σ}
include hR

theorem wrote_after {t : Session σ} {text : String} (h : Wrote text t s')
    (hpool : t.pool = s.pool) (hfiles : t.files = s.files) : R s s' := by
  obtain ⟨journal, hj, rfl⟩ := h
  refine hR.still ?_ ?_ hfiles
  · rw [← hpool]
  · rw [← hpool]
    exact hj

theorem wrote {text : String} (h : Wrote text s s') : R s s' := hR.wrote_after h rfl rfl

theorem onPool {x : Act (Pool σ) α} (hx : Pool.Built E K x) : Act.Moves R (onPool x) :=
  fun s => hR.pool s hx

theorem pool_run {x : Act (Pool σ) α} {r : Except Fault α} {p : Pool σ} (hx : Pool.Built E K x)
    (hrun : x s.pool = (r, p)) : R s { s with pool := p } := by
  have h := hR.pool s hx
  rwa [hrun] at h

theorem queried {op : Operation} {o : Except Fault Unit} (hK : Allows K op.kinds)
    (h : Queried E s op o s') : R s s' := by
  cases h with
  | known hr hw => exact hR.wrote hw
  | failed hr hcall =>
    exact (hR.onPool (.call (hK _ (Operation.kind_mem_of_asks hr)))).run hcall
  | told hr hcall hw =>
    refine hR.frame.trans ?_ (hR.wrote hw)
    exact (hR.onPool (.call (hK _ (Operation.kind_mem_of_asks hr)))).run hcall

theorem resetActive (hK : Allows K [.disposeCompletion, .disposeUnit]) :
    Act.Moves R (resetActive E) := by
  refine Act.moves_bind hR.frame (Act.moves_gets hR.frame _) fun s => ?_
  refine Act.moves_bind hR.frame ?_ fun _ => Act.moves_bind hR.frame ?_ fun _ => ?_
  · cases s.activeCompletion with
    | none => exact Act.moves_pure hR.frame _
    | some set => exact hR.onPool (.call (hK _ (by simp [Request.kind])))
  · cases s.activeParse with
    | none => exact Act.moves_pure hR.frame _
    | some u => exact hR.onPool (Pool.release_built (fun _ => hK _ (by simp [Request.kind])) u)
  · exact fun _ => hR.still rfl rfl rfl

variable {file : String} {flags : List String} {line column : Int}

theorem parses {o : Except Fault Unit}
    (hK : Allows K [.disposeCompletion, .disposeUnit, .parse, .reparse, .pause])
    (h : Parses E file flags s o s') : R s s' := by
  have hreset := hR.resetActive (hK.mono (by decide))
  have hbuilt (settings : Settings) (overlays : List Overlay) :
      Pool.Built E K (Pool.parse E settings file flags overlays) := by
    refine Pool.parse_built (fun _ => ?_) (fun _ => ?_) ?_ ?_ <;> exact hK _ (by simp [Request.kind])
  cases h with
  | unreset h => exact hreset.run h
  | stopped h hp => exact hR.frame.trans (hreset.run h) (hR.pool_run (hbuilt _ _) hp)
  | refused h hp hw =>
    refine hR.frame.trans (hreset.run h) (hR.frame.trans ?_ (hR.wrote hw))
    exact hR.pool_run (hbuilt _ _) hp
  | @granted s₁ _ u p h hp hw =>
    refine hR.frame.trans (hreset.run h) (hR.frame.trans (hR.pool_run (hbuilt _ _) hp) ?_)
    exact hR.wrote_after hw rfl rfl

theorem completeUnit (hK : Allows K [.disposeUnit, .codeComplete]) (u : UnitRef)
    (overlays : List Overlay) : Act.Moves R (completeUnit E u file line column overlays) := by
  refine Act.moves_bind hR.frame (hR.onPool (.gets (·.get? u))) fun o => ?_
  cases o with
  | none => exact Act.moves_pure hR.frame _
  | some record =>
    refine Act.moves_andFinally hR.frame (hR.onPool (.call (hK _ (by simp [Request.kind]))))
      (hR.onPool ?_)
    exact Pool.release_built (fun _ => hK _ (by simp [Request.kind])) u

theorem requested {o : Except Fault (Option Handle)}
    (hK : Allows K [.disposeUnit, .parse, .reparse, .pause, .codeComplete])
    (h : Requested E file line column flags s o s') : R s s' := by
  have hbuilt (settings : Settings) (overlays : List Overlay) :
      Pool.Built E K (Pool.obtain E settings file flags overlays) := by
    refine Pool.obtain_built (fun _ => ?_) (fun _ => ?_) ?_ ?_ <;> exact hK _ (by simp [Request.kind])
  cases h with
  | stopped hp => exact hR.pool_run (hbuilt _ _) hp
  | refused hp hw => exact hR.frame.trans (hR.pool_run (hbuilt _ _) hp) (hR.wrote hw)
  | @served u p _ _ hp hrun =>
    refine hR.frame.trans (hR.pool_run (hbuilt _ _) hp) ?_
    exact (hR.completeUnit (hK.mono (by decide)) u _).run hrun

theorem completes {o : Except Fault Unit}
    (hK : Allows K [.disposeCompletion, .disposeUnit, .parse, .reparse, .pause, .codeComplete,
      .completionResults]) (h : Completes E file line column flags s o s') : R s s' := by
  have hreset {s₁ : Session σ} {r : Except Fault Unit} (h : Session.resetActive E s = (r, s₁)) :
      R s s₁ :=
    (hR.resetActive (hK.mono (by decide))).run h
  have hrequested {s₁ s₂ : Session σ} {o : Except Fault (Option Handle)}
      (h : Session.resetActive E s = (.ok (), s₁))
      (hr : Requested E file line column flags s₁ o s₂) : R s s₂ :=
    hR.frame.trans (hreset h) (hR.requested (hK.mono (by decide)) hr)
  have hread {s₂ s₃ : Session σ} {id : Handle} {r : Except Fault (List ResultEntry)}
      (h : call E (.completionResults id) s₂ = (r, s₃)) : R s₂ s₃ :=
    (hR.onPool (.call (hK _ (by simp [Request.kind])))).run h
  cases h with
  | unreset h => exact hreset h
  | stopped h hr => exact hrequested h hr
  | refused h hr hplace hw => exact hR.frame.trans (hrequested h hr) (hR.wrote hw)
  | unwritten h hr => exact hrequested h hr
  | lost h hr hcall => exact hR.frame.trans (hrequested h hr) (hread hcall)
  | unlogged h hr hcall =>
    exact hR.frame.trans (hrequested h hr) (hR.frame.trans (hread hcall) (hR.still rfl rfl rfl))
  | installed h hr hcall hw =>
    refine hR.frame.trans (hrequested h hr) (hR.frame.trans (hread hcall) ?_)
    exact hR.wrote_after hw rfl rfl

theorem setsUnsaved {o : Except Fault Unit} {source : String}
    (h : SetsUnsaved file source s o s') : R s s' := by
  cases h with
  | noPath => exact hR.frame.refl s
  | unread _ _ hw => exact hR.wrote_after hw rfl rfl
  | read _ _ hw => exact hR.wrote_after hw rfl rfl

theorem resetsUnsaved {o : Except Fault Unit} (hK : Allows K [.disposeCompletion, .disposeUnit])
    (h : ResetsUnsaved E file s o s') : R s s' := by
  cases h with
  | unreset h => exact (hR.resetActive hK).run h
  | reset h _ hw => exact hR.frame.trans ((hR.resetActive hK).run h) (hR.wrote_after hw rfl rfl)

end Covers

/-- **Operations.** An operation makes the calls that it may make, and does not touch the files. -/
theorem perform_moves (hR : Covers E K R) (op : Operation) (hK : Allows K op.kinds) :
    Act.Moves R (perform E op) := by
  intro s
  by_cases hq : op.isQuery = true
  · exact hR.queried hK (queried_perform hq s)
  · cases op with
    | setUnsaved file source =>
      exact hR.setsUnsaved (setsUnsaved_setUnsaved file source s).result
    | resetUnsaved file => exact hR.resetsUnsaved hK (resetsUnsaved_resetUnsaved file s).result
    | parse file flags => exact hR.parses hK (parses_parse file flags s).result
    | complete file line column flags => exact hR.completes hK (completes_complete s).result
    | resetActive => exact hR.resetActive hK s
    | _ => exact absurd rfl hq

/-! ## What follows -/

theorem covers_files (E : Engine σ) :
    Covers E (fun _ => True) (fun s t : Session σ => t.files = s.files) where
  frame := ⟨fun _ => rfl, fun h h' => h'.trans h⟩
  still _ _ h := h
  pool _ _ := rfl

theorem covers_engine {I : σ → Prop} (hI : ∀ r t, K r → I t → I (E.call r t).2) :
    Covers E K (fun s t : Session σ => I s.pool.engine → I t.pool.engine) where
  frame := ⟨fun _ h => h, fun h h' => h' ∘ h⟩
  still hengine _ _ h := by rwa [hengine]
  pool s hx := hx.engine hI s.pool

theorem covers_grows (E : Engine σ) (K : Request → Prop) :
    Covers E.traced K (fun s t => Pool.Grows K s.pool t.pool) where
  frame := ⟨fun _ => Pool.grows_frame.refl _, Pool.grows_frame.trans⟩
  still hengine _ _ := Pool.grows_of_calls_eq (by rw [Pool.calls, hengine])
  pool s hx := hx.grows s.pool

theorem covers_refuses (E : Engine σ) : Covers E (fun _ => True)
    (fun s t : Session σ => t.pool.journal.refuses = s.pool.journal.refuses) where
  frame := ⟨fun _ => rfl, fun h h' => h'.trans h⟩
  still _ h _ := h
  pool s hx := hx.refuses s.pool

end Session

end CodeSense
