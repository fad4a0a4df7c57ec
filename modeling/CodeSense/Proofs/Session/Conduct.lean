import CodeSense.Proofs.Session.Sound

/-!
# How a session conducts itself

What an operation writes is put together from a few fixed texts, the error that names its
arguments, and what answers of the engine are shown as. What it stops with is a fault of its own
or one that came with an answer. A `Standard` for texts and faults is kept by putting texts together;
`perform_conduct`: if the answers so far meet it, so does the operation. This is so in every state,
and for every engine.
-/

namespace CodeSense

def Request.overlays? : Request → Option (List Overlay)
  | parse _ _ overlays _ | reparse _ overlays | codeComplete _ _ _ _ overlays => some overlays
  | _ => none

def Request.Carries (overlays : List Overlay) (r : Request) : Prop :=
  ∀ o, r.overlays? = some o → o = overlays

theorem Request.Carries.of_eq {r : Request} {overlays : List Overlay}
    (h : r.overlays? = some overlays) : r.Carries overlays := by
  intro o ho
  rw [h] at ho
  exact (Option.some.inj ho).symm

theorem Request.Carries.of_none {r : Request} {overlays : List Overlay} (h : r.overlays? = none) :
    r.Carries overlays := by
  intro o ho
  rw [h] at ho
  cases ho

def ResultEntry.shown (entry : ResultEntry) : List String :=
  (entry.completion.decode.bind Session.candidateLine?).toList

def Request.lines : (r : Request) → r.Answer → List String
  | .completionResults _, entries => entries.flatMap (·.shown)
  | .completionDiagnostics _, listing | .diagnostics _, listing =>
    listing.items.filterMap Session.diagnosticLine?
  | r, a => (r.shown a).items

theorem Operation.overlays?_of_asks {σ : Type} {s : Session σ} {op : Operation} {r : Request}
    (h : op.asks? s = some r) : r.overlays? = none := by
  cases inquires_of_asks? h <;> rfl

def Call.shown (x : Call) : List String :=
  match x.reply.result with
  | .ok a => x.request.lines a
  | .error _ => []

theorem Call.shown_of_ok {r : Request} {reply : Reply r.Answer} {a : r.Answer}
    (h : reply.result = .ok a) : Call.shown ⟨r, reply⟩ = r.lines a := by
  simp only [Call.shown, h]

namespace Session

def fixedTexts : List String :=
  [Response.success ++ "\n", Response.nil, Response.nil ++ "\n", "(\n", ")\n", ")"]

end Session

/-- The errors that an operation answers with. -/
def Operation.errors : Operation → List String
  | .setUnsaved file source => [Response.fileReadError file source ++ "\n"]
  | .parse file _ => [Response.parseError file ++ "\n"]
  | .complete file line column _ => [Response.completeError file line column ++ "\n"]
  | _ => []

def Operation.keepsBuffers : Operation → Bool
  | .setUnsaved .. | .resetUnsaved _ => false
  | _ => true

structure Standard where
  text : String → Prop
  fault : Fault → Prop
  empty : text ""
  append : ∀ {a b}, text a → text b → text (a ++ b)
  fixed : ∀ t ∈ Session.fixedTexts, text t
  own : ∀ e, e.isOwn = true → fault e

namespace Standard

variable (D : Standard)

structure Entry (entry : ResultEntry) : Prop where
  shown : ∀ t ∈ entry.shown, D.text t
  unreadable : ∀ e, entry.unreadable = some e → D.fault e

structure Answer (x : Call) : Prop where
  shown : ∀ t ∈ x.shown, D.text t
  faults : ∀ e ∈ x.faults, D.fault e

def Active (o : Option ActiveCompletion) : Prop :=
  ∀ set, o = some set → ∀ entry ∈ set.entries, D.Entry entry

def lax : Standard where
  text _ := True
  fault _ := True
  empty := trivial
  append _ _ := trivial
  fixed _ _ := trivial
  own _ _ := trivial

variable {D}

theorem Answer.entries {set : Handle} {reply : Reply (List ResultEntry)} {entries : List ResultEntry}
    (h : D.Answer ⟨.completionResults set, reply⟩) (hreply : reply.result = .ok entries) :
    ∀ entry ∈ entries, D.Entry entry := by
  intro entry hentry
  refine ⟨fun t ht => h.shown t ?_, fun e he => h.faults e ?_⟩
  · rw [Call.shown_of_ok hreply]
    exact List.mem_flatMap.mpr ⟨entry, hentry, ht⟩
  · simp only [Call.faults, hreply, List.mem_filterMap]
    exact ⟨entry, hentry, he⟩

theorem text_join {texts : List String} (h : ∀ t ∈ texts, D.text t) :
    D.text (String.join texts) := by
  induction texts with
  | nil => exact D.empty
  | cons t texts ih =>
    obtain ⟨ht, htexts⟩ := List.forall_mem_cons.mp h
    rw [String.join_cons]
    exact D.append ht (ih htexts)

theorem text_enclosed {l : Listing String} {opening closing : String}
    (hopening : opening ∈ Session.fixedTexts) (hclosing : closing ∈ Session.fixedTexts)
    (h : ∀ t ∈ l.items, D.text t) : D.text (l.enclosed opening closing).text := by
  refine text_join (List.forall_mem_cons.mpr ⟨D.fixed _ hopening, fun t ht => ?_⟩)
  rcases List.mem_append.mp ht with ht | ht
  · exact h t ht
  · split at ht
    · rw [List.mem_singleton.mp ht]
      exact D.fixed _ hclosing
    · cases ht

/-! ## What is shown -/

structure Shown (l : Listing String) : Prop where
  text : D.text l.text
  fault : ∀ e, l.result = .error e → D.fault e

theorem shown_items {texts : List String} (h : ∀ t ∈ texts, D.text t) :
    D.Shown { items := texts } :=
  ⟨text_join h, fun e he => by cases he⟩

theorem shown_diagnostics {listing : Listing Diagnostic}
    (hitems : ∀ t ∈ listing.items.filterMap Session.diagnosticLine?, D.text t)
    (hbroken : ∀ e, listing.broken = some e → D.fault e) :
    D.Shown (Session.shownDiagnostics listing) := by
  refine ⟨text_enclosed (by simp [Session.fixedTexts]) (by simp [Session.fixedTexts]) ?_, ?_⟩
  · exact fun t ht => hitems t (Listing.ofItems_items.subset ht)
  · intro e he
    rcases Diagnostic.spelled_broken (Listing.result_eq_error.mp he) with hlisting | ⟨rfl, -⟩
    · exact hbroken e hlisting
    · exact D.own _ rfl

theorem shown_candidates {set : ActiveCompletion} (h : ∀ entry ∈ set.entries, D.Entry entry)
    (typed : String) (style : MatchStyle) :
    D.Shown (Session.shownCandidates typed style set) := by
  refine ⟨text_enclosed (by simp [Session.fixedTexts]) (by simp [Session.fixedTexts]) ?_, ?_⟩
  · intro t ht
    obtain ⟨c, hc, hline⟩ := List.mem_filterMap.mp (Listing.ofItems_items.subset ht)
    obtain ⟨entry, hentry, hdecode⟩ := Session.mem_listCandidates hc
    exact (h entry hentry).shown t (by simp [ResultEntry.shown, hdecode, hline])
  · intro e he
    rcases Listing.ofItems_broken (Listing.result_eq_error.mp he) with hlisting | ⟨rfl, -⟩
    · obtain ⟨entry, hentry, hu⟩ := Session.listCandidates_broken hlisting
      exact (h entry hentry).unreadable e hu
    · exact D.own _ rfl

theorem Answer.meets {r : Request} {reply : Reply r.Answer} {a : r.Answer}
    (h : D.Answer ⟨r, reply⟩) (hreply : reply.result = .ok a) : D.Shown (r.shown a) := by
  have hshown := h.shown
  have hfaults := h.faults
  rw [Call.shown_of_ok hreply] at hshown
  cases r with
  | diagnostics unit =>
    exact shown_diagnostics hshown fun e he => hfaults e (by simp [Call.faults, hreply, he])
  | completionDiagnostics set =>
    exact shown_diagnostics hshown fun e he => hfaults e (by simp [Call.faults, hreply, he])
  | typeAt unit file line column => exact shown_items hshown
  | compileCommands buildDir file => exact shown_items hshown
  | _ => exact shown_items (by simp)

theorem knows_meets {σ : Type} {s : Session σ} (h : D.Active s.activeCompletion)
    (op : Operation) : D.Shown (op.knows s) := by
  have hempty : D.Shown (Session.shownDiagnostics { items := [] }) :=
    shown_diagnostics (by simp) (by simp)
  cases op with
  | candidates typed style =>
    cases hset : s.activeCompletion with
    | none =>
      simp only [Operation.knows, hset]
      exact shown_items fun t ht => D.fixed t (by simp_all [Session.fixedTexts])
    | some set =>
      simp only [Operation.knows, hset]
      exact shown_candidates (h set hset) typed style
  | getType line column => exact shown_items fun t ht => D.fixed t (by simp_all [Session.fixedTexts])
  | diagnostics => exact hempty
  | completionDiagnostics => exact hempty
  | _ => exact shown_items (by simp)

end Standard

structure Manner extends Standard where
  request : Request → Prop
  /-- The buffers stay as they are. -/
  steady : Prop

def Manner.ofRequests (request : Request → Prop) (steady : Prop) : Manner :=
  { Standard.lax with request, steady }

def Act.fault? {α : Type} : Except Fault α → Option Fault
  | .ok _ => none
  | .error e => some e

namespace Session

variable {σ : Type} {E : Engine σ} (M : Manner)

/-- From `s` to `s'`, with the fault `e` if there was one. Given answers and entries that meet the
standard, what was written and raised meets it, and so do the entries at hand. -/
structure Conduct (s : Session (Traced σ)) (e : Option Fault) (s' : Session (Traced σ)) :
    Prop where
  calls : Pool.Grows M.request s.pool s'.pool
  settings : s'.settings = s.settings
  buffers : M.steady → s'.overlays = s.overlays
  wrote : ∃ text, s'.out = s.out ++ text ∧
    ((∀ x ∈ s'.calls, M.Answer x) → M.Active s.activeCompletion →
      M.text text ∧ M.Active s'.activeCompletion ∧ ∀ f, e = some f → M.fault f)

def Conducts (x : Act (Session (Traced σ)) α) : Prop :=
  ∀ s, x.Ends s (fun _ => Conduct M s none) (fun e => Conduct M s (some e))

variable {M} {s t u : Session (Traced σ)} {e : Option Fault}

/-- A fault of the whole is one of its parts. -/
theorem Conduct.join {e₁ e₂ : Option Fault} (h : Conduct M s e₁ t) (h' : Conduct M t e₂ u)
    (he : ∀ f, e = some f → e₁ = some f ∨ e₂ = some f) : Conduct M s e u := by
  obtain ⟨text, hout, hgood⟩ := h.wrote
  obtain ⟨text', hout', hgood'⟩ := h'.wrote
  refine ⟨Pool.grows_frame.trans h.calls h'.calls, h'.settings.trans h.settings,
    fun hs => (h'.buffers hs).trans (h.buffers hs), text ++ text', ?_, fun hcalls hactive => ?_⟩
  · rw [hout', hout, String.append_assoc]
  · have hbefore : ∀ x ∈ t.calls, M.Answer x := by
      obtain ⟨new, hnew, -⟩ := h'.calls
      intro x hx
      refine hcalls x ?_
      rw [show u.calls = t.calls ++ new from hnew]
      exact List.mem_append_left _ hx
    obtain ⟨htext, hactive', hfault⟩ := hgood hbefore hactive
    obtain ⟨htext', hactive'', hfault'⟩ := hgood' hcalls hactive'
    exact ⟨M.append htext htext', hactive'', fun f hf => (he f hf).elim (hfault f) (hfault' f)⟩

/-- What stopped the first part, if anything did, was caught. -/
theorem Conduct.trans {e₁ : Option Fault} (h : Conduct M s e₁ t) (h' : Conduct M t e u) :
    Conduct M s e u :=
  h.join h' fun _ => .inr

/-- Nothing was called or written. -/
theorem conduct_still (hpool : t.calls = s.calls) (hsettings : t.settings = s.settings)
    (hbuffers : M.steady → t.overlays = s.overlays) (hout : t.out = s.out)
    (hgood : (∀ x ∈ s.calls, M.Answer x) → M.Active s.activeCompletion →
      M.Active t.activeCompletion ∧ ∀ f, e = some f → M.fault f) : Conduct M s e t := by
  refine ⟨Pool.grows_of_calls_eq hpool, hsettings, hbuffers, "", by simp [hout], ?_⟩
  intro hcalls hactive
  rw [hpool] at hcalls
  exact ⟨M.empty, hgood hcalls hactive⟩

theorem Wrote.conduct {text : String} (h : Wrote text s t)
    (hgood : (∀ x ∈ s.calls, M.Answer x) → M.Active s.activeCompletion →
      M.text text ∧ ∀ f, e = some f → M.fault f) : Conduct M s e t := by
  obtain ⟨journal, -, rfl⟩ := h
  refine ⟨Pool.grows_of_calls_eq rfl, rfl, fun _ => rfl, text, rfl, fun hcalls hactive => ?_⟩
  obtain ⟨htext, hfault⟩ := hgood hcalls hactive
  exact ⟨htext, hactive, hfault⟩

theorem Wrote.conduct_text {text : String} (h : Wrote text s t) (htext : M.text text) :
    Conduct M s none t :=
  h.conduct fun _ _ => ⟨htext, by simp⟩

theorem Wrote.conduct_success (h : Wrote (Response.success ++ "\n") s t) : Conduct M s none t :=
  h.conduct_text (M.fixed _ (by simp [fixedTexts]))

theorem Wrote.conduct_listing {l : Listing String} (h : Wrote l.text s t)
    (hgood : (∀ x ∈ s.calls, M.Answer x) → M.Active s.activeCompletion → M.Shown l) :
    Conduct M s (Act.fault? l.result) t := by
  refine h.conduct fun hcalls hactive => ⟨(hgood hcalls hactive).text, fun f hf => ?_⟩
  refine (hgood hcalls hactive).fault f ?_
  cases hresult : l.result with
  | ok _ => rw [hresult] at hf; cases hf
  | error e => rw [hresult] at hf; cases hf; rfl

theorem conducts_onPool {x : Act (Pool (Traced σ)) α} (hx : Pool.Built E.traced M.request x) :
    Conducts M (onPool x) := by
  intro s
  rw [ends_onPool]
  refine ((hx.grows.ends s.pool).and (hx.stops s.pool)).mono ?_ ?_
  · intro a p hend
    exact ⟨hend.1, rfl, fun _ => rfl, "", by simp, fun _ h => ⟨M.empty, h, by simp⟩⟩
  · intro e p hend
    refine ⟨hend.1, rfl, fun _ => rfl, "", by simp, fun hcalls h => ⟨M.empty, h, fun f hf => ?_⟩⟩
    cases hf
    rcases hend.2 with hown | ⟨x, hx, he⟩
    · exact M.own e hown
    · exact (hcalls x hx).faults e (Call.mem_faults_of_error he)

theorem Conducts.run {x : Act (Session (Traced σ)) α} {o : Except Fault α} (hx : Conducts M x)
    (hrun : x s = (o, t)) : Conduct M s (Act.fault? o) t := by
  cases o with
  | error e => exact (hx s).at_error hrun
  | ok a => exact (hx s).at_ok hrun

theorem conduct_pool {x : Act (Pool (Traced σ)) α} {o : Except Fault α} {p : Pool (Traced σ)}
    (hx : Pool.Built E.traced M.request x) (hrun : x s.pool = (o, p)) :
    Conduct M s (Act.fault? o) { s with pool := p } := by
  refine (conducts_onPool hx).run ?_
  rw [onPool, Act.within, hrun]

theorem conducts_pure (a : α) : Conducts M (pure a : Act (Session (Traced σ)) α) :=
  fun _ => conduct_still rfl rfl (fun _ => rfl) rfl fun _ h => ⟨h, by simp⟩

theorem conducts_bind {x : Act (Session (Traced σ)) α} {f : α → Act (Session (Traced σ)) β}
    (hx : Conducts M x) (hf : ∀ a, Conducts M (f a)) : Conducts M (x >>= f) := by
  intro s
  rw [Act.ends_bind]
  refine (hx s).mono (fun a t ht => ?_) fun _ _ h => h
  exact (hf a t).mono (fun _ _ h => ht.trans h) fun _ _ h => ht.trans h

theorem conducts_andFinally {x : Act (Session (Traced σ)) α} {c : Act (Session (Traced σ)) Unit}
    (hx : Conducts M x) (hc : Conducts M c) : Conducts M (.andFinally x c) := by
  intro s
  rw [Act.ends_andFinally]
  refine (hx s).mono (fun a t h => ?_) fun e t h => ?_
  · exact (hc t).mono (fun _ _ h' => h.trans h') fun _ _ h' => h.trans h'
  · exact (hc t).mono (fun _ _ h' => h.join h' fun _ => .inl) fun _ _ h' => h.join h' fun _ => .inr

/-! ## Operations -/

section
variable (hM : ∀ r, r.overlays? = none → M.request r)
include hM

theorem Queried.conduct {op : Operation} {o : Except Fault Unit} (h : Queried E.traced s op o t) :
    Conduct M s (Act.fault? o) t := by
  have hrequest {r : Request} (hr : op.asks? s = some r) : M.request r :=
    hM r (Operation.overlays?_of_asks hr)
  cases h with
  | known hr hw => exact hw.conduct_listing fun _ hactive => Standard.knows_meets hactive op
  | failed hr hcall => exact (conducts_onPool (.call (hrequest hr))).run hcall
  | @told r a s₁ _ hr hcall hw =>
    have hcalled : Conduct M s none s₁ := (conducts_onPool (.call (hrequest hr))).run hcall
    refine hcalled.trans (hw.conduct_listing fun hcalls _ => ?_)
    obtain ⟨reply, hreply, hc⟩ := called_of_call hcall
    exact (hcalls ⟨r, reply⟩ (by rw [hc.calls]; simp)).meets hreply

theorem resetActive_conducts : Conducts M (resetActive E.traced) := by
  intro s
  unfold resetActive
  rw [Act.ends_bind, Act.ends_get]
  refine conducts_bind ?_ (fun _ => conducts_bind ?_ fun _ => ?_) s
  · cases s.activeCompletion with
    | none => exact conducts_pure _
    | some set => exact conducts_onPool (.call (hM _ rfl))
  · cases s.activeParse with
    | none => exact conducts_pure _
    | some u => exact conducts_onPool (Pool.release_built (fun _ => hM _ rfl) u)
  · exact fun s => conduct_still rfl rfl (fun _ => rfl) rfl fun _ _ => ⟨by simp [Standard.Active], by simp⟩

omit hM in
theorem SetsUnsaved.conduct {file source : String} {o : Except Fault Unit}
    (h : SetsUnsaved file source s o t) (hs : ¬ M.steady)
    (herr : M.text (Response.fileReadError file source ++ "\n")) :
    Conduct M s (Act.fault? o) t := by
  have hbuffers (o : Overlays) : Conduct M s none { s with overlays := o } :=
    conduct_still rfl rfl (fun h => absurd h hs) rfl fun _ h => ⟨h, by simp⟩
  cases h with
  | noPath hfault =>
    refine conduct_still rfl rfl (fun _ => rfl) rfl fun _ h => ⟨h, fun f hf => M.own f ?_⟩
    cases hf
    rcases FileSystem.pathFault?_eq_some hfault with ⟨rfl, -⟩ | ⟨c, position, rfl, -⟩ <;> rfl
  | unread _ _ hw => exact (hbuffers _).trans (hw.conduct_text herr)
  | read _ _ hw => exact (hbuffers _).trans hw.conduct_success

theorem ResetsUnsaved.conduct {file : String} {o : Except Fault Unit}
    (h : ResetsUnsaved E.traced file s o t) (hs : ¬ M.steady) : Conduct M s (Act.fault? o) t := by
  cases h with
  | unreset hreset => exact (resetActive_conducts hM).run hreset
  | @reset s₁ _ o hreset _ hw =>
    have hbuffers : Conduct M s₁ none { s₁ with overlays := o } :=
      conduct_still rfl rfl (fun h => absurd h hs) rfl fun _ h => ⟨h, by simp⟩
    exact ((resetActive_conducts hM).run hreset).trans (hbuffers.trans hw.conduct_success)

variable {file : String} {flags : List String} {line column : Int}
  (hreq : ∀ r, r.Carries s.overlays.pairs → M.request r)
include hreq

theorem Parses.conduct {o : Except Fault Unit} (h : Parses E.traced file flags s o t)
    (herr : M.text (Response.parseError file ++ "\n")) : Conduct M s (Act.fault? o) t := by
  have hreset {s₁ : Session (Traced σ)} {o : Except Fault Unit}
      (h : resetActive E.traced s = (o, s₁)) : Conduct M s (Act.fault? o) s₁ :=
    (resetActive_conducts hM).run h
  have hparse {s₁ : Session (Traced σ)} {o : Except Fault UnitRef} {p : Pool (Traced σ)}
      (h : resetActive E.traced s = (.ok (), s₁))
      (hp : Pool.parse E.traced s₁.settings file flags s₁.overlays.pairs s₁.pool = (o, p)) :
      Conduct M s₁ (Act.fault? o) { s₁ with pool := p } := by
    rw [((resetActive_quiet E.traced).run h).overlays] at hp
    exact conduct_pool (Pool.parse_built (fun _ => hM _ rfl) (fun _ => hreq _ (.of_eq rfl)) (hM _ rfl)
      (hreq _ (.of_eq rfl))) hp
  cases h with
  | unreset h => exact hreset h
  | stopped h hp => exact (hreset h).trans (hparse h hp)
  | refused h hp hw => exact (hreset h).trans ((hparse h hp).trans (hw.conduct_text herr))
  | @granted s₁ _ u p h hp hw =>
    have hactive : Conduct M { s₁ with pool := p } none { s₁ with pool := p, activeParse := some u } :=
      conduct_still rfl rfl (fun _ => rfl) rfl fun _ h => ⟨h, by simp⟩
    exact (hreset h).trans ((hparse h hp).trans (hactive.trans hw.conduct_success))

theorem Requested.conduct {o : Except Fault (Option Handle)}
    (h : Requested E.traced file line column flags s o t) : Conduct M s (Act.fault? o) t := by
  have hobtain {o : Except Fault UnitRef} {p : Pool (Traced σ)}
      (hp : Pool.obtain E.traced s.settings file flags s.overlays.pairs s.pool = (o, p)) :
      Conduct M s (Act.fault? o) { s with pool := p } :=
    conduct_pool (Pool.obtain_built (fun _ => hM _ rfl) (fun _ => hreq _ (.of_eq rfl)) (hM _ rfl)
      (hreq _ (.of_eq rfl))) hp
  cases h with
  | stopped hp => exact hobtain hp
  | refused hp hw => exact (hobtain hp).trans (hw.conduct_text M.empty)
  | @served u p _ _ hp hrun =>
    refine (hobtain hp).trans (Conducts.run (conducts_bind ?_ fun o => ?_) hrun)
    · exact conducts_onPool (E := E) (.gets (·.get? u))
    · cases o with
      | none => exact conducts_pure _
      | some record =>
        refine conducts_andFinally (conducts_onPool (.call (hreq _ (.of_eq rfl))))
          (conducts_onPool (E := E) ?_)
        exact Pool.release_built (fun _ => hM _ rfl) u

theorem Completes.conduct {o : Except Fault Unit}
    (h : Completes E.traced file line column flags s o t)
    (herr : M.text (Response.completeError file line column ++ "\n")) :
    Conduct M s (Act.fault? o) t := by
  have hrequested {s₁ s₂ : Session (Traced σ)} {o : Except Fault (Option Handle)}
      (h : resetActive E.traced s = (.ok (), s₁))
      (hr : Requested E.traced file line column flags s₁ o s₂) : Conduct M s (Act.fault? o) s₂ := by
    refine ((resetActive_conducts hM).run h).trans (hr.conduct hM ?_)
    rw [((resetActive_quiet E.traced).run h).overlays]
    exact hreq
  have hstops {s₁ : Session (Traced σ)} (f : Fault) (hf : f.isOwn = true) :
      Conduct M s₁ (some f) s₁ :=
    conduct_still rfl rfl (fun _ => rfl) rfl fun _ h => ⟨h, fun e he => M.own e (by cases he; exact hf)⟩
  have hread {s₂ s₃ : Session (Traced σ)} {id : Handle} {o : Except Fault (List ResultEntry)}
      (hcall : call E.traced (.completionResults id) s₂ = (o, s₃)) : Conduct M s₂ (Act.fault? o) s₃ :=
    (conducts_onPool (.call (hM _ rfl))).run hcall
  have hinstall {s₂ s₃ : Session (Traced σ)} {id : Handle} {entries : List ResultEntry}
      (hcall : call E.traced (.completionResults id) s₂ = (.ok entries, s₃)) :
      Conduct M s₃ none { s₃ with activeCompletion := some (.ofResults id entries) } := by
    obtain ⟨reply, hreply, hc⟩ := called_of_call hcall
    refine conduct_still rfl rfl (fun _ => rfl) rfl fun hcalls _ => ⟨fun set hset entry hentry => ?_, by simp⟩
    cases hset
    have hanswer := hcalls ⟨.completionResults id, reply⟩ (by rw [hc.calls]; simp)
    exact hanswer.entries hreply entry (List.mem_mergeSort.mp hentry)
  cases h with
  | unreset h => exact (resetActive_conducts hM).run h
  | stopped h hr => exact hrequested h hr
  | refused h hr hplace hw => exact (hrequested h hr).trans (hw.conduct_text herr)
  | unwritten h hr => exact (hrequested h hr).trans (hstops _ rfl)
  | lost h hr hcall => exact (hrequested h hr).trans (hread hcall)
  | unlogged h hr hcall =>
    exact (hrequested h hr).trans ((hread hcall).trans ((hinstall hcall).trans (hstops _ rfl)))
  | installed h hr hcall hw =>
    exact (hrequested h hr).trans ((hread hcall).trans ((hinstall hcall).trans hw.conduct_success))

end

end Session

/-- **Operations.** In every state an operation is conducted in a manner that allows the requests
with the overlays at hand and the operation's own errors. -/
theorem Session.perform_conduct {σ : Type} {E : Engine σ} {M : Manner} (s : Session (Traced σ))
    (op : Operation) (hs : M.steady ↔ op.keepsBuffers = true)
    (hreq : ∀ r, r.Carries s.overlays.pairs → M.request r) (hop : ∀ t ∈ op.errors, M.text t) :
    Conduct M s (Act.fault? (perform E.traced op s).1) (perform E.traced op s).2 := by
  have hM : ∀ r, r.overlays? = none → M.request r := fun r hr => hreq r (.of_none hr)
  by_cases hquery : op.isQuery = true
  · exact (queried_perform hquery s).conduct hM
  · cases op with
    | setUnsaved file source =>
      exact (setsUnsaved_setUnsaved file source s).result.conduct
        (by simp [hs, Operation.keepsBuffers]) (hop _ (List.mem_singleton.mpr rfl))
    | resetUnsaved file =>
      exact (resetsUnsaved_resetUnsaved file s).result.conduct hM (by simp [hs, Operation.keepsBuffers])
    | parse file flags =>
      exact (parses_parse file flags s).result.conduct hM hreq (hop _ (List.mem_singleton.mpr rfl))
    | complete file line column flags =>
      exact (completes_complete s).result.conduct hM hreq (hop _ (List.mem_singleton.mpr rfl))
    | resetActive => exact (resetActive_conducts hM).run rfl
    | _ => exact absurd rfl hquery

end CodeSense
