import CodeSense.Engine.Script
import CodeSense.Proofs.Session.Effects

/-!
# What is active

Only a few operations decide what is active, and the last of them that ran did:
`active_decided`.
-/

namespace CodeSense

namespace Operation

def parses : Operation → Bool
  | .parse .. => true
  | _ => false

def completes : Operation → Bool
  | .complete .. => true
  | _ => false

end Operation

namespace Session

variable {σ : Type} {E : Engine σ} {s : Session (Traced σ)} {file : String} {flags : List String}
  {line column : Int}

def Neither (s : Session (Traced σ)) : Prop := s.activeParse = none ∧ s.activeCompletion = none

structure HoldsUnit (s : Session (Traced σ)) (file : String) (flags : List String)
    (s' : Session (Traced σ)) : Prop where
  completion : s'.activeCompletion = none
  unit : ∃ u record made reply, s'.activeParse = some u ∧ s'.pool.cache.get? u = some record ∧
    record.file = file ∧ record.flags = s.settings.compilerArguments flags ∧
    reply.result = .ok ErrorCode.success ∧
    s'.calls = s.calls ++ made ++ [⟨.reparse record.handle s.overlays.pairs, reply⟩]

end Session

namespace Pool

variable {σ : Type} {E : Engine σ} {p : Pool (Traced σ)} {u : UnitRef} {r : UnitRecord}
  {overlays : List Overlay} {file : String} {flags : List String} {settings : Settings}
  {held : List UnitRef}

/-- A unit that is handed out was brought up to date just before. -/
theorem ends_parse_reparsed (hb : Balanced p.cache p.calls held) :
    (parse E.traced settings file flags overlays).Ends p
      (fun u p' => ∃ r made reply, p'.cache.get? u = some r ∧
        reply.result = .ok ErrorCode.success ∧
        p'.calls = p.calls ++ made ++ [⟨.reparse r.handle overlays, reply⟩])
      (fun _ _ => True) := by
  refine (parse_parsed p).mono (fun u p' h => ?_) fun _ _ _ => trivial
  cases h with
  | @fresh _ q p₂ h hr =>
    obtain ⟨made, hmade, -⟩ := h.grows
    obtain ⟨-, -, -, r, hget, -⟩ := h.granted hb
    generalize ho : (.ok () : Except Fault Unit) = o at hr
    cases hr with
    | absent hnone =>
      rw [hget] at hnone
      cases hnone
    | @current r' reply _ hr hreply hc =>
      rw [hget] at hr
      cases hr
      refine ⟨{ r with refCount := r.refCount + 1 }, made, reply, ?_, hreply, ?_⟩
      · exact Cache.get?_retain (hc.cache ▸ hget) 1
      · rw [show Pool.calls _ = p₂.calls from rfl, hc.calls, hmade]
    | broken => cases ho
    | unlogged => cases ho
    | @dropped _ _ _ _ _ o => cases o <;> cases ho

end Pool

namespace Session

variable {σ : Type} {E : Engine σ} {s s' : Session (Traced σ)} {file : String} {flags : List String}
  {line column : Int}

/-- A parse that answers. -/
theorem Parses.answered (hp : Parses E.traced file flags s (.ok ()) s') (h : s.Sound) :
    s'.out = s.out ++ (Response.success ++ "\n") ∧ HoldsUnit s file flags s' ∨
      s'.out = s.out ++ (Response.parseError file ++ "\n") ∧ s'.Neither := by
  cases hp with
  | refused hreset hp hw =>
    have hidle := (((ends_resetActive h).at_ok hreset).ends_parse.at_error hp).idle.calm hw.calm
    obtain ⟨journal, -, rfl⟩ := hw
    refine .inr ⟨?_, hidle.parse, hidle.completion⟩
    rw [← ((resetActive_quiet E.traced).run hreset).out]
  | @granted s₁ _ u p hreset hp hw =>
    have h₁ := (ends_resetActive h).at_ok hreset
    have hquiet := (resetActive_quiet E.traced).run hreset
    obtain ⟨before, hbefore, -⟩ := resetActive_grows hreset
    obtain ⟨record, made, reply, hrecord, hreply, hcalls⟩ :=
      (Pool.ends_parse_reparsed h₁.balanced).at_ok hp
    obtain ⟨-, record', hrecord', hfile, hflags⟩ := ((Pool.ends_parse h₁.balanced).at_ok hp).keeps
    obtain rfl : record' = record := Option.some.inj (hrecord'.symm.trans hrecord)
    obtain ⟨journal, -, rfl⟩ := hw
    refine .inl ⟨by rw [← hquiet.out], h₁.completion, u, record', before ++ made, reply, rfl, hrecord,
      hfile, ?_, hreply, ?_⟩
    · rw [hflags, hquiet.settings]
    · rw [← hquiet.overlays, ← List.append_assoc, ← hbefore]
      exact hcalls

/-- A parse that stops without an answer. -/
theorem Parses.unanswered {e : Fault} (hp : Parses E.traced file flags s (.error e) s')
    (h : s.Sound) :
    Trace.Failed s'.calls e ∨
      s'.out = s.out ∧ s'.Neither ∧ e.isLength = true ∧
        Pool.Overlong s.settings s.pool s'.pool := by
  cases hp with
  | unreset hreset => exact .inl ((ends_resetActive h).at_error hreset).2.failed
  | stopped hreset hp he =>
    have hrefused := ((ends_resetActive h).at_ok hreset).ends_parse.at_error hp
    rcases hrefused.cause with hbreaks | ⟨f, rfl⟩ | ⟨hlength, hlong⟩
    · exact .inl hbreaks.failed
    · exact absurd rfl (he f)
    · exact .inr ⟨((resetActive_quiet E.traced).run hreset).out,
        ⟨hrefused.idle.parse, hrefused.idle.completion⟩, hlength, overlong_after hreset hlong⟩

structure HoldsSet (s : Session (Traced σ)) (file : String) (line column : Int)
    (s' : Session (Traced σ)) : Prop where
  parse : s'.activeParse = none
  set : ∃ id entries made unit reply reply',
    s'.activeCompletion = some (.ofResults id entries) ∧
    reply.result = .ok (some id) ∧ reply'.result = .ok entries ∧
    s'.calls = s.calls ++ made ++ [⟨.codeComplete unit file line column s.overlays.pairs, reply⟩,
      ⟨.completionResults id, reply'⟩]

theorem Requested.computed {id : Handle}
    (hr : Requested E.traced file line column flags s (.ok (some id)) s') (h : s.Idle []) :
    ∃ made unit reply, reply.result = .ok (some id) ∧
      s'.calls = s.calls ++ made ++
        [⟨.codeComplete unit file line column s.overlays.pairs, reply⟩] := by
  cases hr with
  | @served u p _ _ hp hrun =>
    obtain ⟨made, hmade, -⟩ := obtain_grows hp
    obtain ⟨unit, reply, hreply, hcalls⟩ :=
      (consulted_of_served (s := { s with pool := p }) (h.ends_obtain.at_ok hp) hrun).calls
    refine ⟨made, unit, reply, hreply, ?_⟩
    rw [hcalls, show Session.calls _ = p.calls from rfl, hmade]

theorem holdsSet_of_results {s₁ s₂ s₃ : Session (Traced σ)} {id : Handle}
    {entries : List ResultEntry} (h : s.Sound) (hreset : resetActive E.traced s = (.ok (), s₁))
    (hr : Requested E.traced file line column flags s₁ (.ok (some id)) s₂)
    (hcall : call E.traced (.completionResults id) s₂ = (.ok entries, s₃)) :
    HoldsSet s file line column { s₃ with activeCompletion := some (.ofResults id entries) } ∧
      s₃.out = s.out := by
  have h₁ := (ends_resetActive h).at_ok hreset
  have hquiet₁ := (resetActive_quiet E.traced).run hreset
  obtain ⟨before, hbefore, -⟩ := resetActive_grows hreset
  obtain ⟨made, unit, reply, hreply, hcalls⟩ := hr.computed h₁
  obtain ⟨reply', hreply', hc⟩ := called_of_call hcall
  refine ⟨⟨((hr.idle h₁).results hc).parse, id, entries, before ++ made, unit, reply, reply', rfl,
    hreply, hreply', ?_⟩, ?_⟩
  · rw [show Session.calls _ = s₃.calls from rfl, hc.calls, hcalls, hquiet₁.overlays,
      show s₁.calls = _ from hbefore]
    simp
  · have hquiet₃ : Quiet s₂ s₃ := (onPool_quiet _).run hcall
    rw [hquiet₃.out, hr.quiet.out, hquiet₁.out]

/-- A completion that answers. -/
theorem Completes.answered (hc : Completes E.traced file line column flags s (.ok ()) s')
    (h : s.Sound) :
    s'.out = s.out ++ (Response.success ++ "\n") ∧ HoldsSet s file line column s' ∨
      isWritable line column = true ∧
        s'.out = s.out ++ (Response.completeError file line column ++ "\n") ∧ s'.Neither := by
  cases hc with
  | refused hreset hr hplace hw =>
    have hidle := (hr.idle ((ends_resetActive h).at_ok hreset)).calm hw.calm
    obtain ⟨journal, -, rfl⟩ := hw
    refine .inr ⟨hplace, ?_, hidle.parse, hidle.completion⟩
    rw [← ((resetActive_quiet E.traced).run hreset).out, ← hr.quiet.out]
  | installed hreset hr hcall hw =>
    obtain ⟨hset, hout⟩ := holdsSet_of_results h hreset hr hcall
    obtain ⟨journal, -, rfl⟩ := hw
    exact .inl ⟨by rw [← hout], hset.parse, hset.set⟩

/-- A completion that stops without an answer: the engine broke it off, the log did not take its place,
or it found nothing and could not say so. -/
theorem Completes.unanswered {e : Fault}
    (hc : Completes E.traced file line column flags s (.error e) s') (h : s.Sound) :
    Trace.Failed s'.calls e ∨ s'.out = s.out ∧ e.isLength = true ∧
      (isWritable line column = false ∧ s.pool.journal.refuses .debug = true ∧
          HoldsSet s file line column s' ∨
        (isWritable line column = false ∨ Pool.Overlong s.settings s.pool s'.pool) ∧ s'.Neither ∧
          Pool.Grows (·.kind ≠ .completionResults) s.pool s'.pool) := by
  have hspares : Allows (·.kind ≠ .completionResults)
      [.disposeCompletion, .disposeUnit, .parse, .reparse, .pause, .codeComplete] := by
    intro r hr hk
    simp [hk] at hr
  have hgrows {s₁ s₂ : Session (Traced σ)} {o : Except Fault (Option Handle)}
      (hreset : resetActive E.traced s = (.ok (), s₁))
      (hr : Requested E.traced file line column flags s₁ o s₂) :
      Pool.Grows (·.kind ≠ .completionResults) s.pool s₂.pool :=
    Pool.grows_frame.trans (((covers_grows E _).resetActive (hspares.mono (by decide))).run hreset)
      ((covers_grows E _).requested (hspares.mono (by decide)) hr)
  have hout {s₁ s₂ : Session (Traced σ)} {o : Except Fault (Option Handle)}
      (hreset : resetActive E.traced s = (.ok (), s₁))
      (hr : Requested E.traced file line column flags s₁ o s₂) : s₂.out = s.out :=
    hr.quiet.out.trans ((resetActive_quiet E.traced).run hreset).out
  have hrefuses := (covers_refuses E.traced).completes (fun _ _ => trivial) hc
  cases hc with
  | unreset hreset => exact .inl ((ends_resetActive h).at_error hreset).2.failed
  | stopped hreset hr =>
    have hidle : s'.Idle [] := hr.idle ((ends_resetActive h).at_ok hreset)
    rcases hr.cause ((ends_resetActive h).at_ok hreset) with hbreaks | ⟨hlength, hlong⟩
    · exact .inl hbreaks.failed
    · exact .inr ⟨hout hreset hr, hlength, .inr ⟨.inr (overlong_after hreset hlong),
        ⟨hidle.parse, hidle.completion⟩, hgrows hreset hr⟩⟩
  | unwritten hreset hr hplace =>
    have hidle : s'.Idle [] := hr.idle ((ends_resetActive h).at_ok hreset)
    exact .inr ⟨hout hreset hr, rfl, .inr ⟨.inl hplace, ⟨hidle.parse, hidle.completion⟩,
      hgrows hreset hr⟩⟩
  | lost hreset hr hcall =>
    obtain ⟨reply, hreply, hc⟩ := called_of_call hcall
    rw [hc.calls]
    exact .inl (Trace.failed_snoc hreply)
  | unlogged hreset hr hcall hplace hj =>
    obtain ⟨hset, hout⟩ := holdsSet_of_results h hreset hr hcall
    refine .inr ⟨hout, rfl, .inl ⟨hplace, ?_, hset⟩⟩
    rw [← hrefuses]
    exact hj

theorem ResetsUnsaved.neither (hr : ResetsUnsaved E.traced file s (.ok ()) s') (h : s.Sound) :
    s'.Neither := by
  cases hr with
  | reset hreset _ hw =>
    have h₁ := (ends_resetActive h).at_ok hreset
    obtain ⟨journal, -, rfl⟩ := hw
    exact ⟨h₁.parse, h₁.completion⟩

/-! ## Responses -/

def Answers (E : Engine σ) (s : Session (Traced σ)) (move : FileSystem × Operation)
    (response : String) : Prop :=
  (step E.traced s move).out = s.out ++ response

def Succeeds (E : Engine σ) (s : Session (Traced σ)) (move : FileSystem × Operation) : Prop :=
  Answers E s move (Response.success ++ "\n")

theorem Answers.unique {move : FileSystem × Operation} {a b : String} (ha : Answers E s move a)
    (hb : Answers E s move b) : a = b :=
  (String.append_right_inj _).mp (ha.symm.trans hb)

theorem success_ne_error (kind message : String) (details : List Response.Atom) :
    Response.success ++ "\n" ≠ Response.error kind message details ++ "\n" := by
  intro h
  have h := congrArg (fun t => (String.toList t)[1]?) h
  simp [Response.success, Response.error] at h

/-- The move stops before it answers, since there is a number that cannot be written. -/
structure Silenced (E : Engine σ) (s : Session (Traced σ)) (move : FileSystem × Operation) : Prop where
  answers : Answers E s move ""
  stops : ∃ e, (perform E.traced move.2 { s with files := move.1 }).1 = .error e ∧ e.isLength = true
  cause : (∃ file line column flags, move.2 = .complete file line column flags ∧
    isWritable line column = false) ∨
      Pool.Overlong s.settings s.pool (step E.traced s move).pool

/-- The move has its results, and stops before it answers, since the log does not take its place. -/
structure Unlogged (E : Engine σ) (s : Session (Traced σ)) (move : FileSystem × Operation) :
    Prop extends Silenced E s move where
  refuses : s.pool.journal.refuses .debug = true
  results : ∃ made set reply entries, reply.result = .ok entries ∧
    (step E.traced s move).calls = s.calls ++ made ++ [⟨.completionResults set, reply⟩]

theorem Silenced.not_succeeds {move : FileSystem × Operation} (h : Silenced E s move) :
    ¬ Succeeds E s move := by
  intro hs
  exact absurd (hs.unique h.answers) (by decide)

theorem step_parse_decides (h : s.Sound) {files : FileSystem}
    (ha : Trace.Answered (step E.traced s (files, .parse file flags)).calls) :
    Succeeds E s (files, .parse file flags) ∧
        HoldsUnit s file flags (step E.traced s (files, .parse file flags)) ∨
      (step E.traced s (files, .parse file flags)).Neither ∧
        (Answers E s (files, .parse file flags) (Response.parseError file ++ "\n") ∨
          Silenced E s (files, .parse file flags)) := by
  have hp := parses_parse (E := E.traced) file flags { s with files }
  rcases hr : parse E.traced file flags { s with files } with ⟨e | _, s'⟩
  · have hs' : step E.traced s (files, .parse file flags) = s' := congrArg Prod.snd hr
    rw [hs'] at ha ⊢
    rcases (hp.at_error hr).unanswered (h.withFiles files) with hf | ⟨hout, hneither, hlength, hlong⟩
    · exact absurd ha (Trace.not_answered_of_failed hf)
    · refine .inr ⟨hneither, .inr ⟨?_, ⟨e, congrArg Prod.fst hr, hlength⟩, .inr ?_⟩⟩
      · rw [Answers, hs', hout, String.append_empty]
      · rw [hs']
        exact hlong
  · have hs' : step E.traced s (files, .parse file flags) = s' := congrArg Prod.snd hr
    rw [Succeeds, Answers, Answers, hs']
    rcases (hp.at_ok hr).answered (h.withFiles files) with ⟨hout, hunit⟩ | ⟨hout, hneither⟩
    · exact .inl ⟨hout, hunit.completion, hunit.unit⟩
    · exact .inr ⟨hneither, .inl hout⟩

theorem step_complete_decides (h : s.Sound) {files : FileSystem}
    (ha : Trace.Answered (step E.traced s (files, .complete file line column flags)).calls) :
    (Succeeds E s (files, .complete file line column flags) ∨
        Unlogged E s (files, .complete file line column flags)) ∧
      HoldsSet s file line column (step E.traced s (files, .complete file line column flags)) ∨
    ¬ Unlogged E s (files, .complete file line column flags) ∧
      (step E.traced s (files, .complete file line column flags)).Neither ∧
      (isWritable line column = true ∧
          Answers E s (files, .complete file line column flags)
            (Response.completeError file line column ++ "\n") ∨
        Silenced E s (files, .complete file line column flags)) := by
  have hc : (complete E.traced file line column flags).Ends { s with files } _ _ :=
    completes_complete { s with files }
  rcases hr : complete E.traced file line column flags { s with files } with ⟨e | _, s'⟩
  · have hs' : step E.traced s (files, .complete file line column flags) = s' := congrArg Prod.snd hr
    have hanswers : s'.out = s.out → Answers E s (files, .complete file line column flags) "" := by
      intro hout
      rw [Answers, hs', hout, String.append_empty]
    rw [hs'] at ha ⊢
    rcases (hc.at_error hr).unanswered (h.withFiles files) with hf | ⟨hout, hlength, hstop⟩
    · exact absurd ha (Trace.not_answered_of_failed hf)
    rcases hstop with ⟨hplace, hrefuses, hset⟩ | ⟨hcause, hneither, new, hcalls, hnew⟩
    · refine .inl ⟨.inr ⟨⟨hanswers hout, ⟨e, congrArg Prod.fst hr, hlength⟩,
        .inl ⟨file, line, column, flags, rfl, hplace⟩⟩, hrefuses, ?_⟩, hset.parse, hset.set⟩
      obtain ⟨id, entries, made, unit, reply, reply', -, -, hreply', hcalls⟩ := hset.set
      refine ⟨made ++ [⟨.codeComplete unit file line column s.overlays.pairs, reply⟩], id, reply',
        entries, hreply', ?_⟩
      rw [hs', hcalls]
      simp
    · refine .inr ⟨fun hunlogged => ?_, hneither, .inr ⟨hanswers hout,
        ⟨e, congrArg Prod.fst hr, hlength⟩, hcause.imp (fun hplace => ⟨_, _, _, _, rfl, hplace⟩)
          fun hlong => hs' ▸ hlong⟩⟩
      -- no results were read
      obtain ⟨made, set, reply, entries, -, hresults⟩ := hunlogged.results
      rw [hs', show s'.calls = s.calls ++ new from hcalls, List.append_assoc] at hresults
      refine hnew ⟨.completionResults set, reply⟩ ?_ rfl
      rw [List.append_cancel_left hresults]
      simp
  · have hs' : step E.traced s (files, .complete file line column flags) = s' := congrArg Prod.snd hr
    rcases (hc.at_ok hr).answered (h.withFiles files) with ⟨hout, hset⟩ | ⟨hplace, hout, hneither⟩
    · refine .inl ⟨.inl ?_, ?_⟩
      · rw [Succeeds, Answers, hs', hout]
      · rw [hs']
        exact ⟨hset.parse, hset.set⟩
    · refine .inr ⟨fun hunlogged => ?_, hs' ▸ hneither, .inl ⟨hplace, ?_⟩⟩
      · obtain ⟨e, he, -⟩ := hunlogged.stops
        cases (congrArg Prod.fst hr).symm.trans he
      · rw [Answers, hs', hout]

theorem step_decides (h : s.Sound) {move : FileSystem × Operation} (hmove : move.2.decides = true)
    (ha : Trace.Answered (step E.traced s move).calls) :
    ((step E.traced s move).activeParse.isSome ↔ move.2.parses = true ∧ Succeeds E s move) ∧
      ((step E.traced s move).activeCompletion.isSome ↔
        move.2.completes = true ∧ (Succeeds E s move ∨ Unlogged E s move)) := by
  obtain ⟨files, op⟩ := move
  cases op with
  | parse file flags =>
    rcases step_parse_decides h ha with ⟨hsucceeds, hunit⟩ | ⟨hneither, hanswers⟩
    · obtain ⟨u, -, -, -, hu, -⟩ := hunit.unit
      simp [hu, hunit.completion, Operation.parses, Operation.completes, hsucceeds]
    · have hfails : ¬ Succeeds E s (files, .parse file flags) := by
        intro hs
        rcases hanswers with hanswers | hsilenced
        · exact success_ne_error _ _ _ (hs.unique hanswers)
        · exact hsilenced.not_succeeds hs
      simp [hneither.1, hneither.2, hfails, Operation.completes]
  | complete file line column flags =>
    rcases step_complete_decides h ha with ⟨hsucceeds, hset⟩ | ⟨hlogged, hneither, hanswers⟩
    · obtain ⟨id, entries, -, -, -, -, hactive, -⟩ := hset.set
      simp [hactive, hset.parse, Operation.parses, Operation.completes, hsucceeds]
    · have hfails : ¬ Succeeds E s (files, .complete file line column flags) := by
        intro hs
        rcases hanswers with ⟨-, hanswers⟩ | hsilenced
        · exact success_ne_error _ _ _ (hs.unique hanswers)
        · exact hsilenced.not_succeeds hs
      simp [hneither.1, hneither.2, hfails, hlogged]
  | resetUnsaved file =>
    have hneither := Act.Ends.state (P := fun s' => Trace.Answered s'.calls → s'.Neither)
      ((resetsUnsaved_resetUnsaved (E := E.traced) file { s with files }).mono
        (fun _ _ hr _ => hr.neither (h.withFiles files)) fun e s' hr ha' => by
          cases hr with
          | unreset hreset =>
            have hf := ((ends_resetActive (h.withFiles files)).at_error hreset).2.failed
            exact absurd ha' (Trace.not_answered_of_failed hf)) ha
    simp [step, perform, hneither.1, hneither.2, Operation.parses, Operation.completes]
  | resetActive =>
    have hneither := Act.Ends.state (P := fun s' => Trace.Answered s'.calls → s'.Neither)
      ((ends_resetActive (E := E) (h.withFiles files)).mono
        (fun _ _ h' _ => ⟨h'.parse, h'.completion⟩)
        fun _ _ hf ha' => absurd ha' (Trace.not_answered_of_failed hf.2.failed)) ha
    simp [step, perform, hneither.1, hneither.2, Operation.parses, Operation.completes]
  | _ => cases hmove

/-! ## Queries -/

theorem answers_known (op : Operation) (h : op.isQuery = true) (hr : op.asks? s = none)
    (files : FileSystem) : Answers E s (files, op) (op.knows s).text := by
  have hr' : op.asks? { s with files } = none := by
    rw [← hr]
    cases op <;> rfl
  have hknows : op.knows { s with files } = op.knows s := by
    cases op <;> rfl
  obtain ⟨s', hrun, journal, -, rfl⟩ := perform_known (E := E.traced) op h hr'
  rw [Answers, show step E.traced s (files, op) = _ from congrArg Prod.snd hrun, hknows]

theorem answers_candidates {set : ActiveCompletion} (hset : s.activeCompletion = some set)
    (h : ∀ entry ∈ set.entries, entry.unreadable = none) (files : FileSystem) (typed : String)
    (style : MatchStyle) :
    let found := CodeSense.candidates (set.entries.map (·.completion)) typed style
    Answers E s (files, .candidates typed style)
      (if found.all (·.isWritable) then candidateList found
      else listBeginning (found.takeWhile (·.isWritable))) := by
  have hanswers := answers_known (E := E) (s := s) (.candidates typed style) rfl rfl files
  simp only [Operation.knows, hset] at hanswers
  have hclear : ∀ entry ∈ set.entries, entry.isBlocked = false := fun entry hentry =>
    ResultEntry.isBlocked_of_readable (h entry hentry)
  rwa [(shownCandidates_clear hclear typed style).1] at hanswers

theorem answers_without_set (h : s.activeCompletion = none) (files : FileSystem) :
    (∀ typed style, Answers E s (files, .candidates typed style) (Response.nil ++ "\n")) ∧
      Answers E s (files, .completionDiagnostics) "(\n)\n" := by
  refine ⟨fun typed style => ?_, answers_known _ rfl (by simp [Operation.asks?, h]) files⟩
  have hanswers := answers_known (E := E) (s := s) (.candidates typed style) rfl rfl files
  simpa [Operation.knows, h, Listing.text] using hanswers

theorem answers_without_unit (h : s.activeParse = none) (files : FileSystem) :
    Answers E s (files, .diagnostics) "(\n)\n" ∧
      ∀ line column, Answers E s (files, .getType line column) Response.nil := by
  have hunit : s.activeUnit? = none := by
    rw [activeUnit?, h]
    rfl
  refine ⟨answers_known _ rfl (by simp [Operation.asks?, hunit]) files, fun line column => ?_⟩
  exact answers_known _ rfl (by simp [Operation.asks?, hunit]) files

/-! ## Runs -/

/-- The move after `past` is the last one that decides. -/
def Last (moves past : List (FileSystem × Operation)) (move : FileSystem × Operation) : Prop :=
  ∃ later, moves = past ++ move :: later ∧ move.2.decides = true ∧
    ∀ m ∈ later, m.2.decides = false

theorem exists_last (moves : List (FileSystem × Operation)) :
    (∀ move ∈ moves, move.2.decides = false) ∨ ∃ past move, Last moves past move := by
  induction moves with
  | nil => exact .inl (by simp)
  | cons move moves ih =>
    rcases ih with hnone | ⟨past, last, later, rfl, hlast⟩
    · cases hmove : move.2.decides with
      | true => exact .inr ⟨[], move, moves, rfl, hmove, hnone⟩
      | false => exact .inl (List.forall_mem_cons.mpr ⟨hmove, hnone⟩)
    · exact .inr ⟨move :: past, last, later, rfl, hlast⟩

theorem Last.kept {moves past : List (FileSystem × Operation)} {move : FileSystem × Operation}
    (h : Last moves past move) (s : Session (Traced σ)) :
    Kept (step E.traced (run E.traced s past) move) (run E.traced s moves) := by
  obtain ⟨later, rfl, -, hlater⟩ := h
  have hrun : run E.traced s (past ++ move :: later) =
      run E.traced (step E.traced (run E.traced s past) move) later := by
    unfold run
    rw [List.foldl_append]
    rfl
  rw [hrun]
  exact run_kept hlater _

theorem Last.answered {moves past : List (FileSystem × Operation)}
    {move : FileSystem × Operation} (h : Last moves past move)
    (ha : Trace.Answered (run E.traced s moves).calls) :
    Trace.Answered (step E.traced (run E.traced s past) move).calls := by
  obtain ⟨new, hcalls, -⟩ := (h.kept (E := E) s).calls
  rw [Session.calls, hcalls, Trace.answered_append] at ha
  exact ha.1

theorem Last.decides {moves past : List (FileSystem × Operation)} {move : FileSystem × Operation}
    (h : Last moves past move) : move.2.decides = true := by
  obtain ⟨-, -, hmove, -⟩ := h
  exact hmove

theorem run_settings (s : Session (Traced σ)) (moves : List (FileSystem × Operation)) :
    (run E.traced s moves).settings = s.settings := by
  induction moves generalizing s with
  | nil => rfl
  | cons move moves ih =>
    refine (ih (step E.traced s move)).trans ?_
    have hconduct := perform_conduct (E := E)
      (M := .ofRequests (fun _ => True) (move.2.keepsBuffers = true))
      { s with files := move.1 } move.2 Iff.rfl (fun _ _ => trivial) fun _ _ => trivial
    exact hconduct.settings

section
variable {start : Session (Traced σ)} {moves past : List (FileSystem × Operation)}
  {files : FileSystem} (hs : start.Sound) (ha : Trace.Answered (run E.traced start moves).calls)
include hs ha

theorem Last.holdsUnit (h : Last moves past (files, .parse file flags))
    (hsucceeds : Succeeds E (run E.traced start past) (files, .parse file flags)) :
    ∃ record made reply later, (run E.traced start moves).activeUnit? = some record ∧
      record.file = file ∧ record.flags = start.settings.compilerArguments flags ∧
      reply.result = .ok ErrorCode.success ∧
      (run E.traced start moves).calls = (run E.traced start past).calls ++ made ++
        ⟨.reparse record.handle (run E.traced start past).overlays.pairs, reply⟩ :: later ∧
      ∀ x ∈ later, x.request.kind ≠ .reparse := by
  have hkept := h.kept (E := E) start
  obtain ⟨later, hlater, hnot⟩ := hkept.calls
  rcases step_parse_decides (sound_run hs past) (h.answered ha) with
    ⟨-, hunit⟩ | ⟨-, hanswers | hsilenced⟩
  · obtain ⟨u, record, made, reply, hu, hrecord, hfile, hflags, hreply, hcalls⟩ := hunit.unit
    rw [run_settings] at hflags
    refine ⟨record, made, reply, later, ?_, hfile, hflags, hreply, ?_, hnot⟩
    · rw [activeUnit?, hkept.parse, hkept.cache, hu]
      exact hrecord
    · rw [Session.calls, hlater, show Pool.calls _ = _ from hcalls]
      simp
  · exact absurd (hsucceeds.unique hanswers) (success_ne_error _ _ _)
  · exact absurd hsucceeds hsilenced.not_succeeds

theorem Last.parseRefused (h : Last moves past (files, .parse file flags))
    (hfails : ¬ Succeeds E (run E.traced start past) (files, .parse file flags)) :
    (run E.traced start moves).Neither ∧
      (Answers E (run E.traced start past) (files, .parse file flags)
          (Response.parseError file ++ "\n") ∨
        Silenced E (run E.traced start past) (files, .parse file flags)) := by
  have hkept := h.kept (E := E) start
  rcases step_parse_decides (sound_run hs past) (h.answered ha) with hunit | ⟨hneither, hanswers⟩
  · exact absurd hunit.1 hfails
  · exact ⟨⟨hkept.parse.trans hneither.1, hkept.completion.trans hneither.2⟩, hanswers⟩

theorem Last.holdsSet (h : Last moves past (files, .complete file line column flags))
    (hsucceeds : Succeeds E (run E.traced start past) (files, .complete file line column flags) ∨
      Unlogged E (run E.traced start past) (files, .complete file line column flags)) :
    ∃ id entries made unit reply reply',
      (run E.traced start moves).activeCompletion = some (.ofResults id entries) ∧
      reply.result = .ok (some id) ∧ reply'.result = .ok entries ∧
      (step E.traced (run E.traced start past) (files, .complete file line column flags)).calls =
        (run E.traced start past).calls ++ made ++
          [⟨.codeComplete unit file line column (run E.traced start past).overlays.pairs, reply⟩,
            ⟨.completionResults id, reply'⟩] := by
  have hsome := (step_decides (sound_run hs past) h.decides (h.answered ha)).2.mpr ⟨rfl, hsucceeds⟩
  rcases step_complete_decides (sound_run hs past) (h.answered ha) with ⟨-, hset⟩ | ⟨-, hneither, -⟩
  · obtain ⟨id, entries, made, unit, reply, reply', hactive, hreply, hreply', hcalls⟩ := hset.set
    refine ⟨id, entries, made, unit, reply, reply', ?_, hreply, hreply', hcalls⟩
    exact (h.kept start).completion.trans hactive
  · rw [hneither.2] at hsome
    cases hsome

theorem Last.completionRefused (h : Last moves past (files, .complete file line column flags))
    (hfails : ¬ Succeeds E (run E.traced start past) (files, .complete file line column flags))
    (hlogged : ¬ Unlogged E (run E.traced start past) (files, .complete file line column flags)) :
    (run E.traced start moves).Neither ∧
      (isWritable line column = true ∧
          Answers E (run E.traced start past) (files, .complete file line column flags)
            (Response.completeError file line column ++ "\n") ∨
        Silenced E (run E.traced start past) (files, .complete file line column flags)) := by
  have hkept := h.kept (E := E) start
  rcases step_complete_decides (sound_run hs past) (h.answered ha) with
    ⟨hsucceeds, -⟩ | ⟨-, hneither, hanswers⟩
  · exact (hsucceeds.elim hfails hlogged).elim
  · exact ⟨⟨hkept.parse.trans hneither.1, hkept.completion.trans hneither.2⟩, hanswers⟩

end

structure Decided (E : Engine σ) (start : Session (Traced σ))
    (moves : List (FileSystem × Operation)) (s : Session (Traced σ)) : Prop where
  parse : s.activeParse.isSome ↔ ∃ past move, Last moves past move ∧ move.2.parses = true ∧
    Succeeds E (run E.traced start past) move
  completion : s.activeCompletion.isSome ↔ ∃ past move, Last moves past move ∧
    move.2.completes = true ∧
    (Succeeds E (run E.traced start past) move ∨ Unlogged E (run E.traced start past) move)
  /-- The unit was last brought up to date by that parse, with the buffers of that time. -/
  parseHeld : ∀ past files file flags, Last moves past (files, .parse file flags) →
    Succeeds E (run E.traced start past) (files, .parse file flags) →
    ∃ record made reply later, s.activeUnit? = some record ∧ record.file = file ∧
      record.flags = start.settings.compilerArguments flags ∧
      reply.result = .ok ErrorCode.success ∧
      s.calls = (run E.traced start past).calls ++ made ++
        ⟨.reparse record.handle (run E.traced start past).overlays.pairs, reply⟩ :: later ∧
      ∀ x ∈ later, x.request.kind ≠ .reparse
  /-- The results are those that the last two calls of that completion brought. -/
  completionHeld : ∀ past files file line column flags,
    Last moves past (files, .complete file line column flags) →
    Succeeds E (run E.traced start past) (files, .complete file line column flags) ∨
      Unlogged E (run E.traced start past) (files, .complete file line column flags) →
    ∃ id entries made unit reply reply', s.activeCompletion = some (.ofResults id entries) ∧
      reply.result = .ok (some id) ∧ reply'.result = .ok entries ∧
      (step E.traced (run E.traced start past) (files, .complete file line column flags)).calls =
        (run E.traced start past).calls ++ made ++
          [⟨.codeComplete unit file line column (run E.traced start past).overlays.pairs, reply⟩,
            ⟨.completionResults id, reply'⟩]
  parseRefused : ∀ past files file flags, Last moves past (files, .parse file flags) →
    ¬ Succeeds E (run E.traced start past) (files, .parse file flags) →
    s.Neither ∧ (Answers E (run E.traced start past) (files, .parse file flags)
      (Response.parseError file ++ "\n") ∨
        Silenced E (run E.traced start past) (files, .parse file flags))
  completionRefused : ∀ past files file line column flags,
    Last moves past (files, .complete file line column flags) →
    ¬ Succeeds E (run E.traced start past) (files, .complete file line column flags) →
    ¬ Unlogged E (run E.traced start past) (files, .complete file line column flags) →
    s.Neither ∧
      (isWritable line column = true ∧
          Answers E (run E.traced start past) (files, .complete file line column flags)
            (Response.completeError file line column ++ "\n") ∨
        Silenced E (run E.traced start past) (files, .complete file line column flags))
  asked : ∀ files op, op.decides = false → Asked (op.asks s) s (step E.traced s (files, op))
  /-- A candidate that cannot be written breaks the list off. -/
  listed : ∀ set, s.activeCompletion = some set → ∀ files typed style,
    let found := CodeSense.candidates (set.entries.map (·.completion)) typed style
    Answers E s (files, .candidates typed style)
      (if found.all (·.isWritable) then candidateList found
      else listBeginning (found.takeWhile (·.isWritable)))
  withoutSet : s.activeCompletion = none → ∀ files,
    (∀ typed style, Answers E s (files, .candidates typed style) (Response.nil ++ "\n")) ∧
      Answers E s (files, .completionDiagnostics) "(\n)\n"
  withoutUnit : s.activeParse = none → ∀ files,
    Answers E s (files, .diagnostics) "(\n)\n" ∧
      ∀ line column, Answers E s (files, .getType line column) Response.nil

/-- **What is active is decided by the last operation that decides.** This is so after any
operations, over an engine that meets no fault. Numbers that cannot be written keep the operation
from answering. -/
theorem active_decided (state : σ) (settings : Settings) (journal : Journal)
    (moves : List (FileSystem × Operation))
    (hf : Trace.Faultless (run E.traced (opened state settings journal) moves).calls) :
    Decided E (opened state settings journal) moves
      (run E.traced (opened state settings journal) moves) := by
  have hopened := sound_opened state settings journal
  have hsound := sound_run (E := E) hopened moves
  have ha := hf.answered
  -- before the first move that decides, nothing is active
  have hnothing : (∀ move ∈ moves, move.2.decides = false) →
      (run E.traced (opened state settings journal) moves).Neither := by
    intro hnone
    have hkept := run_kept (E := E) hnone (opened state settings journal)
    exact ⟨hkept.parse, hkept.completion⟩
  have hdecides : ∀ past move, Last moves past move → _ := fun past move hlast =>
    step_decides (E := E) (sound_run hopened past) hlast.decides (hlast.answered ha)
  refine ⟨⟨fun hp => ?_, ?_⟩, ⟨fun hc => ?_, ?_⟩,
    fun _ _ _ _ => Last.holdsUnit hopened ha, fun _ _ _ _ _ _ => Last.holdsSet hopened ha,
    fun _ _ _ _ => Last.parseRefused hopened ha,
    fun _ _ _ _ _ _ => Last.completionRefused hopened ha,
    fun files op hop => @step_asked _ E (files, op) hop _, fun set hset => ?_, answers_without_set,
    answers_without_unit⟩
  · rcases exists_last moves with hnone | ⟨past, move, hlast⟩
    · rw [(hnothing hnone).1] at hp
      cases hp
    · rw [(hlast.kept _).parse] at hp
      exact ⟨past, move, hlast, (hdecides past move hlast).1.mp hp⟩
  · rintro ⟨past, move, hlast, hmove⟩
    rw [(hlast.kept _).parse]
    exact (hdecides past move hlast).1.mpr hmove
  · rcases exists_last moves with hnone | ⟨past, move, hlast⟩
    · rw [(hnothing hnone).2] at hc
      cases hc
    · rw [(hlast.kept _).completion] at hc
      exact ⟨past, move, hlast, (hdecides past move hlast).2.mp hc⟩
  · rintro ⟨past, move, hlast, hmove⟩
    rw [(hlast.kept _).completion]
    exact (hdecides past move hlast).2.mpr hmove
  · refine answers_candidates hset fun entry hentry => ?_
    cases hu : entry.unreadable with
    | none => rfl
    | some e => exact absurd (hsound.entries set hset entry hentry e hu) hf.not_raised

/-- A parse gives way to a completion, and a failed reparse leaves the next parse without a unit. -/
theorem active_decided_completed :
    let start : Session (Traced Script) := opened { reparses := [0, 1], completions := [some
      { completions := [{ priority := 2, chunks := [⟨.typedText, "x"⟩] }] }] } {} {}
    let moves : List (FileSystem × Operation) := [({}, .parse "a" []), ({}, .diagnostics),
      ({}, .complete "a" 1 1 []), ({}, .candidates "" .exact)]
    let more := moves ++ [(({} : FileSystem), Operation.parse "a" [])]
    let s := run Script.engine.traced start moves
    let s' := run Script.engine.traced start more
    Decided Script.engine start moves s ∧ s.activeCompletion.map (·.handle) = some 2 ∧
      Decided Script.engine start more s' ∧ s'.activeParse = none ∧ s'.activeCompletion.isNone :=
  ⟨active_decided _ _ _ _ (by decide +kernel), by decide +kernel,
    active_decided _ _ _ _ (by decide +kernel), by decide +kernel, by decide +kernel⟩

/-- Without results, a place that cannot be written is not answered with an error. -/
theorem completion_unanswered :
    let start : Session (Traced Script) := opened { parses := [(1, false)] } {} {}
    let line := Int.ofNat (Nat.pow 10 Text.maxDigits)
    let move : FileSystem × Operation := ({}, .complete "a.c" line 1 [])
    Trace.Faultless (step Script.engine.traced start move).calls ∧
      ¬ Succeeds Script.engine start move ∧
      ¬ Answers Script.engine start move (Response.completeError "a.c" line 1 ++ "\n") := by
  intro start line move
  have hout : (step Script.engine.traced start move).out = "" := by decide +kernel
  have hsilent : ∀ text, ¬ Answers Script.engine start move (text ++ "\n") := by
    intro text h
    rw [Answers, hout] at h
    have hlength := congrArg String.length h
    rw [String.length_append, String.length_append, show "\n".length = 1 from rfl] at hlength
    simp at hlength
  exact ⟨by decide +kernel, hsilent _, hsilent _⟩

end Session

end CodeSense
