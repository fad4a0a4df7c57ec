import CodeSense.Proofs.Command.Literals
import CodeSense.Proofs.Engine
import CodeSense.Proofs.Server.Twins
import CodeSense.Proofs.Session.Effects

/-!
# Queries and verbosity

Commands that only show something, and those that set how much is logged, can be left out, and the
server can start with any verbosity: the other commands are answered the same, and the session ends
the same (`queries_unnoticed`). The engine has its part in this: it must not change its mind when it
is queried.
-/

namespace CodeSense

def kept {α : Type} (marked : List (α × Bool)) : List α := (marked.filter (·.2)).map (·.1)

/-! ## The engine -/

namespace Trace

/-- The calls that are no queries, with what they came to. -/
def lasting (calls : List Call) : List ((r : Request) × Except Fault r.Answer) :=
  (calls.filter (!·.request.isQuery)).map fun c => ⟨c.request, c.reply.result⟩

theorem lasting_snoc_query (calls : List Call) {r : Request} (hr : r.isQuery = true)
    (reply : Reply r.Answer) : lasting (calls ++ [⟨r, reply⟩]) = lasting calls := by
  simp [lasting, hr]

theorem lasting_snoc {calls calls' : List Call} (h : lasting calls = lasting calls') {r : Request}
    {reply reply' : Reply r.Answer} (hreply : reply.result = reply'.result) :
    lasting (calls ++ [⟨r, reply⟩]) = lasting (calls' ++ [⟨r, reply'⟩]) := by
  cases hr : r.isQuery with
  | true => rw [lasting_snoc_query calls hr, lasting_snoc_query calls' hr, h]
  | false =>
    unfold lasting at h ⊢
    rw [List.filter_append, List.filter_append, List.map_append, List.map_append, h]
    simp [hr, hreply]

end Trace

variable {σ : Type} {E : Engine σ}

/-- The engines answer the same from now on, and were asked the same but for queries. -/
structure Unnoticed (E : Engine σ) (a b : Traced σ) : Prop where
  state : E.Indistinct a.state b.state
  steady : E.Steady a.state
  lasting : Trace.lasting a.calls = Trace.lasting b.calls

theorem unnoticed_respects (E : Engine σ) : E.traced.Respects (Unnoticed E) where
  result r _ _ h := (h.state.call r).1
  state r _ _ h :=
    ⟨(h.state.call r).2, h.steady.call r, Trace.lasting_snoc h.lasting (h.state.call r).1⟩

theorem Unnoticed.query {a b : Traced σ} (h : Unnoticed E a b) {r : Request}
    (hr : r.isQuery = true) : Unnoticed E (E.traced.call r a).2 b where
  state := (h.steady.query hr).trans h.state
  steady := h.steady.call r
  lasting := (Trace.lasting_snoc_query a.calls hr _).trans h.lasting

/-! ## Operations -/

theorem Operation.isQuery_of_asks {s : Session (Traced σ)} {op : Operation} {r : Request}
    (h : op.asks? s = some r) : r.isQuery = true := by
  cases inquires_of_asks? h <;> rfl

namespace Session

/-- Nothing was done but to query the engine, to write and to log. -/
structure Still (E : Engine σ) (s s' : Session (Traced σ)) : Prop where
  engine : ∀ b, Unnoticed E s.pool.engine b → Unnoticed E s'.pool.engine b
  refuses : ∀ level, level ≠ .debug →
    s'.pool.journal.refuses level = s.pool.journal.refuses level
  cache : s'.pool.cache = s.pool.cache
  settings : s'.settings = s.settings
  overlays : s'.overlays = s.overlays
  parse : s'.activeParse = s.activeParse
  completion : s'.activeCompletion = s.activeCompletion

variable {s t u : Session (Traced σ)}

theorem Still.trans (h : Still E s t) (h' : Still E t u) : Still E s u where
  engine b hb := h'.engine b (h.engine b hb)
  refuses level hlevel := (h'.refuses level hlevel).trans (h.refuses level hlevel)
  cache := h'.cache.trans h.cache
  settings := h'.settings.trans h.settings
  overlays := h'.overlays.trans h.overlays
  parse := h'.parse.trans h.parse
  completion := h'.completion.trans h.completion

theorem Wrote.still {text : String} (h : Wrote text s t) : Still E s t := by
  obtain ⟨journal, hj, rfl⟩ := h
  exact ⟨fun _ hb => hb, fun level _ => congrFun hj level, rfl, rfl, rfl, rfl, rfl⟩

theorem still_of_call {r : Request} {o : Except Fault r.Answer} (hr : r.isQuery = true)
    (h : call E.traced r s = (o, t)) : Still E s t := by
  obtain rfl := congrArg (·.2) h.symm
  exact ⟨fun _ hb => hb.query hr, fun level _ => congrFun (Journal.refuses_foldl_record ..) level,
    rfl, rfl, rfl, rfl, rfl⟩

theorem perform_still {op : Operation} (hop : op.isQuery = true) (s : Session (Traced σ)) :
    Still E s (perform E.traced op s).2 := by
  have hqueried := queried_perform (E := E.traced) hop s
  generalize perform E.traced op s = run at hqueried
  obtain ⟨o, s'⟩ := run
  cases hqueried with
  | known hr hw => exact hw.still
  | failed hr hcall => exact still_of_call (Operation.isQuery_of_asks hr) hcall
  | told hr hcall hw => exact (still_of_call (Operation.isQuery_of_asks hr) hcall).trans hw.still

end Session

/-! ## Commands -/

def Verb.isQuery : Verb → Bool
  | help | candidates | diagnostics | completionDiagnostics | getType | getCompileOptions
  | setDebug => true
  | _ => false

/-- Whether a command only shows something, or sets how much is logged. -/
def Words.isQuery : List String → Bool
  | [] => false
  | verb :: _ => (Verb.ofName? verb).any (·.isQuery)

def Task.isQuery : Task → Bool
  | .usage | .verbosity _ => true
  | .leave => false
  | .operation op => op.isQuery

theorem Task.isQuery_of_words {path : String} {words : List String} {task : Task}
    (h : ofWords path words = .ok task) (hwords : Words.isQuery words = true) :
    task.isQuery = true := by
  obtain ⟨v, rest, rfl, hfits, hread⟩ := ofWords_ok h
  have hv : v.isQuery = true := by simpa [Words.isQuery, Verb.ofName?_name] using hwords
  generalize (Words.splitFlags rest).1 = args at hfits hread
  cases hfits with
  | candidatesStyled typed name =>
    obtain ⟨style, -, hread⟩ := bind_eq_ok_iff.mp hread
    cases hread
    rfl
  | getType line column =>
    obtain ⟨m, -, hread⟩ := bind_eq_ok_iff.mp hread
    obtain ⟨n, -, hread⟩ := bind_eq_ok_iff.mp hread
    cases hread
    rfl
  | setDebug value =>
    obtain ⟨on, -, hread⟩ := bind_eq_ok_iff.mp hread
    cases hread
    rfl
  | _ =>
    simp [Verb.isQuery] at hv
    all_goals
      cases hread
      rfl

def Source.place? (s : Source) : Option (Int × Int) :=
  match s.command with
  | [] => none
  | verb :: rest =>
    match Verb.ofName? verb, (Words.splitFlags rest).1 with
    | some .complete, [_, l, c] => do return (← Integer.parse? l, ← Integer.parse? c)
    | _, _ => none

def Source.isLegible (s : Source) : Bool :=
  s.place?.all fun p => Session.isWritable p.1 p.2

theorem Source.legible {source : Source} {words : List String} (path : String)
    (h : source.isLegible = true) (hsplit : source.split = .ok words) :
    Server.Legible path words := by
  intro file line column flags htask
  obtain ⟨v, rest, rfl, hfits, hread⟩ := Task.ofWords_ok htask
  unfold isLegible place? at h
  rw [command_of_split hsplit] at h
  dsimp only at h
  rw [Verb.ofName?_name] at h
  generalize (Words.splitFlags rest).1 = args at hfits hread h
  cases hfits <;> simp only [Task.ofArguments, Task.bind_eq_ok_iff, Except.ok.injEq,
    Task.operation.injEq, Operation.complete.injEq, reduceCtorEq, and_false, exists_false] at hread
  obtain ⟨l, hl, c, hc, -, rfl, rfl, -⟩ := hread
  simpa [Integer.parse?_of_parseNat hl, Integer.parse?_of_parseNat hc] using h

/-! ## Verbosity -/

theorem Journal.refuses_info {j : Journal} {level : Level} (h : j.refuses level = true) :
    j.refuses .info = true := by
  unfold refuses keeps at *
  simp_all

/-- Verbosity matters to strict logs only. -/
theorem Journal.Alike.of_still {loose : Prop} {a a' b : Journal} (h : a.Alike loose b)
    (hstrict : a.refuses .info = true → loose)
    (ha : ∀ level, level ≠ .debug → a'.refuses level = a.refuses level) : a'.Alike loose b := by
  intro level hlevel
  by_cases hdebug : level = .debug
  · have hlax : a.refuses .info ≠ true := fun hinfo => hlevel (hstrict hinfo) hdebug
    have hleft : a'.refuses level = false := by
      refine Bool.eq_false_iff.mpr fun h' => hlax ?_
      rw [← ha .info nofun]
      exact refuses_info h'
    have hright : a.refuses level = false :=
      Bool.eq_false_iff.mpr fun h' => hlax (refuses_info h')
    rw [hleft, ← hright]
    exact h level hlevel
  · rw [ha level hdebug]
    exact h level hlevel

def Slack.queried (E : Engine σ) (loose : Prop) (out : String → String → Prop)
    (append : ∀ {a b : String} (text : String), out a b → out (a ++ text) (b ++ text)) :
    Slack (Traced σ) where
  engine := Unnoticed E
  loose
  files := Eq
  out
  append

def Slack.unheard (E : Engine σ) (loose : Prop) : Slack (Traced σ) :=
  .queried E loose (fun _ _ => True) fun _ h => h

/-- The same was written since it was `a` and `b`. -/
def Slack.since (E : Engine σ) (loose : Prop) (a b : String) : Slack (Traced σ) :=
  .queried E loose (fun x y => ∃ text, x = a ++ text ∧ y = b ++ text) fun more h => by
    obtain ⟨text, rfl, rfl⟩ := h
    exact ⟨text ++ more, String.append_assoc, String.append_assoc⟩

namespace Server

variable {files : FileSystem} {path : String} {s t s' t' : Server (Traced σ)}
  {words : List String} {response : String} {loose : Prop}

theorem strict_invariant (E : Engine σ) (loose : Prop) : Invariant E.traced
    fun s => s.session.pool.journal.refuses .info = true → loose where
  untouched h hs := by
    rw [h.refuses]
    exact hs
  emit _ _ hs := hs
  verbose on s hs h := by
    have hinfo : Level.info ≠ .debug := nofun
    exact hs (Journal.refuses_setVerbose s.session.pool.journal on hinfo ▸ h)
  perform op s hs := by
    have hrefuses := Session.perform_moves (Session.covers_refuses E.traced) op (fun _ _ => trivial)
      s.session
    exact fun h => hs (hrefuses ▸ h)

theorem Twin.since (h : Twin (.unheard E loose) files path s t) :
    Twin (.since E loose s.out t.out) files path s t where
  session := { h.session with
    out := ⟨"", String.append_empty.symm, String.append_empty.symm⟩ }
  left := h.left
  right := h.right

theorem Twin.forget {a b : String} (h : Twin (.since E loose a b) files path s t) :
    Twin (.unheard E loose) files path s t where
  session := { h.session with out := trivial }
  left := h.left
  right := h.right

/-- One of two twins may be still while the other goes on. -/
theorem Twin.still (h : Twin (.unheard E loose) files path s t)
    (hstrict : s.session.pool.journal.refuses .info = true → loose)
    (hs : Session.Still E s.session s'.session) (hhome : Home files path s') :
    Twin (.unheard E loose) files path s' t where
  session := {
    pool := {
      engine := hs.engine _ h.session.pool.engine
      cache := hs.cache.trans h.session.pool.cache
      journal := h.session.pool.journal.of_still hstrict hs.refuses }
    settings := hs.settings ▸ h.session.settings
    files := ⟨hhome.near, h.right.near⟩
    overlays := hs.overlays.trans h.session.overlays
    activeParse := hs.parse.trans h.session.activeParse
    activeCompletion := hs.completion.trans h.session.activeCompletion
    out := trivial }
  left := hhome
  right := h.right

section
variable (hfree : files.Free path)
include hfree

theorem execute_kept (h : Twin (.unheard E loose) files path s t)
    (hlegible : loose → Legible path words) (hspares : Spares files path words)
    (hexecute : execute E.traced words s = (.ok (), s')) (hout : s'.out = s.out ++ response) :
    ∃ t', execute E.traced words t = (.ok (), t') ∧ t'.out = t.out ++ response ∧
      Twin (.unheard E loose) files path (frame s').2 (frame t').2 := by
  obtain ⟨hresult, htwin⟩ := execute_twin hfree (unnoticed_respects E) h.since rfl hlegible hspares
  rw [hexecute] at hresult htwin
  rcases hexecute' : execute E.traced words t with ⟨result, t'⟩
  rw [hexecute'] at hresult htwin
  obtain rfl : Except.ok () = result := hresult
  obtain ⟨text, htext, htext'⟩ := htwin.session.out
  obtain rfl : text = response := (String.append_right_inj _).mp (htext.symm.trans hout)
  exact ⟨t', rfl, htext', (htwin.emit Response.endOfResponse).forget⟩

theorem execute_dropped (h : Twin (.unheard E loose) files path s t)
    (hstrict : s.session.pool.journal.refuses .info = true → loose)
    (hquery : Words.isQuery words = true) (hexecute : execute E.traced words s = (.ok (), s')) :
    Twin (.unheard E loose) files path (frame s').2 t := by
  have hhome := home_invariant E.traced hfree
  have hleft := hhome.execute words h.left
  have hfollows := execute_follows E.traced words s
  rw [h.left.1.located] at hfollows
  rw [hexecute] at hleft
  generalize hresult : execute E.traced words s = result at hfollows
  rw [hexecute] at hresult
  have hframe : Home files path (frame s').2 := hhome.emit Response.endOfResponse hleft
  cases hfollows with
  | refused _ _ => cases hresult
  | barred _ _ _ => cases hresult
  | @carried u task hu hreading =>
    have htwin := h.untouched hfree hu (.refl t)
    refine htwin.still (hu.refuses ▸ hstrict) ?_ hframe
    have htask := Task.isQuery_of_words hreading hquery
    cases task with
    | usage =>
      cases hresult
      exact ⟨fun _ hb => hb, fun _ _ => rfl, rfl, rfl, rfl, rfl, rfl⟩
    | leave => cases htask
    | verbosity on =>
      cases hresult
      exact ⟨fun _ hb => hb, fun _ hlevel => Journal.refuses_setVerbose _ on hlevel, rfl, rfl, rfl,
        rfl, rfl⟩
    | operation op =>
      have hstill := Session.perform_still (E := E) htask u.session
      have hsession : s'.session = (Session.perform E.traced op u.session).2 :=
        congrArg (·.2.session) hresult
      rw [← hsession] at hstill
      exact ⟨hstill.engine, hstill.refuses, hstill.cache, hstill.settings, hstill.overlays,
        hstill.parse, hstill.completion⟩

/-- A dropped command need not be completed by the second server. -/
theorem Completes.kept {choices : List (Source × Bool)} {exchanges : List Exchange}
    (hdone : Completes E s (choices.map (·.1)) exchanges s') (h : Twin (.unheard E loose) files path s t)
    (hstrict : s.session.pool.journal.refuses .info = true → loose)
    (hqueries : ∀ c ∈ choices, c.2 = false → Words.isQuery c.1.command = true)
    (hlegible : loose → ∀ c ∈ choices, ∀ words, c.1.split = .ok words → Legible path words)
    (hspares : ∀ c ∈ choices, ∀ words, c.1.split = .ok words → Spares files path words) :
    ∃ (answers : List (Exchange × Bool)) (t' : Server (Traced σ)),
      answers.map (·.1) = exchanges ∧ answers.map (·.2) = choices.map (·.2) ∧
      Completes E t (kept choices) (kept answers) t' ∧ Twin (.unheard E loose) files path s' t' := by
  induction choices generalizing s t exchanges with
  | nil =>
    cases hdone
    exact ⟨[], t, rfl, rfl, .nil, h⟩
  | cons choice choices ih =>
    obtain ⟨source, keep⟩ := choice
    obtain ⟨hquery, hqueries'⟩ := List.forall_mem_cons.mp hqueries
    obtain ⟨hspare, hspares'⟩ := List.forall_mem_cons.mp hspares
    have hlegible' (hloose : loose) := (List.forall_mem_cons.mp (hlegible hloose)).2
    cases hdone with
    | @cons _ u _ _ words response _ exchanges hsplit hexecute hout hrest =>
      have hinvariant := strict_invariant E loose
      have htake := hinvariant.take source words hstrict
      have hstrict' : (frame u).2.session.pool.journal.refuses .info = true → loose := by
        have hu := hinvariant.execute words htake
        rw [hexecute] at hu
        exact hinvariant.emit Response.endOfResponse hu
      cases keep with
      | true =>
        rw [← (take_prepared source words s).out] at hout
        obtain ⟨u', hexecute', hout', htwin⟩ :=
          execute_kept hfree (h.take hfree source source words words)
            (fun hloose => (List.forall_mem_cons.mp (hlegible hloose)).1 words hsplit)
            (hspare words hsplit) hexecute hout
        rw [(take_prepared source words t).out] at hout'
        obtain ⟨answers, t', rfl, hmarks, hdone', hend⟩ := ih hrest htwin hstrict' hqueries' hlegible' hspares'
        exact ⟨(⟨words, response⟩, true) :: answers, t', rfl, congrArg (true :: ·) hmarks,
          .cons hsplit hexecute' hout' hdone', hend⟩
      | false =>
        have hwords : Words.isQuery words = true := by
          rw [← Source.command_of_split hsplit]
          exact hquery rfl
        have htaken : Twin (.unheard E loose) files path (take source words s) t :=
          h.untouched hfree (take_untouched source words s) (.refl t)
        have htwin := execute_dropped hfree htaken htake hwords hexecute
        obtain ⟨answers, t', rfl, hmarks, hdone', hend⟩ := ih hrest htwin hstrict' hqueries' hlegible' hspares'
        exact ⟨(⟨words, response⟩, false) :: answers, t', rfl, congrArg (false :: ·) hmarks,
          hdone', hend⟩

end

theorem shutDown_twin {E : Engine σ} {V : Slack σ} {s t : Server σ} (hE : E.Respects V.engine)
    (h : Twin V files path s t) (ending : Ending) :
    (shutDown E ending s).1 = (shutDown E ending t).1 ∧
      V.engine (shutDown E ending s).2.session.pool.engine
        (shutDown E ending t).2.session.pool.engine := by
  obtain ⟨result, s', t', hs, ht, h'⟩ :=
    (Session.dispose_oblivious (V := V.besides files path) hE).run h.session
  have hs : onSession (Session.dispose E) s = (result, { s with session := s' }) := by
    simp [onSession, Act.within, hs]
  have ht : onSession (Session.dispose E) t = (result, { t with session := t' }) := by
    simp [onSession, Act.within, ht]
  unfold shutDown
  rw [hs, ht]
  cases result with
  | error e => exact ⟨rfl, h'.pool.engine⟩
  | ok _ =>
    dsimp only
    rw [closeScratch_engine, closeScratch_engine]
    exact ⟨rfl, h'.pool.engine⟩

theorem serve_of_reachedEnd {E : Engine σ} {sources : List Source} {s : Server σ}
    (h : (run E sources s).reachedEnd) :
    serve E sources s = shutDown E (.status 0) (run E sources s).final := by
  simp only [serve, h.2, conclude]

structure SameSession (s t : Server (Traced σ)) : Prop where
  cache : s.session.pool.cache = t.session.pool.cache
  overlays : s.session.overlays = t.session.overlays
  parse : s.session.activeParse = t.session.activeParse
  completion : s.session.activeCompletion = t.session.activeCompletion
  calls : Trace.lasting s.calls = Trace.lasting t.calls

theorem Twin.sameSession (h : Twin (.unheard E loose) files path s t) : SameSession s t where
  cache := h.session.pool.cache
  overlays := h.session.overlays
  parse := h.session.activeParse
  completion := h.session.activeCompletion
  calls := h.session.pool.engine.lasting

theorem strict_initial {settings : Settings} {files : FileSystem} {path : String} {engine : σ}
    (h : (initial settings files path engine).session.pool.journal.refuses .info = true) :
    settings.logFile = none := by
  simpa [initial, Journal.refuses, Journal.keeps] using h

/-- How much is logged at the start may differ. -/
theorem initial_unheard {E : Engine σ} {state : σ} (hsteady : E.Steady state) (settings : Settings)
    (debug : Bool) (files : FileSystem) (path : String) :
    Twin (.unheard E (settings.logFile = none)) files path
      (initial settings files path ({ state } : Traced σ))
      (initial { settings with debug } files path ({ state } : Traced σ)) := by
  have hengine : Unnoticed E { state } { state } := ⟨fun _ => rfl, hsteady, rfl⟩
  have hsettings : settings.Alike { settings with debug } := ⟨rfl, rfl, fun _ => rfl⟩
  refine twin_initial hsettings files path hengine trivial ?_
  exact Journal.Alike.of_still (fun _ _ => rfl) strict_initial
    fun _ hlevel => (Journal.refuses_setVerbose _ debug hlevel).symm

/-- **Queries go unnoticed.** Where commands complete one after another, those that only show
something or set the verbosity can be dropped, and the verbosity at the start is free. A log without
a file has a say only in completions at places that cannot be written. -/
theorem queries_unnoticed (E : Engine σ) {state : σ} (hsteady : E.Steady state)
    (settings : Settings) (debug : Bool) {files : FileSystem} {path : String}
    (hfree : files.Free path) (choices : List (Source × Bool))
    (hcommands : ∀ c ∈ choices, c.1.isBlank = false)
    (hqueries : ∀ c ∈ choices, c.2 = false → Words.isQuery c.1.command = true)
    (hplaces : settings.logFile = none → ∀ c ∈ choices, c.1.isLegible = true)
    (hspares : ∀ c ∈ choices, ∀ name, c.1.reads? = some name →
      ∀ file ∈ path :: settings.logFile.toList, files.locate name ≠ files.locate file) :
    let s := initial settings files path ({ state } : Traced σ)
    let t := initial { settings with debug } files path ({ state } : Traced σ)
    let r := run E.traced (choices.map (·.1)) s
    let r' := run E.traced (kept choices) t
    let u := serve E.traced (choices.map (·.1)) s
    let u' := serve E.traced (kept choices) t
    r.reachedEnd →
      (∃ answers : List (Exchange × Bool), answers.map (·.2) = choices.map (·.2) ∧
        Completes E s (choices.map (·.1)) (answers.map (·.1)) r.final ∧
        Completes E t (kept choices) (kept answers) r'.final) ∧
      r'.reachedEnd ∧ SameSession r.final r'.final ∧
      u.1 = u'.1 ∧ Trace.lasting u.2.calls = Trace.lasting u'.2.calls := by
  intro s t r r' u u' hend
  have hall : ∀ source ∈ choices.map (·.1), source.isBlank = false :=
    List.forall_mem_map.mpr hcommands
  have hsome : ∀ source ∈ kept choices, source.isBlank = false := by
    intro source hsource
    obtain ⟨c, hc, rfl⟩ := List.mem_map.mp hsource
    exact hcommands c (List.mem_filter.mp hc).1
  obtain ⟨exchanges, hdone⟩ := completes_of_reachedEnd hall hend
  obtain ⟨answers, t', rfl, hmarks, hdone', htwin⟩ :=
    hdone.kept hfree (initial_unheard hsteady settings debug files path) strict_initial hqueries
      (fun hlog c hc words => Source.legible path (hplaces hlog c hc))
      fun c hc _ => spares_of_reads? fun name hname => hspares c hc name hname path (by simp)
  obtain ⟨hend', hfinal : r'.final = t'⟩ := hdone'.run hsome
  subst hfinal
  refine ⟨⟨answers, hmarks, hdone, hdone'⟩, hend', htwin.sameSession, ?_⟩
  have hdown := shutDown_twin (unnoticed_respects E) htwin (.status 0)
  rw [← serve_of_reachedEnd hend, ← serve_of_reachedEnd hend'] at hdown
  exact ⟨hdown.1, hdown.2.lasting⟩

/-- Every kind of query is dropped, and `diagnostics` is kept once too. -/
theorem queries_unnoticed_dropped :
    let choices : List (Source × Bool) := [(.words ["set-debug", "on"], false),
      (.words ["get-compile-options", "-", "-"], false), (.line "parse - -- -x\n", true),
      (.words ["diagnostics"], true), (.words ["get-type", "1", "1"], false),
      (.words ["diagnostics"], false), (.line "complete - 1 1\n", true), (.words ["help"], false),
      (.words ["candidates"], false), (.words ["completion-diagnostics"], false)]
    let s : Server (Traced Script) := initial {} {} "s" { state := {} }
    let t : Server (Traced Script) := initial { debug := true } {} "s" { state := {} }
    let r := run Script.engine.traced (choices.map (·.1)) s
    let r' := run Script.engine.traced (kept choices) t
    r.reachedEnd ∧ r'.reachedEnd ∧ SameSession r.final r'.final ∧
      (∃ answers : List (Exchange × Bool), answers.map (·.2) = choices.map (·.2) ∧
        Completes Script.engine s (choices.map (·.1)) (answers.map (·.1)) r.final ∧
        Completes Script.engine t (kept choices) (kept answers) r'.final) ∧
      r.final.calls.length = 12 ∧ r'.final.calls.length = 8 := by
  intro choices s t r r'
  have hfree : ({} : FileSystem).Free "s" := ⟨by decide, ["s"], by decide +kernel, by decide⟩
  have hreads : ∀ c ∈ choices, c.1.reads? = none := by decide +kernel
  have hspares : ∀ c ∈ choices, ∀ name, c.1.reads? = some name →
      ∀ file ∈ "s" :: ({} : Settings).logFile.toList,
        ({} : FileSystem).locate name ≠ ({} : FileSystem).locate file := by
    intro c hc name hname
    rw [hreads c hc] at hname
    cases hname
  have hend : r.reachedEnd := ⟨by decide +kernel, by decide +kernel⟩
  obtain ⟨hanswers, hend', hsame, -⟩ :=
    queries_unnoticed Script.engine (Script.steady rfl) {} true hfree choices (by decide +kernel)
      (by decide +kernel) (fun _ => by decide +kernel) hspares hend
  exact ⟨hend, hend', hsame, hanswers, by decide +kernel, by decide +kernel⟩

theorem execute_completeAt (E : Engine σ) (s : Server σ) {line : String} {n : Nat}
    (hline : Integer.parseNat "Line" line = .ok n) :
    execute E ["complete", "a.c", line, "1"] s =
      perform E (.complete "a.c" n 1 []) (logFlags "complete" "a.c" [] s).2 := by
  have hverb : Verb.ofName? "complete" = some .complete := by decide
  have hsplit : Words.splitFlags ["a.c", line, "1"] = (["a.c", line, "1"], []) := by
    simp [Words.splitFlags, Integer.ne_separator hline]
  have hcolumn : Integer.parseNat "Column" "1" = .ok 1 := by decide
  simp only [execute, hverb, hsplit, obey, resolve, integer, hline, hcolumn]
  rfl

/-- Where debug entries are kept, a completion at a place that cannot be written breaks the loop, and
is not answered. -/
theorem completion_minds_verbosity :
    let words := ["complete", "a.c", Integer.rendering 'x' 16 (10 ^ 4300), "1"]
    let start : Bool → Server (Traced Script) := fun debug =>
      initial { debug } {} "s" { state := {} }
    let quiet := execute Script.engine.traced words (start false)
    let verbose := execute Script.engine.traced words (start true)
    quiet.1 = .ok () ∧ quiet.2.session.out = "(success . t)\n" ∧
      verbose.1 = .error .tooManyDigits ∧ verbose.2.session.out = "" := by
  intro words start quiet verbose
  have hline : Integer.parseNat "Line" (Integer.rendering 'x' 16 (10 ^ 4300)) =
      .ok (10 ^ 4300) :=
    Integer.parseNat_eq_ok_iff.mpr (Integer.written_rendering rfl _)
  have hquiet : quiet = _ := execute_completeAt Script.engine.traced (start false) hline
  have hverbose : verbose = _ := execute_completeAt Script.engine.traced (start true) hline
  rw [hquiet, hverbose]
  exact ⟨by decide +kernel, by decide +kernel, by decide +kernel, by decide +kernel⟩

end Server

end CodeSense
