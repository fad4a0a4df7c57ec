import CodeSense.Proofs.Act
import CodeSense.Proofs.FileSystem
import CodeSense.Proofs.Pool.Requests
import CodeSense.Session.Operation

/-!
# What operations of a session come to

A relation for each kind of operation says what it does with its parts, for every session and every
engine: `queried_perform`, `setsUnsaved_setUnsaved`, `resetsUnsaved_resetUnsaved`, `parses_parse`,
`completes_complete`. Whatever is shown about these operations is shown by cases on the relations.
-/

namespace CodeSense

namespace Listing

section
variable {α : Type} {render? : α → Option String} {broken : Option Fault} {items : List α}

theorem ofItems_items : (ofItems render? broken items).items <+: items.filterMap render? := by
  induction items with
  | nil => exact List.nil_prefix
  | cons a items ih =>
    rw [ofItems]
    cases h : render? a with
    | none => exact List.nil_prefix
    | some text =>
      rw [List.filterMap_cons_some h]
      exact List.cons_prefix_cons.mpr ⟨rfl, ih⟩

/-- What breaks off the words broke off the items, or one of them cannot be put into words. -/
theorem ofItems_broken {e : Fault} (h : (ofItems render? broken items).broken = some e) :
    broken = some e ∨ e = .tooManyDigits ∧ ∃ a ∈ items, render? a = none := by
  induction items with
  | nil => exact .inl h
  | cons a items ih =>
    rw [ofItems] at h
    cases hr : render? a with
    | none =>
      rw [hr] at h
      exact .inr ⟨(Option.some.inj h).symm, a, List.mem_cons_self .., hr⟩
    | some text =>
      rw [hr] at h
      refine (ih h).imp id fun hlong => ?_
      obtain ⟨he, b, hb, hbr⟩ := hlong
      exact ⟨he, b, List.mem_cons_of_mem _ hb, hbr⟩

/-- The items up to the first that cannot be put into words. -/
theorem ofItems_takeWhile {p : α → Bool} {f : α → String}
    (hr : ∀ a, render? a = if p a then some (f a) else none) :
    ofItems render? broken items =
      { items := (items.takeWhile p).map f
        broken := if items.all p then broken else some .tooManyDigits } := by
  induction items with
  | nil => rfl
  | cons a items ih =>
    rw [ofItems, hr a, ih]
    cases ha : p a <;> simp [ha]

end

def text (l : Listing String) : String := String.join l.items

def result (l : Listing String) : Except Fault Unit :=
  match l.broken with
  | none => .ok ()
  | some e => .error e

theorem result_eq_error {l : Listing String} {e : Fault} :
    l.result = .error e ↔ l.broken = some e := by
  obtain ⟨items, _ | e'⟩ := l <;> simp [result]

/-- The pieces between an opening and a closing one. What is broken off stays open. -/
def enclosed (opening closing : String) (l : Listing String) : Listing String :=
  { l with items := opening :: (l.items ++ if l.broken.isNone then [closing] else []) }

end Listing

namespace Session

variable {σ : Type}

/-! ## Writing -/

/-- The text was written, and nothing else happened but entries in the log. -/
def Wrote (text : String) (s s' : Session σ) : Prop :=
  ∃ journal : Journal, journal.refuses = s.pool.journal.refuses ∧
    s' = { s with pool.journal := journal, out := s.out ++ text }

theorem Wrote.trans {s t u : Session σ} {a b : String} (h : Wrote a s t) (h' : Wrote b t u) :
    Wrote (a ++ b) s u := by
  obtain ⟨journal, hj, rfl⟩ := h
  obtain ⟨journal', hj', rfl⟩ := h'
  exact ⟨journal', hj'.trans hj, by rw [String.append_assoc]⟩

theorem wrote_nothing {s : Session σ} {journal : Journal}
    (h : journal.refuses = s.pool.journal.refuses) :
    Wrote "" s { s with pool.journal := journal } :=
  ⟨journal, h, by rw [String.append_empty]⟩

def Writes (text : String) (x : Act (Session σ) Unit) : Prop :=
  ∀ s, ∃ s', x s = (.ok (), s') ∧ Wrote text s s'

def Recites (l : Listing String) (x : Act (Session σ) Unit) : Prop :=
  ∀ s, ∃ s', x s = (l.result, s') ∧ Wrote l.text s s'

section
variable {text : String} {l : Listing String} {x : Act (Session σ) Unit}
  {f : Unit → Act (Session σ) Unit}

theorem writes_bind {a b : String} (hx : Writes a x) (hf : Writes b (f ())) :
    Writes (a ++ b) (x >>= f) := by
  intro s
  obtain ⟨t, ht, hw⟩ := hx s
  obtain ⟨u, hu, hw'⟩ := hf t
  refine ⟨u, ?_, hw.trans hw'⟩
  rw [Act.bind_apply, ht]
  exact hu

theorem Writes.recites (h : Writes text x) : Recites { items := [text] } x := by
  intro s
  obtain ⟨t, ht, hw⟩ := h s
  refine ⟨t, ht, ?_⟩
  rw [Listing.text, String.join_cons, String.join_nil, String.append_empty]
  exact hw

theorem recites_bind (hx : Writes text x) (hf : Recites l (f ())) :
    Recites { l with items := text :: l.items } (x >>= f) := by
  intro s
  obtain ⟨t, ht, hw⟩ := hx s
  obtain ⟨u, hu, hw'⟩ := hf t
  refine ⟨u, ?_, ?_⟩
  · rw [Act.bind_apply, ht]
    exact hu
  · rw [Listing.text, String.join_cons]
    exact hw.trans hw'

end

theorem log_writes (level : Level) (message : String) :
    Writes "" (log level message : Act (Session σ) Unit) :=
  fun _ => ⟨_, rfl, wrote_nothing (Journal.refuses_record _ _)⟩

theorem logged_writes {text : String} {x : Act (Session σ) Unit} (hx : Writes text x)
    (level : Level) (message : String) : Writes text (log level message >>= fun _ => x) := by
  rw [← String.empty_append (s := text)]
  exact writes_bind (log_writes level message) hx

theorem logged_recites {l : Listing String} {x : Act (Session σ) Unit} (hx : Recites l x)
    (level : Level) (message : String) : Recites l (log level message >>= fun _ => x) := by
  have h := recites_bind (f := fun _ => x) (log_writes level message) hx
  rwa [Recites, Listing.text, String.join_cons, String.empty_append] at h

theorem write_writes (text : String) : Writes text (write text : Act (Session σ) Unit) :=
  fun _ => ⟨_, rfl, _, Journal.refuses_record _ _, rfl⟩

theorem writeError_writes (payload : String) :
    Writes (payload ++ "\n") (writeError payload : Act (Session σ) Unit) :=
  logged_writes (write_writes _) .info payload

theorem writeAll_writes (texts : List String) :
    Writes (String.join texts) (writeAll texts : Act (Session σ) Unit) := by
  induction texts with
  | nil => exact fun s => ⟨s, rfl, wrote_nothing rfl⟩
  | cons text texts ih =>
    rw [String.join_cons]
    exact writes_bind (write_writes text) ih

theorem writeListing_recites (l : Listing String) :
    Recites l (writeListing l : Act (Session σ) Unit) := by
  intro s
  obtain ⟨t, ht, hw⟩ := writeAll_writes l.items s
  obtain ⟨items, broken⟩ := l
  refine ⟨t, ?_, hw⟩
  rw [writeListing, Act.bind_apply, ht]
  cases broken <;> rfl

theorem enclosed_recites (opening closing : String) (l : Listing String) :
    Recites (l.enclosed opening closing) (do
      write opening
      writeListing l
      write closing : Act (Session σ) Unit) := by
  refine recites_bind (l := { l with items := l.items ++ if l.broken.isNone then [closing] else [] })
    (write_writes opening) fun s => ?_
  obtain ⟨t, ht, hw⟩ := writeListing_recites l s
  rw [Act.bind_apply, ht]
  obtain ⟨items, _ | e⟩ := l
  · obtain ⟨u, hu, hw'⟩ := write_writes closing t
    refine ⟨u, hu, ?_⟩
    simpa [Listing.text] using hw.trans hw'
  · refine ⟨t, rfl, ?_⟩
    simpa [Listing.text] using hw

/-- Nothing was written, and buffers, settings and files stayed. -/
structure Quiet (s s' : Session σ) : Prop where
  out : s'.out = s.out
  overlays : s'.overlays = s.overlays
  settings : s'.settings = s.settings
  files : s'.files = s.files

theorem quiet_frame : Act.Frame (Quiet (σ := σ)) where
  refl _ := ⟨rfl, rfl, rfl, rfl⟩
  trans h h' := ⟨h'.out.trans h.out, h'.overlays.trans h.overlays, h'.settings.trans h.settings,
    h'.files.trans h.files⟩

theorem onPool_quiet (x : Act (Pool σ) α) : Act.Moves Quiet (onPool x) :=
  fun _ => ⟨rfl, rfl, rfl, rfl⟩

theorem resetActive_quiet (E : Engine σ) : Act.Moves Quiet (resetActive E) := by
  refine Act.moves_bind quiet_frame (Act.moves_gets quiet_frame _) fun s => ?_
  refine Act.moves_bind quiet_frame ?_ fun _ => Act.moves_bind quiet_frame ?_ fun _ => ?_
  · cases s.activeCompletion with
    | none => exact Act.moves_pure quiet_frame _
    | some set => exact onPool_quiet (Pool.call E (.disposeCompletion set.handle))
  · cases s.activeParse with
    | none => exact Act.moves_pure quiet_frame _
    | some u => exact onPool_quiet (Pool.release E u)
  · exact fun _ => ⟨rfl, rfl, rfl, rfl⟩

/-! ## Queries -/

def shownDiagnostics (listing : Listing Diagnostic) : Listing String :=
  (listing.spell diagnosticLine?).enclosed "(\n" ")\n"

theorem writeDiagnostics_recites (listing : Listing Diagnostic) :
    Recites (shownDiagnostics listing) (writeDiagnostics listing : Act (Session σ) Unit) :=
  enclosed_recites _ _ _

def shownCandidates (typed : String) (style : MatchStyle) (set : ActiveCompletion) :
    Listing String :=
  ((listCandidates typed style set.entries).spell candidateLine?).enclosed "(\n" ")"

end Session

def Request.shown : (r : Request) → r.Answer → Listing String
  | .completionDiagnostics _, listing | .diagnostics _, listing => Session.shownDiagnostics listing
  | .typeAt .., type => { items := [Session.renderType type] }
  | .compileCommands .., commands => { items := Session.renderCommands commands }
  | _, _ => { items := [] }

namespace Operation

def isQuery : Operation → Bool
  | .candidates .. | .getType .. | .getCompileOptions .. | .diagnostics
  | .completionDiagnostics => true
  | _ => false

variable {σ : Type} (s : Session σ)

def asks? : Operation → Option Request
  | .completionDiagnostics => s.activeCompletion.map fun set => .completionDiagnostics set.handle
  | .diagnostics => s.activeUnit?.map fun record => .diagnostics record.handle
  | .getType line column =>
    s.activeUnit?.map fun record => .typeAt record.handle record.file line column
  | .getCompileOptions buildDir file => some (.compileCommands buildDir file)
  | _ => none

/-- What queries ask, and what they need for that. -/
inductive Inquires : Operation → Request → Prop
  | completionDiagnostics {set : ActiveCompletion} (h : s.activeCompletion = some set) :
    Inquires .completionDiagnostics (.completionDiagnostics set.handle)
  | diagnostics {record : UnitRecord} (h : s.activeUnit? = some record) :
    Inquires .diagnostics (.diagnostics record.handle)
  | getType {record : UnitRecord} {line column : Int} (h : s.activeUnit? = some record) :
    Inquires (.getType line column) (.typeAt record.handle record.file line column)
  | getCompileOptions {buildDir file : String} :
    Inquires (.getCompileOptions buildDir file) (.compileCommands buildDir file)

variable {s} in
theorem inquires_of_asks? {op : Operation} {r : Request} (h : op.asks? s = some r) :
    Inquires s op r := by
  cases op with
  | completionDiagnostics =>
    obtain ⟨set, hset, rfl⟩ := Option.map_eq_some_iff.mp h
    exact .completionDiagnostics hset
  | diagnostics =>
    obtain ⟨record, hunit, rfl⟩ := Option.map_eq_some_iff.mp h
    exact .diagnostics hunit
  | getType line column =>
    obtain ⟨record, hunit, rfl⟩ := Option.map_eq_some_iff.mp h
    exact .getType hunit
  | getCompileOptions buildDir file =>
    cases h
    exact .getCompileOptions
  | _ => cases h

/-- What a query shows if it asks nothing. -/
def knows : Operation → Listing String
  | .candidates typed style =>
    match s.activeCompletion with
    | none => { items := [Response.nil ++ "\n"] }
    | some set => Session.shownCandidates typed style set
  | .getType .. => { items := [Response.nil] }
  | .diagnostics | .completionDiagnostics => Session.shownDiagnostics { items := [] }
  | _ => { items := [] }

end Operation

/-! ### What breaks off -/

section
variable {e : Fault}

theorem Diagnostic.spelled_broken {listing : Listing Diagnostic}
    (h : (listing.spell Session.diagnosticLine?).broken = some e) :
    listing.broken = some e ∨
      e = .tooManyDigits ∧ listing.items.any (·.render?.isNone) = true := by
  refine (Listing.ofItems_broken h).imp id fun hlong => ?_
  obtain ⟨he, d, hd, hline⟩ := hlong
  exact ⟨he, List.any_eq_true.mpr ⟨d, hd, by simpa [Session.diagnosticLine?] using hline⟩⟩

/-- What breaks off an answer came with it, or there is a number in it that cannot be written. -/
theorem Request.shown_broken {r : Request} {a : r.Answer} (h : (r.shown a).broken = some e) :
    (∀ reply : Reply r.Answer, reply.result = .ok a → e ∈ Call.faults ⟨r, reply⟩) ∨
      e = .tooManyDigits ∧ r.tooLong a = true := by
  cases r with
  | diagnostics unit =>
    exact (Diagnostic.spelled_broken h).imp (fun he reply hreply => by simp [Call.faults, hreply, he]) id
  | completionDiagnostics set =>
    exact (Diagnostic.spelled_broken h).imp (fun he reply hreply => by simp [Call.faults, hreply, he]) id
  | _ => cases h

theorem Session.listCandidates_broken {typed : String} {style : MatchStyle}
    {entries : List ResultEntry} (h : (listCandidates typed style entries).broken = some e) :
    ∃ entry ∈ entries, entry.unreadable = some e := by
  induction entries with
  | nil => cases h
  | cons entry rest ih =>
    unfold listCandidates at h
    have hrest (h' : (listCandidates typed style rest).broken = some e) :
        ∃ entry' ∈ entry :: rest, entry'.unreadable = some e := by
      obtain ⟨entry', hmem, he⟩ := ih h'
      exact ⟨entry', List.mem_cons_of_mem _ hmem, he⟩
    cases hu : entry.unreadable with
    | none =>
      rw [hu] at h
      exact hrest h
    | some f =>
      rw [hu] at h
      dsimp only at h
      split at h
      · exact hrest h
      · cases h
        exact ⟨entry, List.mem_cons_self .., hu⟩

/-- A candidate that is listed is what one of the entries is decoded to. -/
theorem Session.mem_listCandidates {typed : String} {style : MatchStyle} {c : Candidate}
    {entries : List ResultEntry} (h : c ∈ (listCandidates typed style entries).items) :
    ∃ entry ∈ entries, entry.completion.decode = some c := by
  induction entries with
  | nil => cases h
  | cons entry rest ih =>
    have hrest (h' : c ∈ (listCandidates typed style rest).items) :
        ∃ entry' ∈ entry :: rest, entry'.completion.decode = some c := by
      obtain ⟨entry', hmem, hc⟩ := ih h'
      exact ⟨entry', List.mem_cons_of_mem _ hmem, hc⟩
    unfold listCandidates at h
    split at h
    · split at h
      · exact hrest h
      · cases h
    · rcases List.mem_append.mp h with h | h
      · obtain ⟨r, hr, hc⟩ := List.mem_filterMap.mp (List.mem_filter.mp h).1
        cases List.mem_singleton.mp hr
        exact ⟨entry, List.mem_cons_self .., hc⟩
      · exact hrest h

theorem Operation.knows_broken {σ : Type} {s : Session σ} {op : Operation}
    (h : (op.knows s).broken = some e) : ∃ set, s.activeCompletion = some set ∧
      ((∃ entry ∈ set.entries, entry.unreadable = some e) ∨
        e = .tooManyDigits ∧ ∃ entry ∈ set.entries, entry.isTooLong = true) := by
  cases op with
  | candidates typed style =>
    cases hset : s.activeCompletion with
    | none => simp [knows, hset] at h
    | some set =>
      simp only [knows, hset] at h
      refine ⟨set, rfl, (Listing.ofItems_broken h).imp Session.listCandidates_broken fun hlong => ?_⟩
      obtain ⟨he, c, hc, hline⟩ := hlong
      obtain ⟨entry, hentry, hdecode⟩ := Session.mem_listCandidates hc
      refine ⟨he, entry, hentry, ?_⟩
      simpa [ResultEntry.isTooLong, hdecode, Session.candidateLine?] using hline
  | _ => cases h

end

namespace Session

variable {σ : Type} {E : Engine σ} {s : Session σ}

inductive Queried (E : Engine σ) (s : Session σ) (op : Operation) :
    Except Fault Unit → Session σ → Prop
  | known {s' : Session σ} (hr : op.asks? s = none) (hw : Wrote (op.knows s).text s s') :
    Queried E s op (op.knows s).result s'
  | failed {r : Request} {e : Fault} {s' : Session σ} (hr : op.asks? s = some r)
    (hcall : call E r s = (.error e, s')) : Queried E s op (.error e) s'
  | told {r : Request} {a : r.Answer} {s₁ s' : Session σ} (hr : op.asks? s = some r)
    (hcall : call E r s = (.ok a, s₁)) (hw : Wrote (r.shown a).text s₁ s') :
    Queried E s op (r.shown a).result s'

section
variable {op : Operation}

theorem Recites.known {x : Act (Session σ) Unit} (h : Recites (op.knows s) x)
    (hr : op.asks? s = none) (hrun : perform E op s = x s) :
    Queried E s op (perform E op s).1 (perform E op s).2 := by
  obtain ⟨s', hx, hw⟩ := h s
  rw [hrun, hx]
  exact .known hr hw

theorem queried_ask {r : Request} {f : r.Answer → Act (Session σ) Unit}
    (hr : op.asks? s = some r) (hrun : perform E op s = (call E r >>= f) s)
    (hf : ∀ a, Recites (r.shown a) (f a)) :
    Queried E s op (perform E op s).1 (perform E op s).2 := by
  rw [hrun, Act.bind_apply]
  rcases hcall : call E r s with ⟨e | a, s₁⟩
  · exact .failed hr hcall
  · obtain ⟨s', hx, hw⟩ := hf a s₁
    dsimp only
    rw [hx]
    exact .told hr hcall hw

end

theorem candidates_recites (typed : String) (style : MatchStyle) (s : Session σ) :
    ∃ s', candidates typed style s = (((Operation.candidates typed style).knows s).result, s') ∧
      Wrote ((Operation.candidates typed style).knows s).text s s' := by
  unfold candidates Operation.knows
  rw [Act.bind_apply, Act.gets]
  cases s.activeCompletion with
  | none => exact (write_writes _).recites s
  | some set => exact enclosed_recites _ _ _ s

/-- **Queries.** What is shown without asking the engine, or what its answer is shown as. -/
theorem queried_perform {op : Operation} (h : op.isQuery = true) (s : Session σ) :
    Queried E s op (perform E op s).1 (perform E op s).2 := by
  cases op with
  | candidates typed style =>
    obtain ⟨s', hrun, hw⟩ := candidates_recites typed style s
    rw [show perform E (.candidates typed style) s = candidates typed style s from rfl, hrun]
    exact .known rfl hw
  | getType line column =>
    cases hunit : s.activeUnit? with
    | none =>
      refine Recites.known (logged_recites (write_writes Response.nil).recites .warning
        "get-type: parse wasn't called") ?_ ?_
      · simp [Operation.asks?, hunit]
      · simp only [perform, getType, Act.bind_apply (.gets _), Act.gets, hunit]
    | some record =>
      refine queried_ask (r := .typeAt record.handle record.file line column) ?_ ?_
        fun type => (write_writes (renderType type)).recites
      · simp [Operation.asks?, hunit]
      · simp only [perform, getType, Act.bind_apply (.gets _), Act.gets, hunit]
  | getCompileOptions buildDir file =>
    exact queried_ask rfl rfl fun commands s => writeAll_writes (renderCommands commands) s
  | diagnostics =>
    cases hunit : s.activeUnit? with
    | none =>
      refine Recites.known (logged_recites (writeDiagnostics_recites { items := [] }) .info
        "No active tu") ?_ ?_
      · simp [Operation.asks?, hunit]
      · simp only [perform, diagnostics, Act.bind_apply (.gets _), Act.gets, hunit]
    | some record =>
      refine queried_ask (r := .diagnostics record.handle) ?_ ?_ writeDiagnostics_recites
      · simp [Operation.asks?, hunit]
      · simp only [perform, diagnostics, Act.bind_apply (.gets _), Act.gets, hunit]
  | completionDiagnostics =>
    cases hset : s.activeCompletion with
    | none =>
      refine Recites.known (writeDiagnostics_recites { items := [] }) ?_ ?_
      · simp [Operation.asks?, hset]
      · simp only [perform, completionDiagnostics, Act.bind_apply (.gets _), Act.gets, hset]
    | some set =>
      refine queried_ask (r := .completionDiagnostics set.handle) ?_ ?_ writeDiagnostics_recites
      · simp [Operation.asks?, hset]
      · simp only [perform, completionDiagnostics, Act.bind_apply (.gets _), Act.gets, hset]
  | _ => cases h

theorem perform_known (op : Operation) (h : op.isQuery = true) (hr : op.asks? s = none) :
    ∃ s', perform E op s = ((op.knows s).result, s') ∧ Wrote (op.knows s).text s s' := by
  have hq := queried_perform (E := E) h s
  generalize perform E op s = run at hq
  obtain ⟨o, s'⟩ := run
  cases hq with
  | known _ hw => exact ⟨s', rfl, hw⟩
  | failed hr' => rw [hr] at hr'; cases hr'
  | told hr' => rw [hr] at hr'; cases hr'

theorem perform_told {op : Operation} {r : Request} {a : r.Answer} {s₁ : Session σ}
    (h : op.isQuery = true) (hr : op.asks? s = some r) (hcall : call E r s = (.ok a, s₁)) :
    ∃ s', perform E op s = ((r.shown a).result, s') ∧ Wrote (r.shown a).text s₁ s' := by
  have hq := queried_perform (E := E) h s
  generalize perform E op s = run at hq
  obtain ⟨o, s'⟩ := run
  cases hq with
  | known hr' => rw [hr] at hr'; cases hr'
  | failed hr' hcall' =>
    rw [hr] at hr'
    cases hr'
    rw [hcall] at hcall'
    cases hcall'
  | told hr' hcall' hw =>
    rw [hr] at hr'
    cases hr'
    rw [hcall] at hcall'
    cases hcall'
    exact ⟨s', rfl, hw⟩

theorem Writes.ends {text : String} {x : Act (Session σ) Unit} (h : Writes text x)
    {ok : Unit → Session σ → Prop} {err : Fault → Session σ → Prop}
    (hok : ∀ s', Wrote text s s' → ok () s') : x.Ends s ok err := by
  obtain ⟨s', hs', hw⟩ := h s
  unfold Act.Ends
  rw [hs']
  exact hok s' hw

/-! ## Buffers -/

inductive SetsUnsaved (file source : String) (s : Session σ) :
    Except Fault Unit → Session σ → Prop
  | noPath {e : Fault} (h : s.files.pathFault? source = some e) :
    SetsUnsaved file source s (.error e) s
  | unread {e : FileError} {s' : Session σ} (h : s.files.pathFault? source = none)
    (hread : s.files.read source = .error (.cannotOpen e source))
    (hw : Wrote (Response.fileReadError file source ++ "\n")
      { s with overlays := (s.overlays.remove file).rebuild } s') :
    SetsUnsaved file source s (.ok ()) s'
  | read {bytes : List UInt8} {s' : Session σ} (h : s.files.pathFault? source = none)
    (hread : s.files.read source = .ok bytes)
    (hw : Wrote (Response.success ++ "\n")
      { s with overlays := (s.overlays.set file (textOf bytes)).rebuild } s') :
    SetsUnsaved file source s (.ok ()) s'

/-- Writing does not mind the buffers. -/
theorem Wrote.overlays {text : String} {s s' : Session σ} (h : Wrote text s s')
    (f : Overlays → Overlays) :
    Wrote text { s with overlays := f s.overlays } { s' with overlays := f s'.overlays } := by
  obtain ⟨journal, hj, rfl⟩ := h
  exact ⟨journal, hj, rfl⟩

theorem ends_modifyOverlays {f : Overlays → Overlays} {ok : Unit → Session σ → Prop}
    {err : Fault → Session σ → Prop} :
    (modifyOverlays f).Ends s ok err ↔ ok () { s with overlays := f s.overlays } := Iff.rfl

theorem setsUnsaved_setUnsaved (file source : String) (s : Session σ) :
    (setUnsaved file source).Ends s (fun _ => SetsUnsaved file source s (.ok ()))
      (fun e => SetsUnsaved file source s (.error e)) := by
  unfold setUnsaved
  rw [Act.ends_bind, Act.ends_gets, Act.ends_bind]
  rcases hread : s.files.read source with e | bytes
  · rcases FileSystem.opening_error hread with hfault | ⟨hpath, f, rfl⟩
    · rcases FileSystem.pathFault?_eq_some hfault with ⟨rfl, -⟩ | ⟨c, position, rfl, -⟩
      · exact .noPath hfault
      · exact .noPath hfault
    · rw [takeSource, Act.ends_bind]
      refine (log_writes _ _).ends fun s₁ hw => ?_
      rw [Act.ends_bind, ends_modifyOverlays]
      refine (writeError_writes _).ends fun s₂ hw' => ?_
      rw [ends_modifyOverlays]
      refine .unread hpath hread ?_
      have h := ((hw.overlays (·.remove file)).trans hw').overlays (·.rebuild)
      rwa [String.empty_append] at h
  · have hpath : s.files.pathFault? source = none := by
      unfold FileSystem.read FileSystem.opening at hread
      split at hread
      · cases hread
      · assumption
    rw [takeSource, Act.ends_bind, ends_modifyOverlays]
    refine (write_writes _).ends fun s₁ hw => ?_
    rw [ends_modifyOverlays]
    exact .read hpath hread (hw.overlays (·.rebuild))

inductive ResetsUnsaved (E : Engine σ) (file : String) (s : Session σ) :
    Except Fault Unit → Session σ → Prop
  | unreset {e : Fault} {s' : Session σ} (hreset : resetActive E s = (.error e, s')) :
    ResetsUnsaved E file s (.error e) s'
  | reset {s₁ s' : Session σ} {o : Overlays} (hreset : resetActive E s = (.ok (), s₁))
    (ho : o = if s₁.overlays.has file then (s₁.overlays.remove file).rebuild else s₁.overlays)
    (hw : Wrote (Response.success ++ "\n") { s₁ with overlays := o } s') :
    ResetsUnsaved E file s (.ok ()) s'

theorem resetsUnsaved_resetUnsaved (file : String) (s : Session σ) :
    (resetUnsaved E file).Ends s (fun _ => ResetsUnsaved E file s (.ok ()))
      (fun e => ResetsUnsaved E file s (.error e)) := by
  unfold resetUnsaved
  rw [Act.ends_bind]
  refine (Act.ends_eq _ _).mono (fun _ s₁ hreset => ?_) fun e s' hreset => .unreset hreset
  rw [Act.ends_bind, Act.ends_gets, Act.ends_bind, Act.ends_when, ends_modifyOverlays]
  split
  · rename_i hfile
    exact (write_writes _).ends fun s' hw => .reset hreset (if_pos hfile).symm hw
  · rename_i hfile
    exact (write_writes _).ends fun s' hw => .reset hreset (if_neg hfile).symm hw

/-! ## Parsing -/

inductive Parses (E : Engine σ) (file : String) (flags : List String) (s : Session σ) :
    Except Fault Unit → Session σ → Prop
  | unreset {e : Fault} {s' : Session σ} (hreset : resetActive E s = (.error e, s')) :
    Parses E file flags s (.error e) s'
  | stopped {s₁ : Session σ} {e : Fault} {p : Pool σ} (hreset : resetActive E s = (.ok (), s₁))
    (hp : Pool.parse E s₁.settings file flags s₁.overlays.pairs s₁.pool = (.error e, p))
    (he : ∀ f, e ≠ .parseFailed f) : Parses E file flags s (.error e) { s₁ with pool := p }
  | refused {s₁ s' : Session σ} {f : ParseFailure} {p : Pool σ}
    (hreset : resetActive E s = (.ok (), s₁))
    (hp : Pool.parse E s₁.settings file flags s₁.overlays.pairs s₁.pool =
      (.error (.parseFailed f), p))
    (hw : Wrote (Response.parseError file ++ "\n") { s₁ with pool := p } s') :
    Parses E file flags s (.ok ()) s'
  | granted {s₁ s' : Session σ} {u : UnitRef} {p : Pool σ}
    (hreset : resetActive E s = (.ok (), s₁))
    (hp : Pool.parse E s₁.settings file flags s₁.overlays.pairs s₁.pool = (.ok u, p))
    (hw : Wrote (Response.success ++ "\n") { s₁ with pool := p, activeParse := some u } s') :
    Parses E file flags s (.ok ()) s'

theorem ends_onPool {x : Act (Pool σ) α} {ok : α → Session σ → Prop}
    {err : Fault → Session σ → Prop} :
    (onPool x).Ends s ok err ↔
      x.Ends s.pool (fun a p => ok a { s with pool := p })
        (fun e p => err e { s with pool := p }) :=
  Act.ends_within

theorem parses_parse (file : String) (flags : List String) (s : Session σ) :
    (parse E file flags).Ends s (fun _ => Parses E file flags s (.ok ()))
      (fun e => Parses E file flags s (.error e)) := by
  unfold parse
  rw [Act.ends_bind]
  refine (Act.ends_eq _ _).mono (fun _ s₁ hreset => ?_) fun e s' hreset => .unreset hreset
  rw [Act.ends_bind, Act.ends_get, Act.ends_bind, Act.ends_attempt, ends_onPool]
  refine (Act.ends_eq _ _).mono (fun u p hp => ?_) fun e p hp => ?_
  · dsimp only
    rw [Act.ends_bind, Act.ends_modify]
    exact (logged_writes (write_writes _) _ _).ends fun s' hw => .granted hreset hp hw
  · split
    · rename_i heq
      cases heq
    · rename_i f heq
      cases heq
      exact (logged_writes (writeError_writes _) _ _).ends fun s' hw => .refused hreset hp hw
    · rename_i he heq
      cases heq
      exact .stopped hreset hp he

/-! ## Completing -/

section
variable (E : Engine σ) (file : String) (line column : Int) (flags : List String)

inductive Requested (s : Session σ) : Except Fault (Option Handle) → Session σ → Prop
  | stopped {e : Fault} {p : Pool σ}
    (hp : Pool.obtain E s.settings file flags s.overlays.pairs s.pool = (.error e, p))
    (he : ∀ f, e ≠ .parseFailed f) : Requested s (.error e) { s with pool := p }
  | refused {f : ParseFailure} {p : Pool σ} {s' : Session σ}
    (hp : Pool.obtain E s.settings file flags s.overlays.pairs s.pool =
      (.error (.parseFailed f), p)) (hw : Wrote "" { s with pool := p } s') :
    Requested s (.ok none) s'
  | served {u : UnitRef} {p : Pool σ} {o : Except Fault (Option Handle)} {s' : Session σ}
    (hp : Pool.obtain E s.settings file flags s.overlays.pairs s.pool = (.ok u, p))
    (hrun : completeUnit E u file line column s.overlays.pairs { s with pool := p } = (o, s')) :
    Requested s o s'

inductive Completes (s : Session σ) : Except Fault Unit → Session σ → Prop
  | unreset {e : Fault} {s' : Session σ} (hreset : resetActive E s = (.error e, s')) :
    Completes s (.error e) s'
  | stopped {s₁ s' : Session σ} {e : Fault} (hreset : resetActive E s = (.ok (), s₁))
    (hr : Requested E file line column flags s₁ (.error e) s') : Completes s (.error e) s'
  | refused {s₁ s₂ s' : Session σ} (hreset : resetActive E s = (.ok (), s₁))
    (hr : Requested E file line column flags s₁ (.ok none) s₂)
    (hplace : isWritable line column = true)
    (hw : Wrote (Response.completeError file line column ++ "\n") s₂ s') :
    Completes s (.ok ()) s'
  /-- There is nothing at a place that cannot be written. -/
  | unwritten {s₁ s' : Session σ} (hreset : resetActive E s = (.ok (), s₁))
    (hr : Requested E file line column flags s₁ (.ok none) s')
    (hplace : isWritable line column = false) : Completes s (.error .tooManyDigits) s'
  | lost {s₁ s₂ s' : Session σ} {id : Handle} {e : Fault} (hreset : resetActive E s = (.ok (), s₁))
    (hr : Requested E file line column flags s₁ (.ok (some id)) s₂)
    (hcall : call E (.completionResults id) s₂ = (.error e, s')) : Completes s (.error e) s'
  /-- The log does not take a place that cannot be written. -/
  | unlogged {s₁ s₂ s₃ : Session σ} {id : Handle} {entries : List ResultEntry}
    (hreset : resetActive E s = (.ok (), s₁))
    (hr : Requested E file line column flags s₁ (.ok (some id)) s₂)
    (hcall : call E (.completionResults id) s₂ = (.ok entries, s₃))
    (hplace : isWritable line column = false) (hj : s₃.pool.journal.refuses .debug = true) :
    Completes s (.error .tooManyDigits)
      { s₃ with activeCompletion := some (.ofResults id entries) }
  | installed {s₁ s₂ s₃ s' : Session σ} {id : Handle} {entries : List ResultEntry}
    (hreset : resetActive E s = (.ok (), s₁))
    (hr : Requested E file line column flags s₁ (.ok (some id)) s₂)
    (hcall : call E (.completionResults id) s₂ = (.ok entries, s₃))
    (hw : Wrote (Response.success ++ "\n")
      { s₃ with activeCompletion := some (.ofResults id entries) } s') : Completes s (.ok ()) s'

end

variable {file : String} {line column : Int} {flags : List String}

theorem requested_requestCompletion (s : Session σ) :
    (requestCompletion E file line column flags).Ends s
      (fun o => Requested E file line column flags s (.ok o))
      (fun e => Requested E file line column flags s (.error e)) := by
  unfold requestCompletion
  rw [Act.ends_bind, Act.ends_get, Act.ends_bind, Act.ends_attempt, ends_onPool]
  refine (Act.ends_eq _ _).mono (fun u p hp => ?_) fun e p hp => ?_
  · exact (Act.ends_eq _ _).mono (fun _ _ hrun => .served hp hrun) fun _ _ hrun => .served hp hrun
  · split
    · rename_i heq
      cases heq
    · rename_i f heq
      cases heq
      rw [Act.ends_bind]
      exact (log_writes _ _).ends fun s' hw => .refused hp hw
    · rename_i he heq
      cases heq
      exact .stopped hp he

theorem Wrote.quiet {s' : Session σ} (h : Wrote "" s s') : Quiet s s' := by
  obtain ⟨journal, -, rfl⟩ := h
  exact ⟨String.append_empty, rfl, rfl, rfl⟩

theorem completeUnit_quiet (u : UnitRef) (overlays : List Overlay) :
    Act.Moves Quiet (completeUnit E u file line column overlays) := by
  refine Act.moves_bind quiet_frame (onPool_quiet _) fun o => ?_
  cases o with
  | none => exact Act.moves_pure quiet_frame _
  | some record => exact Act.moves_andFinally quiet_frame (onPool_quiet _) (onPool_quiet _)

theorem Requested.quiet {o : Except Fault (Option Handle)} {s' : Session σ}
    (h : Requested E file line column flags s o s') : Quiet s s' := by
  cases h with
  | stopped => exact ⟨rfl, rfl, rfl, rfl⟩
  | refused hp hw =>
    obtain ⟨out, overlays, settings, files⟩ := hw.quiet
    exact ⟨out, overlays, settings, files⟩
  | served hp hrun =>
    obtain ⟨out, overlays, settings, files⟩ := (completeUnit_quiet _ _).run hrun
    exact ⟨out, overlays, settings, files⟩

theorem ends_logCompletion {count : Nat} {ok : Unit → Session σ → Prop}
    {err : Fault → Session σ → Prop} (hok : ∀ s', Wrote "" s s' → ok () s')
    (herr : isWritable line column = false → s.pool.journal.refuses .debug = true →
      err .tooManyDigits s) :
    (logCompletion file line column count).Ends s ok err := by
  unfold logCompletion
  rw [ends_onPool]
  apply Pool.ends_logNumbers
  · intro journal hj
    exact hok _ (wrote_nothing hj)
  · intro hlong hj
    exact herr (by simpa [isWritable] using hlong) hj

/-- **Completions.** -/
theorem completes_complete (s : Session σ) :
    (complete E file line column flags).Ends s
      (fun _ => Completes E file line column flags s (.ok ()))
      (fun e => Completes E file line column flags s (.error e)) := by
  unfold complete
  rw [Act.ends_bind]
  refine (Act.ends_eq _ _).mono (fun _ s₁ hreset => ?_) fun e s' hreset => .unreset hreset
  rw [Act.ends_bind]
  refine (requested_requestCompletion s₁).mono (fun o s₂ hr => ?_) fun e s' hr => .stopped hreset hr
  cases o with
  | none =>
    dsimp only
    unfold refuseCompletion
    split
    · rename_i hplace
      exact (writeError_writes _).ends fun s' hw => .refused hreset hr hplace hw
    · rename_i hplace
      exact .unwritten hreset hr (by simpa using hplace)
  | some id =>
    dsimp only
    rw [Act.ends_bind]
    refine (Act.ends_eq _ _).mono (fun entries s₃ hcall => ?_) fun e s' hcall => .lost hreset hr hcall
    rw [Act.ends_bind, Act.ends_modify, Act.ends_bind]
    apply ends_logCompletion
    · intro s₄ hw
      refine (write_writes _).ends fun s' hw' => .installed hreset hr hcall ?_
      simpa using hw.trans hw'
    · intro hplace hj
      exact .unlogged hreset hr hcall hplace hj

end Session

end CodeSense
