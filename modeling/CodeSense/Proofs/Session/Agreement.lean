import CodeSense.Proofs.FileSystem
import CodeSense.Proofs.Pool.Agreement
import CodeSense.Session.Operation

/-!
# What a session does not depend on

Every operation writes the same, calls the same and ends the same in sessions that differ in their
logs only, or in settings that have no part in parsing: `perform_oblivious`. How much more they may
differ in the engine's state, the files and what was written before is up to a `Slack`. Logs that
are strict have a say, for a completion at a place that cannot be written.
-/

namespace CodeSense

structure Slack (σ : Type) where
  engine : σ → σ → Prop
  /-- Strict logs may differ in whether debug entries are kept. -/
  loose : Prop
  files : FileSystem → FileSystem → Prop
  out : String → String → Prop
  append : ∀ {a b : String} (text : String), out a b → out (a ++ text) (b ++ text)

def Slack.none {σ : Type} : Slack σ where
  engine := Eq
  loose := False
  files := Eq
  out := Eq
  append text h := congrArg (· ++ text) h

namespace Session

variable {σ : Type} {V : Slack σ}

/-- The sessions are the same but for their logs, for settings that do not matter to them, and for
what `V` lets them differ in. -/
structure Alike (V : Slack σ) (s t : Session σ) : Prop where
  pool : s.pool.Alike V.engine V.loose t.pool
  settings : s.settings.Alike t.settings
  files : V.files s.files t.files
  overlays : s.overlays = t.overlays
  activeParse : s.activeParse = t.activeParse
  activeCompletion : s.activeCompletion = t.activeCompletion
  out : V.out s.out t.out

abbrev Oblivious (V : Slack σ) (x : Act (Session σ) α) : Prop := Act.Agree (Alike V) x x

theorem onPool_agree {x y : Act (Pool σ) α} (h : Act.Agree (Pool.Alike V.engine V.loose) x y) :
    Act.Agree (Alike V) (onPool x) (onPool y) :=
  .within (fun _ _ h => h.pool) (fun _ _ _ _ h hpool => { h with pool := hpool }) h

theorem log_agree (level : Level) (message message' : String) :
    Act.Agree (Alike V) (log level message : Act (Session σ) Unit) (log level message') :=
  onPool_agree (Pool.log_agree ..)

theorem log_oblivious (level : Level) (message : String) :
    Oblivious V (log level message : Act (Session σ) Unit) :=
  log_agree level message message

theorem setVerbose_oblivious (on : Bool) : Oblivious V (setVerbose on : Act (Session σ) Unit) :=
  onPool_agree (.modify fun _ _ h => { h with journal := h.journal.setVerbose on })

/-! ## Output -/

theorem emit_oblivious (text : String) : Oblivious V (emit text : Act (Session σ) Unit) :=
  .modify fun _ _ h => { h with out := V.append text h.out }

theorem write_oblivious (text : String) : Oblivious V (write text : Act (Session σ) Unit) :=
  .bind (log_oblivious ..) fun _ => emit_oblivious text

theorem writeSuccess_oblivious : Oblivious V (writeSuccess : Act (Session σ) Unit) :=
  write_oblivious _

theorem writeError_oblivious (payload : String) :
    Oblivious V (writeError payload : Act (Session σ) Unit) :=
  .bind (log_oblivious ..) fun _ => write_oblivious _

theorem writeAll_oblivious (texts : List String) :
    Oblivious V (writeAll texts : Act (Session σ) Unit) := by
  induction texts with
  | nil => exact .pure _
  | cons text texts ih => exact .bind (write_oblivious text) fun _ => ih

theorem writeListing_oblivious (listing : Listing String) :
    Oblivious V (writeListing listing : Act (Session σ) Unit) :=
  .bind (writeAll_oblivious _) fun _ => .onSome fun e => .fail e

theorem writeDiagnostics_oblivious (listing : Listing Diagnostic) :
    Oblivious V (writeDiagnostics listing : Act (Session σ) Unit) :=
  .bind (write_oblivious _) fun _ => .bind (writeListing_oblivious _) fun _ => write_oblivious _

/-! ## Active state -/

theorem activeUnit?_oblivious :
    Oblivious V (.gets activeUnit? : Act (Session σ) (Option UnitRecord)) := by
  refine .gets fun s t h => ?_
  rw [activeUnit?, activeUnit?, h.activeParse, h.pool.cache]

theorem activeCompletion_oblivious :
    Oblivious V (.gets (·.activeCompletion) : Act (Session σ) (Option ActiveCompletion)) :=
  .gets fun _ _ h => h.activeCompletion

theorem candidates_oblivious (typed : String) (style : MatchStyle) :
    Oblivious V (candidates typed style : Act (Session σ) Unit) := by
  refine .bind activeCompletion_oblivious fun o => ?_
  cases o with
  | none => exact write_oblivious _
  | some set =>
    refine .bind (write_oblivious _) fun _ => ?_
    exact .bind (writeListing_oblivious _) fun _ => write_oblivious _

/-! ## Buffers -/

theorem modifyOverlays_oblivious (f : Overlays → Overlays) :
    Oblivious V (modifyOverlays f : Act (Session σ) Unit) :=
  .modify fun _ _ h => { h with overlays := congrArg f h.overlays }

theorem takeSource_oblivious (file source : String) (content : Except Fault (List UInt8)) :
    Oblivious V (takeSource file source content : Act (Session σ) Unit) := by
  unfold takeSource
  split
  · exact .bind (modifyOverlays_oblivious _) fun _ => writeSuccess_oblivious
  · refine .bind (log_oblivious ..) fun _ => ?_
    exact .bind (modifyOverlays_oblivious _) fun _ => writeError_oblivious _
  · exact .fail _

/-- Why a source cannot be opened is logged, and does not matter otherwise. -/
theorem takeSource_agree {files files' : FileSystem} {source : String}
    (h : files.ReadsAlike files' source) (file : String) :
    Act.Agree (Alike V) (takeSource (σ := σ) file source (files.read source))
      (takeSource file source (files'.read source)) := by
  rcases h with h | ⟨e, e', he, he'⟩
  · rw [h]
    exact takeSource_oblivious file source _
  · rw [he, he']
    refine .bind (log_agree ..) fun _ => ?_
    exact .bind (modifyOverlays_oblivious _) fun _ => writeError_oblivious _

theorem setUnsaved_oblivious {source : String}
    (hreads : ∀ {files files'}, V.files files files' → files.ReadsAlike files' source)
    (file : String) : Oblivious V (setUnsaved file source : Act (Session σ) Unit) := by
  refine .gets_bind fun s t h => ?_
  exact .bind (takeSource_agree (hreads h.files) file) fun _ => modifyOverlays_oblivious _

theorem refuseCompletion_oblivious (file : String) (line column : Int) :
    Oblivious V (refuseCompletion file line column : Act (Session σ) Unit) :=
  .ite (writeError_oblivious _) (.fail _)

theorem logCompletion_oblivious (file : String) {line column : Int} (count : Nat)
    (hplace : V.loose → isWritable line column = true) :
    Oblivious V (logCompletion file line column count : Act (Session σ) Unit) := by
  refine onPool_agree (Pool.logNumbers_oblivious _ _ _ _ fun hloose => .inr ?_)
  simpa [isWritable] using hplace hloose

/-! ## Asking the engine -/

section
variable {E : Engine σ} (hE : E.Respects V.engine)
include hE

theorem call_oblivious (r : Request) : Oblivious V (call E r) :=
  onPool_agree (Pool.call_oblivious hE r)

theorem resetActive_oblivious : Oblivious V (resetActive E) := by
  refine .get_bind fun s t h => ?_
  rw [h.activeCompletion, h.activeParse]
  refine .bind (.onSome fun set => call_oblivious hE _) fun _ => ?_
  refine .bind (.onSome fun u => onPool_agree (Pool.release_oblivious hE u)) fun _ => ?_
  exact .modify fun _ _ h => { h with activeCompletion := rfl, activeParse := rfl }

theorem dispose_oblivious : Oblivious V (dispose E) :=
  .bind (resetActive_oblivious hE) fun _ => onPool_agree (Pool.teardown_oblivious hE)

/-! ## Analysis -/

theorem parse_oblivious (file : String) (flags : List String) : Oblivious V (parse E file flags) := by
  refine .bind (resetActive_oblivious hE) fun _ => .get_bind fun s t h => ?_
  rw [h.overlays]
  refine .bind (.attempt (onPool_agree (Pool.parse_agree E h.settings _ _ _ hE))) fun r => ?_
  split
  · refine .bind (.modify fun _ _ h => { h with activeParse := rfl }) fun _ => ?_
    exact .bind (log_oblivious ..) fun _ => writeSuccess_oblivious
  · exact .bind (log_oblivious ..) fun _ => writeError_oblivious _
  · exact .fail _

theorem diagnostics_oblivious : Oblivious V (diagnostics E) := by
  refine .bind activeUnit?_oblivious fun o => ?_
  cases o with
  | none => exact .bind (log_oblivious ..) fun _ => writeDiagnostics_oblivious _
  | some record => exact .bind (call_oblivious hE _) fun listing => writeDiagnostics_oblivious listing

theorem getType_oblivious (line column : Int) : Oblivious V (getType E line column) := by
  refine .bind activeUnit?_oblivious fun o => ?_
  cases o with
  | none => exact .bind (log_oblivious ..) fun _ => write_oblivious _
  | some record => exact .bind (call_oblivious hE _) fun type => write_oblivious _

theorem getCompileOptions_oblivious (buildDir file : String) :
    Oblivious V (getCompileOptions E buildDir file) :=
  .bind (call_oblivious hE _) fun _ => writeAll_oblivious _

theorem resetUnsaved_oblivious (file : String) : Oblivious V (resetUnsaved E file) := by
  refine .bind (resetActive_oblivious hE) fun _ => ?_
  refine .bind (.gets fun _ _ h => h.overlays) fun overlays => ?_
  exact .bind (.when (modifyOverlays_oblivious _)) fun _ => writeSuccess_oblivious

/-! ## Completion -/

theorem completeUnit_oblivious (u : UnitRef) (file : String) (line column : Int)
    (overlays : List Overlay) : Oblivious V (completeUnit E u file line column overlays) := by
  refine .bind (onPool_agree (.gets fun _ _ h => congrArg (·.get? u) h.cache)) fun o => ?_
  cases o with
  | none => exact .pure _
  | some record =>
    exact .andFinally (call_oblivious hE _) (onPool_agree (Pool.release_oblivious hE u))

theorem requestCompletion_oblivious (file : String) (line column : Int) (flags : List String) :
    Oblivious V (requestCompletion E file line column flags) := by
  refine .get_bind fun s t h => ?_
  rw [h.overlays]
  refine .bind (.attempt (onPool_agree (Pool.obtain_agree E h.settings _ _ _ hE))) fun r => ?_
  split
  · exact completeUnit_oblivious hE ..
  · exact .bind (log_oblivious ..) fun _ => .pure _
  · exact .fail _

theorem complete_oblivious (file : String) {line column : Int} (flags : List String)
    (hplace : V.loose → isWritable line column = true) :
    Oblivious V (complete E file line column flags) := by
  refine .bind (resetActive_oblivious hE) fun _ => ?_
  refine .bind (requestCompletion_oblivious hE ..) fun o => ?_
  cases o with
  | none => exact refuseCompletion_oblivious file line column
  | some handle =>
    refine .bind (call_oblivious hE _) fun entries => ?_
    refine .bind (.modify fun _ _ h => { h with activeCompletion := rfl }) fun _ => ?_
    exact .bind (logCompletion_oblivious file _ hplace) fun _ => writeSuccess_oblivious

theorem completionDiagnostics_oblivious : Oblivious V (completionDiagnostics E) := by
  refine .bind activeCompletion_oblivious fun o => ?_
  cases o with
  | none => exact writeDiagnostics_oblivious _
  | some set => exact .bind (call_oblivious hE _) fun listing => writeDiagnostics_oblivious listing

/-- Only a buffer's source is read from the files, and only the place of a completion may be too
much for the log. -/
theorem perform_oblivious (op : Operation)
    (hplace : V.loose → ∀ file line column flags, op = .complete file line column flags →
      isWritable line column = true)
    (hreads : ∀ file source, op = .setUnsaved file source →
      ∀ {files files'}, V.files files files' → files.ReadsAlike files' source) :
    Oblivious V (perform E op) := by
  cases op with
  | setUnsaved file source => exact setUnsaved_oblivious (hreads file source rfl) file
  | resetUnsaved file => exact resetUnsaved_oblivious hE file
  | parse file flags => exact parse_oblivious hE file flags
  | complete file line column flags =>
    exact complete_oblivious hE file flags fun hloose => hplace hloose file line column flags rfl
  | candidates typed style => exact candidates_oblivious typed style
  | getType line column => exact getType_oblivious hE line column
  | getCompileOptions buildDir file => exact getCompileOptions_oblivious hE buildDir file
  | diagnostics => exact diagnostics_oblivious hE
  | completionDiagnostics => exact completionDiagnostics_oblivious hE
  | resetActive => exact resetActive_oblivious hE

end

end Session

end CodeSense
