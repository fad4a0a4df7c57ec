import CodeSense.Proofs.Server.Pairs
import CodeSense.Proofs.Session.Agreement
import CodeSense.Startup.Launch

/-!
# What a server does not depend on

Whatever the log holds and however commands come in, as lines or as words, a server writes the
same, calls the same and ends the same: `run_alike` for the command loop, `serve_alike` for all of
a server's life.
-/

namespace CodeSense

structure Source.Same (a b : Source) : Prop where
  blank : a.isBlank = b.isBlank
  split : a.split = b.split

namespace Server

variable {σ : Type}

structure Alike (s t : Server σ) : Prop where
  session : s.session.Alike .none t.session
  scratch : s.scratch = t.scratch

abbrev Oblivious (x : Act (Server σ) α) : Prop := Act.Agree Alike x x

theorem onSession_oblivious {x : Act (Session σ) α} (h : Session.Oblivious .none x) :
    Oblivious (onSession x) :=
  .within (fun _ _ h => h.session) (fun _ _ _ _ h hsession => { h with session := hsession }) h

theorem log_oblivious (origin : Origin) (level : Level) (message : String) :
    Oblivious (log origin level message : Act (Server σ) Unit) :=
  onSession_oblivious (Session.onPool_agree (Pool.log_agree ..))

theorem modifyFiles_oblivious (f : FileSystem → FileSystem) :
    Oblivious (modifyFiles f : Act (Server σ) Unit) :=
  onSession_oblivious (.modify fun _ _ h => { h with files := congrArg f h.files })

/-! ## The scratch file -/

theorem setScratchOpen_oblivious (isOpen : Bool) :
    Oblivious (setScratchOpen isOpen : Act (Server σ) Unit) :=
  .modify fun _ _ h => { h with scratch := congrArg ({ · with isOpen }) h.scratch }

theorem openScratch_oblivious (path : String) :
    Oblivious (openScratch path : Act (Server σ) Unit) :=
  .bind (modifyFiles_oblivious _) fun _ => .bind (setScratchOpen_oblivious true) fun _ =>
    log_oblivious ..

theorem ensureScratch_oblivious (scratch : Scratch) :
    Oblivious (ensureScratch scratch : Act (Server σ) Unit) := by
  refine .ite (.pure _) ?_
  split
  · exact .fail _
  · exact openScratch_oblivious _

theorem scratch_oblivious : Oblivious (.gets (·.scratch) : Act (Server σ) Scratch) :=
  .gets fun _ _ h => h.scratch

theorem scratchPath_oblivious : Oblivious (scratchPath : Act (Server σ) String) :=
  .bind scratch_oblivious fun _ => .bind (ensureScratch_oblivious _) fun _ => .pure _

theorem resolve_oblivious (name : String) : Oblivious (resolve name : Act (Server σ) String) :=
  .ite (.bind scratchPath_oblivious fun _ => .bind (log_oblivious ..) fun _ => .pure _) (.pure _)

theorem removeScratch_oblivious (path : String) :
    Oblivious (removeScratch path : Act (Server σ) Unit) := by
  refine .get_bind fun s t h => ?_
  rw [show s.session.files = t.session.files from h.session.files]
  split
  · exact modifyFiles_oblivious _
  · exact log_oblivious ..

theorem closeScratch_oblivious : Oblivious (closeScratch : Act (Server σ) Unit) :=
  .bind scratch_oblivious fun _ =>
    .when (.bind (setScratchOpen_oblivious false) fun _ => removeScratch_oblivious _)

/-! ## Commands -/

theorem integer_oblivious (what value : String) :
    Oblivious (integer what value : Act (Server σ) Nat) :=
  .ofExcept _

theorem style_oblivious (name : String) : Oblivious (style name : Act (Server σ) MatchStyle) := by
  unfold style
  split
  · exact .pure _
  · exact .fail _

theorem setDebug_oblivious (value : String) : Oblivious (setDebug value : Act (Server σ) Unit) :=
  .ite (onSession_oblivious (Session.setVerbose_oblivious true))
    (.ite (onSession_oblivious (Session.setVerbose_oblivious false)) (.fail _))

section
variable (E : Engine σ)

theorem perform_oblivious (op : Operation) : Oblivious (perform E op) := by
  refine onSession_oblivious (Session.perform_oblivious E.respects_eq op (fun h => h.elim) ?_)
  intro file source hop f g h
  rw [show f = g from h]
  exact .refl _ _

theorem obey_oblivious (flags : List String) (verb : Verb) (args : List String) :
    Oblivious (obey E flags verb args) := by
  unfold obey
  split
  · exact onSession_oblivious (Session.emit_oblivious _)
  · exact .fail _
  · refine .bind (resolve_oblivious _) fun file => .bind (log_oblivious ..) fun _ => ?_
    exact perform_oblivious E _
  · refine .bind (resolve_oblivious _) fun file => .bind (integer_oblivious ..) fun line => ?_
    refine .bind (integer_oblivious ..) fun column => .bind (log_oblivious ..) fun _ => ?_
    exact perform_oblivious E _
  · exact perform_oblivious E _
  · exact perform_oblivious E _
  · exact .bind (style_oblivious _) fun style => perform_oblivious E _
  · exact perform_oblivious E _
  · exact perform_oblivious E _
  · refine .bind (integer_oblivious ..) fun line => .bind (integer_oblivious ..) fun column => ?_
    exact perform_oblivious E _
  · exact .bind (resolve_oblivious _) fun file => perform_oblivious E _
  · exact .bind (resolve_oblivious _) fun file => perform_oblivious E _
  · exact .bind (resolve_oblivious _) fun file => perform_oblivious E _
  · exact setDebug_oblivious _
  · exact .fail _

theorem execute_oblivious (words : List String) : Oblivious (execute E words) := by
  cases words with
  | nil => exact .fail _
  | cons verb rest =>
    simp only [execute]
    split
    · exact .fail _
    · exact .bind (.ofExcept _) fun _ => obey_oblivious E ..

/-! ## The command loop -/

variable {s t : Server σ}

theorem Alike.journal {j j' : Journal} (h : s.Alike t)
    (hs : j.refuses = s.session.pool.journal.refuses)
    (ht : j'.refuses = t.session.pool.journal.refuses) :
    Alike { s with session.pool.journal := j } { t with session.pool.journal := j' } :=
  { h with session.pool.journal := h.session.pool.journal.of_refuses hs ht }

theorem alike_pairing : Pairing (Alike (σ := σ)) where
  log _ _ _ _ _ _ h := h.journal (Journal.refuses_record ..) (Journal.refuses_record ..)
  take a b _ _ s t h := by
    -- a line leaves an entry in the log, words do not
    cases a with
    | line text =>
      cases b with
      | line text' => exact h.journal (Journal.refuses_record ..) (Journal.refuses_record ..)
      | words ws => exact h.journal (Journal.refuses_record ..) rfl
    | words ws =>
      cases b with
      | line text' => exact h.journal rfl (Journal.refuses_record ..)
      | words ws' => exact h
  frame h := ((onSession_oblivious (Session.emit_oblivious Response.endOfResponse)).ends _ _ h).2

theorem Matches.of_same {a b : Source} (h : a.Same b) : Matches E id Alike a b where
  blank := h.blank.symm
  split := by rw [Except.map_id, h.split, id]
  execute words _ _ _ hst := (execute_oblivious E words).ends _ _ hst

structure Run.Alike (r r' : Run σ) : Prop where
  completed : r.completed.map (·.1) = r'.completed.map (·.1)
  stopped : r.stopped = r'.stopped
  final : r.final.Alike r'.final
  ending : r.ending = r'.ending

theorem run_alike {sources sources' : List Source} (hsame : List.Forall₂ Source.Same sources sources')
    (h : s.Alike t) : (run E sources s).Alike (run E sources' t) := by
  have hpaired := run_paired alike_pairing (hsame.imp fun _ _ => Matches.of_same E) h
  refine ⟨?_, ?_, hpaired.final, hpaired.ending.symm⟩
  · rw [← List.forall₂_eq_eq_eq, List.forall₂_map_left_iff, List.forall₂_map_right_iff]
    exact hpaired.completed.imp fun _ _ h => h.1.symm
  · rw [hpaired.stopped, Option.map_id, id]

/-! ## Shutting down -/

theorem conclude_alike (h : s.Alike t) (ending : Ending) :
    (conclude ending s).1 = (conclude ending t).1 ∧
      (conclude ending s).2.Alike (conclude ending t).2 := by
  unfold conclude
  split
  · exact ⟨rfl, h⟩
  · exact ⟨rfl, h⟩
  · exact ⟨rfl, ((log_oblivious ..).ends s t h).2⟩

theorem shutDown_alike (h : s.Alike t) (ending : Ending) :
    (shutDown E ending s).1 = (shutDown E ending t).1 ∧
      (shutDown E ending s).2.Alike (shutDown E ending t).2 := by
  obtain ⟨r, s', t', hs, ht, h'⟩ := (onSession_oblivious (Session.dispose_oblivious E.respects_eq)).run h
  unfold shutDown
  rw [hs, ht]
  cases r with
  | error e => exact ⟨rfl, h'⟩
  | ok _ => exact ⟨rfl, (closeScratch_oblivious.ends s' t' h').2⟩

theorem serve_eq (sources : List Source) (s : Server σ) :
    serve E sources s =
      let finished := conclude (run E sources s).ending (run E sources s).final
      shutDown E finished.1 finished.2 := rfl

theorem serve_alike {sources sources' : List Source}
    (hsame : List.Forall₂ Source.Same sources sources') (h : s.Alike t) :
    (serve E sources s).1 = (serve E sources' t).1 ∧
      (serve E sources s).2.Alike (serve E sources' t).2 := by
  have hrun := run_alike E hsame h
  obtain ⟨hending, hfinal⟩ := conclude_alike hrun.final (run E sources s).ending
  rw [serve_eq, serve_eq, ← hrun.ending]
  dsimp only
  rw [← hending]
  exact shutDown_alike E hfinal _

end

end Server

end CodeSense
