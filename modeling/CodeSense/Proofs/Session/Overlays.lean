import CodeSense.Engine.Script
import CodeSense.Proofs.Session.Conduct
import Mathlib.Data.List.Induction

/-!
# The buffers that the engine sees

What is unsaved is a matter of history: a file counts as unsaved if its latest change gave it
content, and the files stand in the order in which each was first given content since it last had
none. `calls_see_buffers`: every call that carries overlays carries that list.
-/

namespace CodeSense

structure Change where
  file : String
  content : Option String
  deriving DecidableEq, Repr

namespace Change

def latest (cs : List Change) (file : String) : Option String :=
  (cs.reverse.find? (·.file = file)).bind (·.content)

/-- The change gives its file content that no later change takes away. -/
def Lasts (c : Change) (later : List Change) : Prop :=
  ∀ d ∈ c :: later, d.file = c.file → d.content.isSome

instance (c : Change) (later : List Change) : Decidable (c.Lasts later) :=
  inferInstanceAs (Decidable (∀ d ∈ c :: later, d.file = c.file → d.content.isSome))

/-- The files given content since they last had none, once for each time. -/
def standing : List Change → List String
  | [] => []
  | c :: later => if c.Lasts later then c.file :: standing later else standing later

def unsaved (cs : List Change) : Keyed String String :=
  (standing cs).eraseDups.filterMap fun file => (latest cs file).map (file, ·)

def overlays (cs : List Change) : List Overlay := (unsaved cs).map fun p => ⟨p.1, p.2⟩

theorem latest_snoc (cs : List Change) (c : Change) (file : String) :
    latest (cs ++ [c]) file = if c.file = file then c.content else latest cs file := by
  unfold latest
  by_cases h : c.file = file <;> simp [h]

theorem lasts_snoc (c : Change) (later : List Change) (d : Change) :
    c.Lasts (later ++ [d]) ↔ c.Lasts later ∧ (d.file = c.file → d.content.isSome) := by
  unfold Lasts
  rw [← List.cons_append, List.forall_mem_append]
  simp

theorem standing_snoc_some (cs : List Change) (file content : String) :
    standing (cs ++ [⟨file, some content⟩]) = standing cs ++ [file] := by
  induction cs with
  | nil => simp [standing, Lasts]
  | cons c cs ih =>
    rw [List.cons_append, standing, standing, ih]
    by_cases h : c.Lasts cs <;> simp [lasts_snoc, h]

theorem standing_snoc_none (cs : List Change) (file : String) :
    standing (cs ++ [⟨file, none⟩]) = (standing cs).filter (· ≠ file) := by
  induction cs with
  | nil => simp [standing, Lasts]
  | cons c cs ih =>
    rw [List.cons_append, standing, standing, ih]
    by_cases h : c.Lasts cs
    · by_cases hfile : c.file = file
      · simp [lasts_snoc, h, hfile]
      · simp [lasts_snoc, h, hfile, Ne.symm hfile]
    · simp [lasts_snoc, h]

theorem mem_standing (cs : List Change) (file : String) :
    file ∈ standing cs ↔ (latest cs file).isSome := by
  induction cs using List.reverseRecOn with
  | nil => simp [standing, latest]
  | append_singleton cs c ih =>
    obtain ⟨file', _ | content⟩ := c
    · rw [standing_snoc_none, latest_snoc, List.mem_filter, ih]
      by_cases h : file' = file
      · simp [h]
      · simp [h, Ne.symm h]
    · rw [standing_snoc_some, latest_snoc, List.mem_append, ih]
      by_cases h : file' = file
      · simp [h]
      · simp [h, Ne.symm h]

theorem filter_eraseDups (p : String → Bool) (files : List String) :
    (files.filter p).eraseDups = files.eraseDups.filter p := by
  induction files using List.reverseRecOn with
  | nil => rfl
  | append_singleton files file ih =>
    rw [List.filter_append, List.eraseDups_append, List.eraseDups_append, List.filter_append, ih]
    by_cases hp : p file <;> by_cases hmem : file ∈ files <;>
      simp [List.removeAll, List.eraseDups_cons, hp, hmem]

theorem has_unsaved (cs : List Change) (file : String) :
    (unsaved cs).has file = true ↔ (latest cs file).isSome := by
  unfold Keyed.has unsaved
  rw [List.any_eq_true]
  constructor
  · rintro ⟨p, hp, hfile⟩
    obtain ⟨file', -, hlatest⟩ := List.mem_filterMap.mp hp
    obtain ⟨content, hcontent, rfl⟩ := Option.map_eq_some_iff.mp hlatest
    rw [← of_decide_eq_true hfile, hcontent]
    rfl
  · intro h
    obtain ⟨content, hcontent⟩ := Option.isSome_iff_exists.mp h
    refine ⟨(file, content), List.mem_filterMap.mpr ⟨file, ?_, ?_⟩, by simp⟩
    · exact List.mem_eraseDups.mpr ((mem_standing cs file).mpr h)
    · rw [hcontent]
      rfl

theorem unsaved_snoc_some (cs : List Change) (file content : String) :
    unsaved (cs ++ [⟨file, some content⟩]) = (unsaved cs).put file content := by
  have hhas := has_unsaved cs file
  unfold Keyed.put
  unfold unsaved at *
  rw [standing_snoc_some, List.eraseDups_append, List.filterMap_append]
  by_cases h : file ∈ standing cs
  · -- the file keeps its place
    rw [if_pos (hhas.mpr ((mem_standing cs file).mp h)), List.map_filterMap]
    have hlast : [file].removeAll (standing cs) = [] := by simp [List.removeAll, h]
    rw [hlast, List.eraseDups_nil, List.filterMap_nil, List.append_nil]
    refine List.filterMap_congr fun file' hfile' => ?_
    have hsome := (mem_standing cs file').mp (List.mem_eraseDups.mp hfile')
    rw [latest_snoc]
    by_cases heq : file = file'
    · subst heq
      obtain ⟨old, hold⟩ := Option.isSome_iff_exists.mp hsome
      simp [hold]
    · cases latest cs file' <;> simp [heq, Ne.symm heq]
  · rw [if_neg fun hin => h ((mem_standing cs file).mpr (hhas.mp hin))]
    have hlast : [file].removeAll (standing cs) = [file] := by simp [List.removeAll, h]
    rw [hlast]
    congr 1
    · refine List.filterMap_congr fun file' hfile' => ?_
      have hne : file ≠ file' := fun heq => h (heq ▸ List.mem_eraseDups.mp hfile')
      rw [latest_snoc, if_neg hne]
    · simp [List.eraseDups_cons, latest_snoc]

theorem unsaved_snoc_none (cs : List Change) (file : String) :
    unsaved (cs ++ [⟨file, none⟩]) = (unsaved cs).erase file := by
  unfold Keyed.erase unsaved
  rw [standing_snoc_none, filter_eraseDups, List.filterMap_filter, List.filter_filterMap]
  refine List.filterMap_congr fun file' _ => ?_
  rw [latest_snoc]
  by_cases heq : file' = file
  · cases latest cs file' <;> simp [heq, Option.filter]
  · cases latest cs file' <;> simp [heq, Ne.symm heq, Option.filter]

end Change

/-- The buffers are what the changes say, and the list is up to date. -/
structure Overlays.Reflects (o : Overlays) (cs : List Change) : Prop where
  contents : o.contents = Change.unsaved cs
  pairs : o.pairs = Change.overlays cs

namespace Overlays

variable {o : Overlays} {cs : List Change}

theorem Reflects.of_rebuild (h : o.contents = Change.unsaved cs) : o.rebuild.Reflects cs :=
  ⟨h, by rw [rebuild, h, Change.overlays]⟩

theorem Reflects.set (h : o.Reflects cs) (file content : String) :
    (o.set file content).rebuild.Reflects (cs ++ [⟨file, some content⟩]) :=
  .of_rebuild (by rw [Change.unsaved_snoc_some, ← h.contents, Overlays.set])

theorem Reflects.remove (h : o.Reflects cs) (file : String) :
    (o.remove file).rebuild.Reflects (cs ++ [⟨file, none⟩]) :=
  .of_rebuild (by rw [Change.unsaved_snoc_none, ← h.contents, Overlays.remove])

/-- There is nothing to remove, and the list is not rebuilt. -/
theorem Reflects.absent (h : o.Reflects cs) {file : String} (hfile : o.has file = false) :
    o.Reflects (cs ++ [⟨file, none⟩]) := by
  have hcontents : o.contents = Change.unsaved (cs ++ [⟨file, none⟩]) := by
    rw [Change.unsaved_snoc_none, ← h.contents]
    exact (Keyed.erase_of_get?_none (Keyed.has_eq_false_iff.mp hfile)).symm
  refine ⟨hcontents, ?_⟩
  rw [h.pairs, Change.overlays, Change.overlays, ← hcontents, h.contents]

end Overlays

/-- What an operation changes about unsaved contents, with the files as it finds them. What is no
path changes nothing. -/
def Operation.change? (files : FileSystem) : Operation → Option Change
  | .setUnsaved file source =>
    if (files.pathFault? source).isSome then none
    else some ⟨file, (files.read source).toOption.map Session.textOf⟩
  | .resetUnsaved file => some ⟨file, none⟩
  | _ => none

theorem Operation.change?_of_keepsBuffers {op : Operation} (h : op.keepsBuffers = true)
    (files : FileSystem) : op.change? files = none := by
  cases op <;> first | rfl | cases h

namespace Session

variable {σ : Type} {E : Engine σ} {s s' : Session (Traced σ)} {cs : List Change}

theorem setUnsaved_outcome (s : Session (Traced σ)) (file source : String) :
    (setUnsaved file source s).1 =
      match s.files.misfit? source with
      | some (c, position) => .error (.unencodable c position)
      | none => if '\x00' ∈ source.toList then .error .nullInPath else .ok () := by
  have hset := (setsUnsaved_setUnsaved file source s).result
  have hpath : (setUnsaved file source s).1 =
      (s.files.pathFault? source).elim (.ok ()) .error := by
    generalize setUnsaved file source s = run at hset
    obtain ⟨o, s'⟩ := run
    cases hset with
    | noPath h => simp [h]
    | unread h => simp [h]
    | read h => simp [h]
  rw [hpath, FileSystem.pathFault?]
  cases s.files.misfit? source with
  | some misfit => rfl
  | none => by_cases hnull : '\x00' ∈ source.toList <;> simp [hnull]

theorem SetsUnsaved.reflects {file source : String} {o : Except Fault Unit}
    (hset : SetsUnsaved file source s o s') (h : s.overlays.Reflects cs) :
    s'.overlays.Reflects (cs ++ ((Operation.setUnsaved file source).change? s.files).toList) := by
  cases hset with
  | noPath hfault =>
    have hchange : (Operation.setUnsaved file source).change? s.files = none := by
      simp [Operation.change?, hfault]
    rw [hchange, Option.toList_none, List.append_nil]
    exact h
  | unread hpath hread hw =>
    have hchange : (Operation.setUnsaved file source).change? s.files = some ⟨file, none⟩ := by
      simp [Operation.change?, hpath, hread, Except.toOption]
    obtain ⟨journal, -, rfl⟩ := hw
    rw [hchange]
    exact h.remove file
  | @read bytes _ hpath hread hw =>
    have hchange : (Operation.setUnsaved file source).change? s.files =
        some ⟨file, some (textOf bytes)⟩ := by
      simp [Operation.change?, hpath, hread, Except.toOption]
    obtain ⟨journal, -, rfl⟩ := hw
    rw [hchange]
    exact h.set file (textOf bytes)

theorem ResetsUnsaved.reflects {file : String}
    (hreset : ResetsUnsaved E.traced file s (.ok ()) s') (h : s.overlays.Reflects cs) :
    s'.overlays.Reflects (cs ++ [⟨file, none⟩]) := by
  cases hreset with
  | reset hreset ho hw =>
    obtain ⟨journal, -, rfl⟩ := hw
    rw [← ((resetActive_quiet E.traced).run hreset).overlays] at h
    subst ho
    dsimp only
    split
    · exact h.remove file
    · rename_i hfile
      exact h.absent (by simpa using hfile)

/-- Unless the engine stops it, an operation does to the buffers what it is said to change. -/
theorem ends_perform_reflects (hs : s.Sound) (h : s.overlays.Reflects cs) (op : Operation) :
    (perform E.traced op).Ends s
      (fun _ s' => s'.overlays.Reflects (cs ++ (op.change? s.files).toList))
      (fun e s' => Trace.Failed s'.calls e ∨
        s'.overlays.Reflects (cs ++ (op.change? s.files).toList)) := by
  by_cases hop : op.keepsBuffers = true
  · have hconduct := perform_conduct (E := E) (M := .ofRequests (fun _ => True) True) s op
      (by simp [Manner.ofRequests, hop]) (fun _ _ => trivial) fun _ _ => trivial
    rw [Operation.change?_of_keepsBuffers hop, Option.toList_none, List.append_nil]
    rw [← hconduct.buffers trivial] at h
    exact (Act.ends_eq _ _).mono (fun _ s' hrun => by rwa [hrun] at h) fun e s' hrun =>
      .inr (by rwa [hrun] at h)
  · cases op with
    | setUnsaved file source =>
      exact (setsUnsaved_setUnsaved file source s).mono (fun _ _ hset => hset.reflects h) fun _ _ hset =>
        .inr (hset.reflects h)
    | resetUnsaved file =>
      refine (resetsUnsaved_resetUnsaved file s).mono (fun _ _ hr => hr.reflects h) fun e s' hr => .inl ?_
      cases hr with
      | unreset hreset => exact ((ends_resetActive hs).at_error hreset).2.failed
    | _ => exact absurd rfl hop

/-! ## Runs -/

def changes (moves : List (FileSystem × Operation)) : List Change :=
  moves.filterMap fun move => move.2.change? move.1

theorem changes_snoc (moves : List (FileSystem × Operation)) (move : FileSystem × Operation) :
    changes (moves ++ [move]) = changes moves ++ (move.2.change? move.1).toList := by
  unfold changes
  rw [List.filterMap_append]
  cases h : move.2.change? move.1 <;> simp [h]

theorem run_snoc (E : Engine σ) (s : Session σ) (moves : List (FileSystem × Operation))
    (move : FileSystem × Operation) : run E s (moves ++ [move]) = step E (run E s moves) move := by
  unfold run
  rw [List.foldl_append]
  rfl

theorem step_grows (s : Session (Traced σ)) (move : FileSystem × Operation) :
    Pool.Grows (·.Carries s.overlays.pairs) s.pool (step E.traced s move).pool := by
  have hconduct := perform_conduct (E := E)
    (M := .ofRequests (·.Carries s.overlays.pairs) (move.2.keepsBuffers = true))
    { s with files := move.1 } move.2 Iff.rfl (fun _ hr => hr) fun _ _ => trivial
  exact hconduct.calls

theorem step_reflects (hs : s.Sound) (h : s.overlays.Reflects cs) (move : FileSystem × Operation)
    (ha : Trace.Answered (step E.traced s move).calls) :
    (step E.traced s move).overlays.Reflects (cs ++ (move.2.change? move.1).toList) := by
  have hperform := ends_perform_reflects (E := E) (hs.withFiles move.1) h move.2
  refine Act.Ends.state (P := fun s' => Trace.Answered s'.calls →
    s'.overlays.Reflects (cs ++ (move.2.change? move.1).toList))
    (hperform.mono (fun _ _ h' _ => h') fun e s' h' ha' => ?_) ha
  exact h'.resolve_left fun hf => Trace.not_answered_of_failed hf ha'

theorem run_reflects (hs : s.Sound) (h : s.overlays.Reflects cs)
    (moves : List (FileSystem × Operation)) (ha : Trace.Answered (run E.traced s moves).calls) :
    (run E.traced s moves).overlays.Reflects (cs ++ changes moves) := by
  induction moves using List.reverseRecOn with
  | nil =>
    rw [show changes [] = [] from rfl, List.append_nil]
    exact h
  | append_singleton moves move ih =>
    rw [run_snoc] at ha ⊢
    obtain ⟨new, hcalls, -⟩ := step_grows (E := E) (run E.traced s moves) move
    have hbefore : Trace.Answered (run E.traced s moves).calls := by
      rw [Session.calls, hcalls, Trace.answered_append] at ha
      exact ha.1
    rw [changes_snoc, ← List.append_assoc]
    exact step_reflects (sound_run hs moves) (ih hbefore) move ha

/-- The move after `past` made the call after `before`. -/
structure MadeBy (E : Engine σ) (s : Session (Traced σ)) (past : List (FileSystem × Operation))
    (move : FileSystem × Operation) (before : List Call) (x : Call) : Prop where
  after : (run E.traced s past).calls <+: before
  upTo : before ++ [x] <+: (run E.traced s (past ++ [move])).calls

theorem exists_madeBy (hs : s.calls = []) {moves : List (FileSystem × Operation)}
    {before after : List Call} {x : Call}
    (h : (run E.traced s moves).calls = before ++ x :: after) :
    ∃ past move future, moves = past ++ move :: future ∧ MadeBy E s past move before x := by
  induction moves using List.reverseRecOn generalizing after with
  | nil =>
    rw [show (run E.traced s []).calls = s.calls from rfl, hs] at h
    simp at h
  | append_singleton moves move ih =>
    obtain ⟨new, hcalls, -⟩ := step_grows (E := E) (run E.traced s moves) move
    have hsplit : (run E.traced s moves).calls ++ new = before ++ x :: after := by
      rw [← h, run_snoc]
      exact hcalls.symm
    rcases List.append_eq_append_iff.mp hsplit with ⟨made, hbefore, -⟩ | ⟨made, hold, hmade⟩
    · refine ⟨moves, move, [], rfl, ⟨made, hbefore.symm⟩, after, ?_⟩
      rw [h]
      simp
    · cases made with
      | nil =>
        refine ⟨moves, move, [], rfl, ⟨[], by simpa using hold⟩, after, ?_⟩
        rw [h]
        simp
      | cons y made =>
        obtain ⟨rfl, -⟩ := List.cons.inj hmade
        obtain ⟨past, move', future, rfl, hmadeBy⟩ := ih hold
        exact ⟨past, move', future ++ [move], by simp, hmadeBy⟩

theorem MadeBy.carries {past : List (FileSystem × Operation)} {move : FileSystem × Operation}
    {before : List Call} {x : Call} (h : MadeBy E s past move before x) :
    x.request.Carries (run E.traced s past).overlays.pairs := by
  obtain ⟨new, hgrown, hnew⟩ := step_grows (E := E) (run E.traced s past) move
  obtain ⟨made, rfl⟩ := h.after
  obtain ⟨rest, hupTo⟩ := h.upTo
  rw [run_snoc, show (step E.traced (run E.traced s past) move).calls = _ from hgrown,
    List.append_assoc, List.append_assoc] at hupTo
  refine hnew x ?_
  rw [← List.append_cancel_left hupTo]
  simp

/-- If the call carries overlays, these are what the changes before its move say is unsaved. -/
def SeesBuffers (E : Engine σ) (s : Session (Traced σ)) (moves : List (FileSystem × Operation))
    (before : List Call) (x : Call) : Prop :=
  ∀ overlays, x.request.overlays? = some overlays →
    ∃ past move future, moves = past ++ move :: future ∧ MadeBy E s past move before x ∧
      overlays = Change.overlays (changes past)

/-- **Calls see the buffers.** This is so in every run over an engine that answers every call. A
source that is no path stops its operation, and no other does. -/
theorem calls_see_buffers (state : σ) (settings : Settings) (journal : Journal)
    (moves : List (FileSystem × Operation))
    (ha : Trace.Answered (run E.traced (opened state settings journal) moves).calls) :
    Trace.Throughout (SeesBuffers E (opened state settings journal) moves)
      (run E.traced (opened state settings journal) moves).calls ∧
    ∀ (s : Session (Traced σ)) (file source : String),
      (perform E.traced (.setUnsaved file source) s).1 =
        match s.files.misfit? source with
        | some (c, position) => .error (.unencodable c position)
        | none => if '\x00' ∈ source.toList then .error .nullInPath else .ok () := by
  have hopened := sound_opened state settings journal
  have hempty : (opened state settings journal).overlays.Reflects [] := ⟨rfl, rfl⟩
  refine ⟨fun before x after hcalls overlays hx => ?_, setUnsaved_outcome⟩
  obtain ⟨past, move, future, rfl, hmade⟩ := exists_madeBy rfl hcalls
  refine ⟨past, move, future, rfl, hmade, ?_⟩
  rw [hmade.carries overlays hx]
  refine (run_reflects hopened hempty past ?_).pairs
  obtain ⟨made, rfl⟩ := hmade.after
  rw [hcalls, List.append_assoc, Trace.answered_append] at ha
  exact ha.1

/-- A crash, an empty buffer, one that cannot be read, one that is no path, and a file that comes
back after it was reset. -/
theorem calls_see_buffers_interleaved :
    let start : Session (Traced Script) := opened { parses := [(2, false), (0, true)] } {} {}
    let disk : FileSystem := { nodes := [(["t"], .file [120]), (["e"], .file [])] }
    let moves := [(disk, .setUnsaved "a" "t"), (disk, .setUnsaved "b" "e"),
      ({}, .setUnsaved "c" "t"), (disk, .parse "a" []), (disk, .setUnsaved "a" "e\x00"),
      (disk, .setUnsaved "a" "e"), (disk, .complete "b" 1 1 []), (disk, .resetUnsaved "a"),
      (disk, .setUnsaved "a" "t"), ({}, .parse "a" [])]
    let calls := (run Script.engine.traced start moves).calls
    Trace.Answered calls ∧ Trace.Throughout (SeesBuffers Script.engine start moves) calls ∧
      calls.filterMap (·.request.overlays?) = [
        [⟨"a", "x"⟩, ⟨"b", ""⟩], [⟨"a", "x"⟩, ⟨"b", ""⟩], [⟨"a", "x"⟩, ⟨"b", ""⟩],
        [⟨"a", ""⟩, ⟨"b", ""⟩], [⟨"a", ""⟩, ⟨"b", ""⟩], [⟨"a", ""⟩, ⟨"b", ""⟩],
        [⟨"b", ""⟩, ⟨"a", "x"⟩]] := by
  intro start disk moves calls
  have ha : Trace.Answered calls := by decide +kernel
  exact ⟨ha, (calls_see_buffers _ _ _ _ ha).1, by decide +kernel⟩

end Session

end CodeSense
