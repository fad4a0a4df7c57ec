import CodeSense.Proofs.Session.Conduct
import Mathlib.Data.List.TakeWhile

/-!
# What operations show and leave

What lists of candidates and diagnostics are shown as, letter by letter. An operation that does not
decide what is active leaves it as it is, and asks the engine only what `Operation.asks` says
(`step_asked`).
-/

namespace CodeSense

namespace Operation

/-- Whether the operation decides what is active. -/
def decides : Operation → Bool
  | .resetUnsaved _ | .parse .. | .complete .. | .resetActive => true
  | _ => false

def asks {σ : Type} (s : Session σ) (op : Operation) : List Request := (op.asks? s).toList

end Operation

namespace ResultEntry

/-- Whether the entry has to be read, and cannot be. -/
def isBlocked (entry : ResultEntry) : Bool :=
  entry.unreadable.isSome && entry.completion.availability ≠ .notAvailable

theorem isBlocked_of_readable {entry : ResultEntry} (h : entry.unreadable = none) :
    entry.isBlocked = false := by
  simp [isBlocked, h]

end ResultEntry

/-! ## Lists -/

theorem Response.written?_numbers (numbers : List Int) (text : String) :
    written? (numbers.map .number) text =
      if numbers.all Text.isWritable then some text else none := by
  simp [written?, List.all_map, Function.comp_def, Atom.isWritable]

namespace Candidate

def isWritable (c : Candidate) : Bool := c.numbers.all Text.isWritable

def row (c : Candidate) : String := "  " ++ c.text ++ "\n"

theorem candidateLine?_eq (c : Candidate) :
    Session.candidateLine? c = if c.isWritable then some c.row else none := by
  rw [Session.candidateLine?, render?, Response.written?_numbers, isWritable]
  split <;> rfl

end Candidate

namespace Diagnostic

def isWritable (d : Diagnostic) : Bool := d.numbers.all Text.isWritable

def row (d : Diagnostic) : String := d.text ++ "\n"

theorem diagnosticLine?_eq (d : Diagnostic) :
    Session.diagnosticLine? d = if d.isWritable then some d.row else none := by
  rw [Session.diagnosticLine?, render?, Response.written?_numbers, isWritable]
  split <;> rfl

end Diagnostic

namespace Session

variable {σ : Type} {E : Engine σ} {s : Session (Traced σ)}

def diagnosticList (found : List Diagnostic) : String :=
  "(\n" ++ (String.join (found.map (·.row)) ++ ")\n")

def reportBeginning (shown : List Diagnostic) : String :=
  "(\n" ++ String.join (shown.map (·.row))

def candidateList (found : List Candidate) : String :=
  "(\n" ++ (String.join (found.map (·.row)) ++ ")")

def listBeginning (shown : List Candidate) : String :=
  "(\n" ++ String.join (shown.map (·.row))

/-- Diagnostics are listed up to one that cannot be written. -/
theorem shownDiagnostics_eq (found : List Diagnostic) :
    (shownDiagnostics { items := found }).text =
        (if found.all (·.isWritable) then diagnosticList found
        else reportBeginning (found.takeWhile (·.isWritable))) ∧
      (shownDiagnostics { items := found }).result =
        if found.all (·.isWritable) then .ok () else .error .tooManyDigits := by
  unfold shownDiagnostics Listing.spell
  rw [Listing.ofItems_takeWhile Diagnostic.diagnosticLine?_eq]
  cases hall : found.all (·.isWritable) with
  | false => simp [Listing.enclosed, Listing.text, Listing.result, reportBeginning]
  | true =>
    have hwhile : found.takeWhile (·.isWritable) = found :=
      List.takeWhile_eq_self_iff.mpr (by simpa using hall)
    simp [Listing.enclosed, Listing.text, Listing.result, diagnosticList, hwhile]

theorem candidates_append (a b : List Completion) (typed : String) (style : MatchStyle) :
    CodeSense.candidates (a ++ b) typed style =
      CodeSense.candidates a typed style ++ CodeSense.candidates b typed style := by
  unfold CodeSense.candidates
  rw [List.filterMap_append, List.filter_append]

theorem listCandidates_append {entries : List ResultEntry}
    (h : ∀ entry ∈ entries, entry.isBlocked = false) (typed : String) (style : MatchStyle)
    (rest : List ResultEntry) :
    listCandidates typed style (entries ++ rest) = { listCandidates typed style rest with
      items := CodeSense.candidates (entries.map (·.completion)) typed style ++
        (listCandidates typed style rest).items } := by
  induction entries with
  | nil => rfl
  | cons entry entries ih =>
    obtain ⟨hentry, hentries⟩ := List.forall_mem_cons.mp h
    have hcons : CodeSense.candidates ((entry :: entries).map (·.completion)) typed style =
        CodeSense.candidates [entry.completion] typed style ++
          CodeSense.candidates (entries.map (·.completion)) typed style :=
      candidates_append [entry.completion] _ typed style
    rw [List.cons_append, listCandidates, ih hentries, hcons]
    cases hu : entry.unreadable with
    | none => rw [List.append_assoc]
    | some e =>
      have hgone : entry.completion.availability = .notAvailable := by
        simpa [ResultEntry.isBlocked, hu] using hentry
      simp [hgone, CodeSense.candidates, Completion.decode]

/-- Candidates are listed up to one that cannot be written, or to the entry that breaks off. -/
theorem shownCandidates_eq {typed : String} {style : MatchStyle} {set : ActiveCompletion}
    {found : List Candidate} {broken : Option Fault}
    (h : listCandidates typed style set.entries = { items := found, broken }) :
    (shownCandidates typed style set).text =
        (if found.all (·.isWritable) && broken.isNone then candidateList found
        else listBeginning (found.takeWhile (·.isWritable))) ∧
      (shownCandidates typed style set).broken =
        if found.all (·.isWritable) then broken else some .tooManyDigits := by
  unfold shownCandidates Listing.spell
  rw [h, Listing.ofItems_takeWhile Candidate.candidateLine?_eq]
  cases hall : found.all (·.isWritable) with
  | false => simp [Listing.enclosed, Listing.text, listBeginning]
  | true =>
    have hwhile : found.takeWhile (·.isWritable) = found :=
      List.takeWhile_eq_self_iff.mpr (by simpa using hall)
    cases broken <;> simp [Listing.enclosed, Listing.text, candidateList, listBeginning, hwhile]

/-- What is shown if no entry breaks off the list. -/
theorem shownCandidates_clear {set : ActiveCompletion}
    (h : ∀ entry ∈ set.entries, entry.isBlocked = false) (typed : String) (style : MatchStyle) :
    let found := CodeSense.candidates (set.entries.map (·.completion)) typed style
    (shownCandidates typed style set).text =
        (if found.all (·.isWritable) then candidateList found
        else listBeginning (found.takeWhile (·.isWritable))) ∧
      (shownCandidates typed style set).result =
        if found.all (·.isWritable) then .ok () else .error .tooManyDigits := by
  have hlisting := listCandidates_append h typed style []
  simp only [List.append_nil, listCandidates] at hlisting
  obtain ⟨htext, hbroken⟩ := shownCandidates_eq hlisting
  refine ⟨by simpa using htext, ?_⟩
  rw [Listing.result, hbroken]
  split <;> simp_all

/-! ## Operations that decide nothing -/

structure Asked (requests : List Request) (s s' : Session (Traced σ)) : Prop where
  cache : s'.pool.cache = s.pool.cache
  parse : s'.activeParse = s.activeParse
  completion : s'.activeCompletion = s.activeCompletion
  calls : ∃ new, s'.calls = s.calls ++ new ∧ new.map (·.request) = requests

theorem Calm.asked {s' : Session (Traced σ)} (h : Calm s s') : Asked [] s s' :=
  ⟨h.cache, h.parse, h.completion, [], by simp [h.calls], rfl⟩

theorem Called.asked {s' : Session (Traced σ)} {r : Request} {reply : Reply r.Answer}
    (h : Called E ⟨r, reply⟩ s s') : Asked [r] s s' :=
  ⟨h.cache, h.parse, h.completion, [⟨r, reply⟩], h.calls, rfl⟩

theorem Asked.calm {requests : List Request} {t s' : Session (Traced σ)} (h : Asked requests s t)
    (h' : Calm t s') : Asked requests s s' := by
  obtain ⟨new, hcalls, hnew⟩ := h.calls
  exact ⟨h'.cache.trans h.cache, h'.parse.trans h.parse, h'.completion.trans h.completion, new,
    h'.calls.trans hcalls, hnew⟩

theorem Queried.asked {op : Operation} {o : Except Fault Unit} {s' : Session (Traced σ)}
    (h : Queried E.traced s op o s') : Asked (op.asks s) s s' := by
  unfold Operation.asks
  cases h with
  | known hr hw =>
    rw [hr]
    exact hw.calm.asked
  | failed hr hcall =>
    obtain ⟨reply, -, hcalled⟩ := called_of_call hcall
    rw [hr]
    exact hcalled.asked
  | told hr hcall hw =>
    obtain ⟨reply, -, hcalled⟩ := called_of_call hcall
    rw [hr]
    exact hcalled.asked.calm hw.calm

theorem perform_asked {op : Operation} (h : op.decides = false) (s : Session (Traced σ)) :
    Asked (op.asks s) s (perform E.traced op s).2 := by
  by_cases hquery : op.isQuery = true
  · exact (queried_perform hquery s).asked
  · cases op with
    | setUnsaved file source =>
      have hset : SetsUnsaved file source s (setUnsaved file source s).1
          (setUnsaved file source s).2 := (setsUnsaved_setUnsaved file source s).result
      show Asked [] s (setUnsaved file source s).2
      generalize setUnsaved file source s = run at hset
      obtain ⟨o, s'⟩ := run
      cases hset with
      | noPath => exact Calm.asked ⟨rfl, rfl, rfl, rfl⟩
      | unread _ _ hw => exact hw.calm_overlays.asked
      | read _ _ hw => exact hw.calm_overlays.asked
    | _ => first | exact absurd rfl hquery | cases h

structure Kept (s s' : Session (Traced σ)) : Prop where
  cache : s'.pool.cache = s.pool.cache
  parse : s'.activeParse = s.activeParse
  completion : s'.activeCompletion = s.activeCompletion
  calls : Pool.Grows (·.kind ≠ .reparse) s.pool s'.pool

theorem step_asked {move : FileSystem × Operation} (h : move.2.decides = false)
    (s : Session (Traced σ)) : Asked (move.2.asks s) s (step E.traced s move) := by
  have hasks : move.2.asks { s with files := move.1 } = move.2.asks s := by
    unfold Operation.asks
    cases move.2 <;> rfl
  have hstep := perform_asked (E := E) h { s with files := move.1 }
  rw [hasks] at hstep
  exact ⟨hstep.cache, hstep.parse, hstep.completion, hstep.calls⟩

theorem step_kept {move : FileSystem × Operation} (h : move.2.decides = false)
    (s : Session (Traced σ)) : Kept s (step E.traced s move) := by
  obtain ⟨hcache, hparse, hcompletion, new, hcalls, hnew⟩ := step_asked (E := E) h s
  refine ⟨hcache, hparse, hcompletion, new, hcalls, fun x hx => ?_⟩
  have hasked : x.request ∈ move.2.asks s := by
    rw [← hnew]
    exact List.mem_map_of_mem hx
  intro hkind
  have hoverlays := Operation.overlays?_of_asks (Option.mem_toList.mp hasked)
  generalize x.request = r at hkind hoverlays
  cases r <;> simp [Request.kind, Request.overlays?] at hkind hoverlays

theorem run_kept {moves : List (FileSystem × Operation)}
    (h : ∀ move ∈ moves, move.2.decides = false) (s : Session (Traced σ)) :
    Kept s (run E.traced s moves) := by
  induction moves generalizing s with
  | nil => exact ⟨rfl, rfl, rfl, Pool.grows_frame.refl _⟩
  | cons move moves ih =>
    have hstep := step_kept (E := E) (h move (List.mem_cons_self ..)) s
    have hrest := ih (fun m hm => h m (List.mem_cons_of_mem _ hm)) (step E.traced s move)
    exact ⟨hrest.cache.trans hstep.cache, hrest.parse.trans hstep.parse,
      hrest.completion.trans hstep.completion, Pool.grows_frame.trans hstep.calls hrest.calls⟩

end Session

end CodeSense
