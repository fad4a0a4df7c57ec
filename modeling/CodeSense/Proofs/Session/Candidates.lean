import CodeSense.Engine.Script
import CodeSense.Proofs.Response.Reading
import CodeSense.Proofs.Session.Effects

/-!
# Reading candidates

The editor takes a list of candidates apart again: `Candidate.ofDatum?`. What a session lists is
read back as the candidates that it has found, one by one and field by field:
`candidates_read_back`. A number that is too long to be written breaks the list off
(`candidate_unlisted`).
-/

namespace CodeSense

open Response (Datum Spells spells_quote spells_number spells_parens spells_symbol)

def Availability.ofName? (name : String) : Option Availability := all.find? (·.name = name)

theorem Availability.ofName?_name (a : Availability) : ofName? a.name = some a := by
  cases a <;> decide

def Response.Datum.number? : Datum → Option Int
  | .number n => some n
  | _ => none

namespace Candidate

def ofDatum? : Datum → Option Candidate
  | .list [.text typedText, .number priority, .text resultType, .text briefComment,
      .text prototype, .number annotationStart, .list (.text postCompletionText :: spans),
      .symbol availability] => do
    let placeholderSpans ← spans.mapM Datum.number?
    let availability ← Availability.ofName? availability
    return {
      typedText, priority, resultType, briefComment, prototype, annotationStart
      postCompletionText, placeholderSpans, availability }
  | _ => none

def datum (c : Candidate) : Datum :=
  .list [.text c.typedText, .number c.priority, .text c.resultType, .text c.briefComment,
    .text c.prototype, .number c.annotationStart,
    .list (.text c.postCompletionText :: c.placeholderSpans.map .number),
    .symbol c.availability.name]

theorem ofDatum?_datum (c : Candidate) : ofDatum? c.datum = some c := by
  have hspans : (c.placeholderSpans.map Datum.number).mapM Datum.number? =
      some c.placeholderSpans := by
    induction c.placeholderSpans with
    | nil => rfl
    | cons n spans ih => simp [ih, Datum.number?]
  simp [datum, ofDatum?, hspans, Availability.ofName?_name]

theorem datum_injective {c d : Candidate} (h : c.datum = d.datum) : c = d := by
  have hread := congrArg ofDatum? h
  rw [ofDatum?_datum, ofDatum?_datum] at hread
  exact Option.some.inj hread

theorem spells_availability (a : Availability) : Spells a.name (.symbol a.name) := by
  have hname : ∀ c ∈ a.name.toList, Response.isDelimiter c = false := by
    cases a <;> simp [Availability.name] <;> decide
  cases a with
  | available => exact spells_symbol (c := 'a') (by decide) (by decide) hname
  | deprecated => exact spells_symbol (c := 'd') (by decide) (by decide) hname
  | notAvailable => exact spells_symbol (c := 'n') (by decide) (by decide) hname
  | notAccessible => exact spells_symbol (c := 'n') (by decide) (by decide) hname

theorem spells_text (c : Candidate) : Spells c.text c.datum := by
  have hpost : Spells
      (Response.parens (Response.quote c.postCompletionText :: c.placeholderSpans.map Response.number))
      (.list (.text c.postCompletionText :: c.placeholderSpans.map .number)) := by
    refine spells_parens (.cons (spells_quote _) ?_) fun d hd => ?_
    · exact Response.forall₂_spells _ fun n _ => spells_number n
    · obtain ⟨n, -, rfl⟩ := List.mem_map.mp hd
      rfl
  refine spells_parens ?_ ?_
  · exact .cons (spells_quote _) (.cons (spells_number _) (.cons (spells_quote _)
      (.cons (spells_quote _) (.cons (spells_quote _) (.cons (spells_number _)
      (.cons hpost (.cons (spells_availability _) .nil)))))))
  · have hname : ∀ a : Availability, (Datum.symbol a.name).isDot = false := by
      intro a
      cases a <;> rfl
    simp only [List.tail_cons, List.forall_mem_cons]
    exact ⟨rfl, rfl, rfl, rfl, rfl, rfl, hname _, by simp⟩

end Candidate

namespace Session

variable {σ : Type}

theorem spells_candidateList (found : List Candidate) :
    Spells (candidateList found) (.list (found.map Candidate.datum)) := by
  have htext : candidateList found =
      "(\n" ++ String.join ((found.map Candidate.text).map fun t => "  " ++ t ++ "\n") ++ ")" := by
    simp [candidateList, Candidate.row, String.append_assoc, Function.comp_def]
  rw [htext]
  refine Response.spells_block (by simp; decide) (by simp; decide) (by decide)
    (Response.forall₂_spells found fun c _ => c.spells_text) fun d hd => ?_
  obtain ⟨c, -, rfl⟩ := List.mem_map.mp hd
  rfl

theorem read_candidateList (found : List Candidate) :
    Response.read (candidateList found).toList = some (.list (found.map Candidate.datum), []) := by
  have hread := (spells_candidateList found).read (Response.apart_nil _)
  rwa [List.append_nil] at hread

theorem candidateList_injective {a b : List Candidate} (h : candidateList a = candidateList b) :
    a = b := by
  have hread := read_candidateList a
  rw [h, read_candidateList b] at hread
  have hlists : b.map Candidate.datum = a.map Candidate.datum :=
    Datum.list.inj (Prod.mk.inj (Option.some.inj hread)).1
  exact (List.map_injective_iff.mpr (fun _ _ => Candidate.datum_injective) hlists).symm

def Holds (s : Session (Traced σ)) (records : List Completion) : Prop :=
  ∃ handle, s.activeCompletion = some (.ofResults handle (records.map ({ completion := · })))

def found (records : List Completion) (typed : String) (style : MatchStyle) : List Candidate :=
  CodeSense.candidates (sortByPriority (·.priority) records) typed style

def Lists (s : Session (Traced σ)) (typed : String) (style : MatchStyle) (text : String) : Prop :=
  ∃ s', candidates typed style s = (.ok (), s') ∧ s'.out = s.out ++ text

theorem map_completion_ofResults (handle : Handle) (entries : List ResultEntry) :
    (ActiveCompletion.ofResults handle entries).entries.map (·.completion) =
      sortByPriority (·.priority) (entries.map (·.completion)) := by
  unfold ActiveCompletion.ofResults sortByPriority
  exact List.map_mergeSort fun _ _ _ _ => rfl

theorem mem_ofResults {handle : Handle} {entries : List ResultEntry} {entry : ResultEntry} :
    entry ∈ (ActiveCompletion.ofResults handle entries).entries ↔ entry ∈ entries :=
  List.mem_mergeSort

/-- The session stops with the fault when it is asked for candidates, and has written the text. -/
def StopsListing (s : Session (Traced σ)) (typed : String) (style : MatchStyle) (text : String)
    (e : Fault) : Prop :=
  ∃ s', candidates typed style s = (.error e, s') ∧ s'.out = s.out ++ text

theorem candidates_shown {s : Session (Traced σ)} {set : ActiveCompletion}
    (hset : s.activeCompletion = some set) (typed : String) (style : MatchStyle) :
    ∃ s', candidates typed style s = ((shownCandidates typed style set).result, s') ∧
      s'.out = s.out ++ (shownCandidates typed style set).text := by
  obtain ⟨s', hrun, hw⟩ := candidates_recites typed style s
  simp only [Operation.knows, hset] at hrun hw
  obtain ⟨journal, -, rfl⟩ := hw
  exact ⟨_, hrun, rfl⟩

theorem lists_of_clear {s : Session (Traced σ)} {set : ActiveCompletion}
    (hset : s.activeCompletion = some set)
    (h : ∀ entry ∈ set.entries, entry.isBlocked = false) (typed : String) (style : MatchStyle) :
    let found := CodeSense.candidates (set.entries.map (·.completion)) typed style
    if found.all (·.isWritable) then Lists s typed style (candidateList found)
    else StopsListing s typed style (listBeginning (found.takeWhile (·.isWritable)))
      .tooManyDigits := by
  obtain ⟨s', hrun, hout⟩ := candidates_shown hset typed style
  obtain ⟨htext, hresult⟩ := shownCandidates_clear h typed style
  intro found
  rw [htext] at hout
  rw [hresult] at hrun
  split
  · rename_i hall
    rw [if_pos hall] at hrun hout
    exact ⟨s', hrun, hout⟩
  · rename_i hall
    rw [if_neg hall] at hrun hout
    exact ⟨s', hrun, hout⟩

theorem Holds.lists {s : Session (Traced σ)} {records : List Completion} (h : Holds s records)
    (typed : String) (style : MatchStyle) :
    if (found records typed style).all (·.isWritable) then
      Lists s typed style (candidateList (found records typed style))
    else
      StopsListing s typed style
        (listBeginning ((found records typed style).takeWhile (·.isWritable))) .tooManyDigits := by
  obtain ⟨handle, hset⟩ := h
  have hclear : ∀ entry ∈ (ActiveCompletion.ofResults handle
      (records.map ({ completion := · }))).entries, entry.isBlocked = false := by
    intro entry hentry
    obtain ⟨record, -, rfl⟩ := List.mem_map.mp (mem_ofResults.mp hentry)
    exact ResultEntry.isBlocked_of_readable rfl
  have hlists := lists_of_clear hset hclear typed style
  rw [map_completion_ofResults, List.map_map, Function.comp_def, List.map_id'] at hlists
  exact hlists

theorem Holds.eq_of_lists {s : Session (Traced σ)} {records : List Completion} {typed : String}
    {style : MatchStyle} {text : String} (h : Holds s records) (hlists : Lists s typed style text) :
    text = candidateList (found records typed style) := by
  obtain ⟨t, ht, hout⟩ := hlists
  have hown := h.lists typed style
  split at hown
  · obtain ⟨t', ht', hout'⟩ := hown
    rw [ht] at ht'
    cases ht'
    exact (String.append_right_inj _).mp (hout.symm.trans hout')
  · obtain ⟨t', ht', -⟩ := hown
    rw [ht] at ht'
    cases ht'

/-- **Candidates are read back.** The text that a session with results writes is one list, with a
value for each candidate that it has found, in their order, and each gives back all of its
candidate. No other candidates are written like this. The list breaks off before the first candidate
with a number that is too long to be written. -/
theorem candidates_read_back {s : Session (Traced σ)} {records : List Completion}
    (h : Holds s records) (typed : String) (style : MatchStyle) :
    if (found records typed style).all (·.isWritable) then
      ∃ text, Lists s typed style text ∧
        (∃ ds, Response.read text.toList = some (.list ds, []) ∧
          ds.map Candidate.ofDatum? = (found records typed style).map some) ∧
        ∀ (s' : Session (Traced σ)) records' typed' style', Holds s' records' →
          Lists s' typed' style' text → found records' typed' style' = found records typed style
    else
      StopsListing s typed style
        (listBeginning ((found records typed style).takeWhile (·.isWritable))) .tooManyDigits := by
  have hlists := h.lists typed style
  split
  · rename_i hall
    rw [if_pos hall] at hlists
    refine ⟨_, hlists, ⟨_, read_candidateList _, ?_⟩, ?_⟩
    · rw [List.map_map]
      exact List.map_congr_left fun c _ => c.ofDatum?_datum
    · intro s' records' typed' style' h' hlists'
      exact candidateList_injective (h'.eq_of_lists hlists').symm
  · rename_i hall
    rw [if_neg hall] at hlists
    exact hlists

/-- Fields with backslashes, quotes, parentheses and line ends, and one that is empty. -/
theorem candidates_read_back_escaped :
    let records : List Completion := [
      { priority := 7, brief := some ") (\"",
        chunks := [⟨.typedText, "f\\"⟩, ⟨.leftParen, ""⟩, ⟨.placeholder, "\n"⟩, ⟨.rightParen, ""⟩] },
      { priority := -3, availability := .deprecated, brief := none,
        chunks := [⟨.resultType, "int"⟩, ⟨.typedText, ""⟩] }]
    let s : Session (Traced Script) := { opened {} {} {} with
      activeCompletion := some (.ofResults 2 (records.map ({ completion := · }))) }
    Holds s records ∧
      found records "" .exact = [
        { typedText := "", priority := -3, resultType := "int", availability := .deprecated },
        { typedText := "f\\", priority := 7, briefComment := ") (\"", prototype := "f\\(\n)",
          annotationStart := 2, postCompletionText := "(\n)", placeholderSpans := [1, 2] }] ∧
      ∃ text, Lists s "" .exact text ∧
        (∃ ds, Response.read text.toList = some (.list ds, []) ∧
          ds.map Candidate.ofDatum? = (found records "" .exact).map some) ∧
        ∀ (s' : Session (Traced Script)) records' typed' style', Holds s' records' →
          Lists s' typed' style' text → found records' typed' style' = found records "" .exact := by
  intro records s
  have hs : Holds s records := ⟨2, rfl⟩
  have hsorted : sortByPriority (·.priority) records = records.reverse := by
    simp [sortByPriority, List.mergeSort, records]
  have hfound : found records "" .exact = CodeSense.candidates records.reverse "" .exact := by
    rw [found, hsorted]
  have hall : (found records "" .exact).all (·.isWritable) = true := by
    rw [hfound]
    decide +kernel
  have hread := candidates_read_back hs "" .exact
  rw [if_pos hall] at hread
  refine ⟨hs, ?_, hread⟩
  rw [hfound]
  decide +kernel

/-- A candidate whose priority is too long to be written is not listed, nor is the list finished. -/
theorem candidate_unlisted :
    let priority := Int.ofNat (Nat.pow 10 Text.maxDigits)
    let records : List Completion := [{ priority, chunks := [⟨.typedText, "x"⟩] }]
    let s : Session (Traced Script) := { opened {} {} {} with
      activeCompletion := some (.ofResults 2 (records.map ({ completion := · }))) }
    Holds s records ∧
      found records "" .exact =
        [{ typedText := "x", priority, prototype := "x", annotationStart := 1 }] ∧
      (∀ text, ¬ Lists s "" .exact text) ∧ StopsListing s "" .exact "(\n" .tooManyDigits := by
  intro priority records s
  have hrun : (candidates "" .exact s).1 = .error .tooManyDigits := by decide +kernel
  have hout : (candidates "" .exact s).2.out = s.out ++ "(\n" := by decide +kernel
  refine ⟨⟨2, rfl⟩, by decide +kernel, fun text hlists => ?_, _, Act.run_eq hrun, hout⟩
  obtain ⟨s', hs', -⟩ := hlists
  rw [hs'] at hrun
  cases hrun

end Session

end CodeSense
