import CodeSense.Proofs.Completion.Ranking
import CodeSense.Proofs.Session.Active
import CodeSense.Proofs.Session.Candidates

/-!
# What is listed after a completion

Results are sorted when they come in, and decoded and matched when they are listed. What is
listed is what decoding and matching makes of the results in the engine's order, sorted by
priority: `candidates_ranked`.
-/

namespace CodeSense

def Call.results? : Call → Option (List ResultEntry)
  | ⟨.completionResults _, reply⟩ => reply.result.toOption
  | _ => none

namespace Session

variable {σ : Type} {E : Engine σ} {s : Session (Traced σ)}

/-- The session lists what was found. An entry that has to be read and cannot be breaks the list off
at its place, and so does a candidate that cannot be written. -/
def ListsFound (s : Session (Traced σ)) (typed : String) (style : MatchStyle)
    (entries : List ResultEntry) (found : List Candidate) : Prop :=
  if entries.any (·.isBlocked) then
    ∃ e shown, shown <+: found ∧ StopsListing s typed style (listBeginning shown) e ∧
      ((∃ entry ∈ entries, entry.unreadable = some e) ∨
        e = .tooManyDigits ∧ ∃ c ∈ found, c.isWritable = false)
  else if found.all (·.isWritable) then Lists s typed style (candidateList found)
  else
    StopsListing s typed style (listBeginning (found.takeWhile (·.isWritable))) .tooManyDigits

theorem stopsListing_of_blocked {set : ActiveCompletion} {before rest : List ResultEntry}
    {entry : ResultEntry} {e : Fault} (hset : s.activeCompletion = some set)
    (hentries : set.entries = before ++ entry :: rest)
    (hbefore : ∀ entry ∈ before, entry.isBlocked = false) (hblocked : entry.isBlocked = true)
    (he : entry.unreadable = some e) (typed : String) (style : MatchStyle) :
    let found := CodeSense.candidates (before.map (·.completion)) typed style
    StopsListing s typed style (listBeginning (found.takeWhile (·.isWritable)))
      (if found.all (·.isWritable) then e else .tooManyDigits) := by
  intro found
  have hlisting : listCandidates typed style set.entries = { items := found, broken := some e } := by
    have hneeded : entry.completion.availability ≠ .notAvailable := by
      simpa [ResultEntry.isBlocked, he] using hblocked
    rw [hentries, listCandidates_append hbefore, listCandidates, he]
    simp [hneeded, found]
  obtain ⟨htext, hbroken⟩ := shownCandidates_eq hlisting
  obtain ⟨s', hrun, hout⟩ := candidates_shown hset typed style
  refine ⟨s', ?_, by simpa [htext] using hout⟩
  rw [hrun, Listing.result_eq_error.mpr]
  rw [hbroken]
  split <;> rfl

theorem listsFound {id : Handle} {entries : List ResultEntry}
    (hset : s.activeCompletion = some (.ofResults id entries)) (typed : String)
    (style : MatchStyle) :
    ListsFound s typed style entries
      (CodeSense.candidates (sortByPriority (·.priority) (entries.map (·.completion))) typed style) := by
  rw [← map_completion_ofResults id]
  unfold ListsFound
  cases hfirst : (ActiveCompletion.ofResults id entries).entries.find? (·.isBlocked) with
  | none =>
    have hclear : ∀ entry ∈ (ActiveCompletion.ofResults id entries).entries,
        entry.isBlocked = false := by
      simpa using hfirst
    rw [if_neg (by simpa [mem_ofResults] using hclear)]
    exact lists_of_clear hset hclear typed style
  | some entry =>
    obtain ⟨hblocked, before, rest, hentries, hbefore⟩ := List.find?_eq_some_iff_append.mp hfirst
    have hentry : entry ∈ entries := mem_ofResults.mp (by rw [hentries]; simp)
    obtain ⟨e, he⟩ : ∃ e, entry.unreadable = some e := by
      simp only [ResultEntry.isBlocked, Bool.and_eq_true] at hblocked
      exact Option.isSome_iff_exists.mp hblocked.1
    have hstops := stopsListing_of_blocked hset hentries (by simpa using hbefore) hblocked he typed style
    rw [if_pos (List.any_eq_true.mpr ⟨entry, hentry, hblocked⟩), hentries, List.map_append,
      candidates_append]
    refine ⟨_, _, (List.takeWhile_prefix _).trans (List.prefix_append _ _), hstops, ?_⟩
    split
    · exact .inl ⟨entry, hentry, he⟩
    · rename_i hall
      obtain ⟨c, hc, hlong⟩ : ∃ c ∈ CodeSense.candidates (before.map (·.completion)) typed style,
          c.isWritable = false := by
        simpa using hall
      exact .inr ⟨rfl, c, List.mem_append_left _ hc, hlong⟩

/-- **Candidates are ranked.** What a session lists after a completion that succeeded are the
decodings of the engine's results that are available and match, each once, best first, and in the
engine's order as far as they are equally good. The list breaks off before a candidate that cannot be
written. -/
theorem candidates_ranked (state : σ) (settings : Settings) (journal : Journal)
    (moves later : List (FileSystem × Operation)) (files : FileSystem) (file : String)
    (line column : Int) (flags : List String)
    (hlater : ∀ move ∈ later, move.2.decides = false) :
    let s := { run E.traced (opened state settings journal) moves with files }
    ∀ t, complete E.traced file line column flags s = (.ok (), t) →
      t.out = s.out ++ (Response.success ++ "\n") →
      ∃ entries, t.calls.getLast?.bind (·.results?) = some entries ∧
        ∀ typed style,
          let offered := CodeSense.candidates (entries.map (·.completion)) typed style
          let found := CodeSense.candidates
            (sortByPriority (·.priority) (entries.map (·.completion))) typed style
          Offers typed style (entries.map (·.completion)) offered ∧
          Offers typed style (sortByPriority (·.priority) (entries.map (·.completion))) found ∧
          found = sortByPriority (·.priority) offered ∧ Ranked offered found ∧
          ListsFound (run E.traced t later) typed style entries found := by
  intro s t hcomplete hout
  have hsound : s.Sound := (sound_run (sound_opened state settings journal) moves).withFiles files
  have hcompletes : Completes E.traced file line column flags s (.ok ()) t :=
    (completes_complete s).at_ok hcomplete
  rcases hcompletes.answered hsound with ⟨-, hset⟩ | ⟨-, hrefused, -⟩
  · obtain ⟨id, entries, made, unit, reply, reply', hactive, -, hreply', hcalls⟩ := hset.set
    refine ⟨entries, ?_, fun typed style => ?_⟩
    · rw [hcalls]
      simp [Call.results?, hreply', Except.toOption]
    · refine ⟨offers_candidates _, offers_candidates _, candidates_sorted _, ?_, ?_⟩
      · rw [candidates_sorted]
        exact ranked_sortByPriority _
      · exact listsFound ((run_kept hlater t).completion.trans hactive) typed style
  · exact absurd ((String.append_right_inj _).mp (hout.symm.trans hrefused)) (success_ne_error _ _ _)

/-- Results of equal and of negative priority, one of them twice, and one that is not available. Of
those that begin with `f`, the best comes first, and the two that are alike both come. -/
theorem candidates_ranked_twice :
    let records : List Completion := [
      { priority := 5, chunks := [⟨.typedText, "f"⟩] },
      { priority := -1, chunks := [⟨.typedText, "fg"⟩] },
      { priority := -7, availability := .notAvailable, chunks := [⟨.typedText, "f"⟩] },
      { priority := 5, chunks := [⟨.typedText, "f"⟩] },
      { priority := 5, chunks := [⟨.typedText, "F"⟩] }]
    let state : Script := { completions := [some { completions := records }] }
    let moves : List (FileSystem × Operation) := [({}, .parse "a" [])]
    let later : List (FileSystem × Operation) := [({}, .candidates "g" .exact), ({}, .diagnostics)]
    let s := { run Script.engine.traced (opened state {} {}) moves with files := {} }
    let t := (complete Script.engine.traced "a" 1 1 [] s).2
    let f : Candidate := { typedText := "f", priority := 5, prototype := "f", annotationStart := 1 }
    let g : Candidate :=
      { typedText := "fg", priority := -1, prototype := "fg", annotationStart := 2 }
    complete Script.engine.traced "a" 1 1 [] s = (.ok (), t) ∧
      t.out = s.out ++ (Response.success ++ "\n") ∧
      Offers "f" .exact records [f, g, f] ∧ Ranked [f, g, f] [g, f, f] ∧
      Lists (run Script.engine.traced t later) "f" .exact (candidateList [g, f, f]) := by
  intro records state moves later s t f g
  have hok : (complete Script.engine.traced "a" 1 1 [] s).1 = .ok () := by decide +kernel
  have hcomplete : complete Script.engine.traced "a" 1 1 [] s = (.ok (), t) := by rw [← hok]
  have hout : t.out = s.out ++ (Response.success ++ "\n") := by decide +kernel
  have hlater : ∀ move ∈ later, move.2.decides = false := by decide
  obtain ⟨entries, hlast, hranked⟩ :=
    candidates_ranked state {} {} moves later {} "a" 1 1 [] hlater t hcomplete hout
  have hresults : (t.calls.getLast?.bind (·.results?)).map
      (fun entries => (entries.map (·.completion), entries.any (·.isBlocked))) =
      some (records, false) := by decide +kernel
  obtain ⟨hrecords, hclear⟩ :
      entries.map (·.completion) = records ∧ entries.any (·.isBlocked) = false := by
    rw [hlast] at hresults
    exact Prod.mk.inj (Option.some.inj hresults)
  obtain ⟨hoffers, -, hfound, hrank, hlists⟩ := hranked "f" .exact
  have hoffered : CodeSense.candidates records "f" .exact = [f, g, f] := by decide +kernel
  have hsorted : sortByPriority (·.priority) [f, g, f] = [g, f, f] := by
    simp [sortByPriority, List.mergeSort, f, g]
  have hwritable : [g, f, f].all (·.isWritable) = true := by decide +kernel
  rw [hrecords, hoffered] at hoffers
  rw [hrecords, hoffered, hsorted] at hfound
  rw [hrecords, hoffered, hfound] at hrank
  rw [hrecords, hfound, ListsFound, hclear] at hlists
  rw [if_neg (by simp), if_pos hwritable] at hlists
  exact ⟨hcomplete, hout, hoffers, hrank, hlists⟩

/-- A result that is found and cannot be written is not listed. -/
theorem candidate_found_unlisted :
    let priority := Int.ofNat (Nat.pow 10 Text.maxDigits)
    let records : List Completion := [{ priority, chunks := [⟨.typedText, "x"⟩] }]
    let s : Session (Traced Script) :=
      opened { completions := [some { completions := records }] } {} {}
    let t := (complete Script.engine.traced "a" 1 1 [] s).2
    t.out = Response.success ++ "\n" ∧
      CodeSense.candidates records "" .exact =
        [{ typedText := "x", priority, prototype := "x", annotationStart := 1 }] ∧
      (∀ text, ¬ Lists t "" .exact text) ∧ StopsListing t "" .exact "(\n" .tooManyDigits := by
  intro priority records s t
  have hrun : (candidates "" .exact t).1 = .error .tooManyDigits := by decide +kernel
  have hout : (candidates "" .exact t).2.out = t.out ++ "(\n" := by decide +kernel
  refine ⟨by decide +kernel, by decide +kernel, fun text hlists => ?_, _, Act.run_eq hrun, hout⟩
  obtain ⟨t', ht', -⟩ := hlists
  rw [ht'] at hrun
  cases hrun

end Session

end CodeSense
