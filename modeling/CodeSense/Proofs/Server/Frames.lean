import CodeSense.Proofs.Response.Frame
import CodeSense.Proofs.Response.Reading
import CodeSense.Proofs.Server.Loop

/-!
# Telling responses apart

Responses quote strings of the engine, of the commands and the name of the scratch file. As long as
none of these holds the frame, no response does, and the output of a run is cut into the responses:
`responses_separable`. Words that come from a line are too short of line ends to hold it. There is
no such bound for the engine's strings, and `message_marked` shows what follows.
-/

namespace CodeSense

open Response (Marked Safe safe_quote safe_number safe_parens safe_join safe_of_plain)

def Candidate.quoted (c : Candidate) : List String :=
  [c.typedText, c.resultType, c.briefComment, c.prototype, c.postCompletionText]

def ResultEntry.quoted (entry : ResultEntry) : List String :=
  entry.completion.decode.toList.flatMap (·.quoted)

def Diagnostic.quoted (d : Diagnostic) : List String := [d.file, d.message]

def CompileCommand.quoted (c : CompileCommand) : List String := c.directory :: c.arguments

/-- The strings that are quoted when the answer to a call is shown. -/
def Call.quoted : Call → List String
  | ⟨.completionResults _, reply⟩ =>
    match reply.result with
    | .ok entries => entries.flatMap (·.quoted)
    | .error _ => []
  | ⟨.completionDiagnostics _, reply⟩ | ⟨.diagnostics _, reply⟩ =>
    match reply.result with
    | .ok listing => listing.items.flatMap (·.quoted)
    | .error _ => []
  | ⟨.typeAt .., reply⟩ =>
    match reply.result with
    | .ok type => type.elim [] fun (spelling, canonical) => Session.spellings spelling canonical
    | .error _ => []
  | ⟨.compileCommands .., reply⟩ =>
    match reply.result with
    | .ok commands => (commands.getD []).flatMap (·.quoted)
    | .error _ => []
  | _ => []

/-! ## What is shown -/

theorem Candidate.text_safe {c : Candidate} (h : ∀ q ∈ c.quoted, ¬ Marked q) : Safe c.text := by
  have havailability : Safe c.availability.name := by
    cases c.availability <;> exact safe_of_plain (by decide)
  have hpost : Safe (Response.parens
      (Response.quote c.postCompletionText :: c.placeholderSpans.map Response.number)) := by
    refine safe_parens (List.forall_mem_cons.mpr ⟨safe_quote (h _ (by simp [quoted])), ?_⟩)
    exact List.forall_mem_map.mpr fun n _ => safe_number n
  refine safe_parens ?_
  simp only [quoted, List.forall_mem_cons] at h
  simp [safe_quote, safe_number, h, hpost, havailability]

theorem ResultEntry.shown_safe {entry : ResultEntry} (h : ∀ q ∈ entry.quoted, ¬ Marked q) :
    ∀ t ∈ entry.shown, Safe t := by
  intro t ht
  obtain ⟨c, hc, hline⟩ := Option.bind_eq_some_iff.mp (Option.mem_toList.mp ht)
  obtain ⟨text, htext, rfl⟩ := Option.map_eq_some_iff.mp hline
  obtain rfl := Response.eq_of_written? htext
  have hsafe : Safe c.text :=
    Candidate.text_safe fun q hq => h q (List.mem_flatMap.mpr ⟨c, by simp [hc], hq⟩)
  exact ((safe_of_plain (by decide)).append hsafe).append (safe_of_plain (by decide))

theorem Diagnostic.text_safe {d : Diagnostic} (h : ∀ q ∈ d.quoted, ¬ Marked q) :
    Safe d.text := by
  have hseverity : Safe d.severity.tag := by
    cases d.severity <;> exact safe_of_plain (by decide)
  refine safe_parens ?_
  simp only [quoted, List.forall_mem_cons] at h
  simp [safe_quote, safe_number, h, hseverity]

theorem diagnostics_safe {ds : List Diagnostic} (h : ∀ q ∈ ds.flatMap (·.quoted), ¬ Marked q) :
    ∀ t ∈ ds.filterMap Session.diagnosticLine?, Safe t := by
  intro t ht
  obtain ⟨d, hd, hline⟩ := List.mem_filterMap.mp ht
  obtain ⟨text, htext, rfl⟩ := Option.map_eq_some_iff.mp hline
  obtain rfl := Response.eq_of_written? htext
  have hsafe : Safe d.text :=
    Diagnostic.text_safe fun q hq => h q (List.mem_flatMap.mpr ⟨d, hd, hq⟩)
  exact hsafe.append (safe_of_plain (by decide))

theorem renderType_safe {spelling canonical : String}
    (h : ∀ q ∈ Session.spellings spelling canonical, ¬ Marked q) :
    Safe (Session.renderType (some (spelling, canonical))) := by
  refine safe_parens ?_
  simp only [List.forall_mem_map]
  exact fun q hq => safe_quote (h q hq)

theorem renderCommand_safe {c : CompileCommand} (h : ∀ q ∈ c.quoted, ¬ Marked q) :
    ∀ t ∈ Session.renderCommand c, Safe t := by
  obtain ⟨hdirectory, harguments⟩ := List.forall_mem_cons.mp h
  have hline : Safe (String.intercalate " " (c.arguments.map Response.quote)) :=
    Response.safe_intercalate (List.forall_mem_map.mpr fun q hq => safe_quote (harguments q hq))
  refine List.forall_mem_cons.mpr ⟨hline.append (safe_of_plain (by decide)), ?_⟩
  exact List.forall_mem_singleton.mpr ((safe_quote hdirectory).append (safe_of_plain (by decide)))

theorem Call.shown_safe {x : Call} (h : ∀ q ∈ x.quoted, ¬ Marked q) : ∀ t ∈ x.shown, Safe t := by
  obtain ⟨r, reply⟩ := x
  cases hreply : reply.result with
  | error e => simp [shown, hreply]
  | ok a =>
    rw [shown_of_ok hreply]
    cases r with
    | completionResults set =>
      simp only [quoted, hreply, List.mem_flatMap] at h
      intro t ht
      obtain ⟨entry, hentry, ht⟩ := List.mem_flatMap.mp ht
      exact ResultEntry.shown_safe (fun q hq => h q ⟨entry, hentry, hq⟩) t ht
    | completionDiagnostics set =>
      simp only [quoted, hreply] at h
      exact diagnostics_safe h
    | diagnostics unit =>
      simp only [quoted, hreply] at h
      exact diagnostics_safe h
    | typeAt unit file line column =>
      simp only [quoted, hreply] at h
      refine List.forall_mem_singleton.mpr ?_
      cases a with
      | none => exact safe_of_plain (by decide)
      | some type => exact renderType_safe h
    | compileCommands buildDir file =>
      simp only [quoted, hreply] at h
      cases a with
      | none => exact List.forall_mem_singleton.mpr (safe_of_plain (by decide))
      | some commands =>
        simp only [Option.getD_some, List.mem_flatMap] at h
        intro t ht
        obtain ⟨c, hc, ht⟩ := List.mem_flatMap.mp ht
        exact renderCommand_safe (fun q hq => h q ⟨c, hc, hq⟩) t ht
    | _ => exact fun _ ht => absurd ht List.not_mem_nil

theorem error_safe {kind message : String} {details : List Response.Atom} (hkind : Safe kind)
    (hmessage : Safe message) (hdetails : ∀ v, .text v ∈ details → ¬ Marked v) :
    Safe (Response.error kind message details) := by
  have hatoms : ∀ t ∈ details.map Response.Atom.render, Safe t := by
    refine List.forall_mem_map.mpr fun atom hatom => ?_
    cases atom with
    | text v => exact safe_quote (hdetails v hatom)
    | number n => exact safe_number n
  have hitems := List.forall_mem_cons.mpr
    ⟨hkind, List.forall_mem_cons.mpr ⟨safe_quote hmessage.not_marked, hatoms⟩⟩
  exact ((safe_of_plain (by decide)).append (safe_parens hitems)).append (safe_of_plain (by decide))

theorem Operation.errors_safe {op : Operation} (h : ∀ name ∈ op.names, ¬ Marked name) :
    ∀ t ∈ op.errors, Safe t := by
  have hline : ∀ {e : String}, Safe e → ∀ t ∈ [e ++ "\n"], Safe t :=
    fun he => List.forall_mem_singleton.mpr (he.append (safe_of_plain (by decide)))
  cases op with
  | setUnsaved file source =>
    refine hline (error_safe (safe_of_plain (by decide)) (safe_of_plain (by decide)) ?_)
    simpa [names] using h
  | parse file flags =>
    refine hline (error_safe (safe_of_plain (by decide)) (safe_of_plain (by decide)) ?_)
    simpa [names] using h
  | complete file line column flags =>
    refine hline (error_safe (safe_of_plain (by decide)) (safe_of_plain (by decide)) ?_)
    simpa [names] using h
  | _ => simp [errors]

/-! ## Words -/

/-- Every frame has two line ends. -/
theorem not_marked_of_count {w : String} (h : w.toList.count '\n' ≤ 1) : ¬ Marked w := by
  intro hmarked
  have hcount := hmarked.sublist.count_le '\n'
  have hframe : Response.endOfResponse.toList.count '\n' = 2 := by decide
  omega

def Source.Plain (source : Source) : Prop :=
  (∃ text, source ∈ ofText text) ∨ ∃ ws, source = .words ws ∧ ∀ w ∈ ws, ¬ Marked w

theorem Source.Plain.not_marked {source : Source} {ws : List String} (h : source.Plain)
    (hsplit : source.split = .ok ws) : ∀ w ∈ ws, ¬ Marked w := by
  rcases h with ⟨text, hsource⟩ | ⟨ws', rfl, hws⟩
  · obtain ⟨line, hline, rfl⟩ := List.mem_map.mp hsource
    exact fun w hw => not_marked_of_count (Words.count_newline_word hline hsplit hw)
  · cases hsplit
    exact hws

namespace Server

variable {σ : Type} {E : Engine σ} {s : Server (Traced σ)}

theorem fixedTexts_safe : ∀ t ∈ Session.fixedTexts, Safe t := by
  have hend : Safe "\n" := safe_of_plain (by decide)
  have hsuccess : Safe Response.success := safe_of_plain (by decide)
  have hnil : Safe Response.nil := safe_of_plain (by decide)
  simp only [Session.fixedTexts, List.forall_mem_cons]
  exact ⟨hsuccess.append hend, hnil, hnil.append hend, safe_of_plain (by decide),
    safe_of_plain (by decide), safe_of_plain (by decide), by simp⟩

def safely : Standard where
  text := Safe
  fault _ := True
  empty := Response.safe_empty
  append := .append
  fixed := fixedTexts_safe
  own _ _ := trivial

theorem padRight_safe {width : Nat} {s : String} (h : Safe s) : Safe (padRight width s) := by
  refine h.append (safe_of_plain fun hmem => ?_)
  exact absurd (List.eq_of_mem_replicate hmem) (by decide)

theorem usage_safe : Safe usage := by
  have hend : Safe "\n" := safe_of_plain (by decide)
  have hverb : ∀ v : Verb, Safe (padRight 25 v.name ++ " " ++ v.description) := by
    intro v
    have hname : Safe v.name := by cases v <;> exact safe_of_plain (by decide)
    have hdescription : Safe v.description := by cases v <;> exact safe_of_plain (by decide)
    exact ((padRight_safe hname).append (safe_of_plain (by decide))).append hdescription
  have htitle : Safe ("usage: " ++ applicationName ++ " [OPTIONS...] [COMMAND] [ARGS...]") :=
    ((safe_of_plain (by decide)).append (safe_of_plain (by decide))).append
      (safe_of_plain (by decide))
  refine safe_join (List.forall_mem_map.mpr (List.forall_mem_append.mpr ⟨?_, ?_⟩))
  · refine List.forall_mem_cons.mpr ⟨htitle.append hend, ?_⟩
    simp only [List.forall_mem_cons]
    refine ⟨?_, ?_, ?_, ?_, ?_, ?_, ?_, ?_, ?_, ?_, ?_, by simp⟩
    all_goals exact .append (safe_of_plain (by decide)) hend
  · exact List.forall_mem_map.mpr fun v _ => (hverb v).append hend

theorem admits_safely {path : String} {ws : List String} (hpath : ¬ Marked path)
    (hws : ∀ w ∈ ws, ¬ Marked w) : Admits safely path ws := by
  intro op hnames
  refine Operation.errors_safe fun name hname => ?_
  rcases hnames name hname with hword | rfl
  · exact hws name hword
  · exact hpath

/-! ## Runs -/

/-- No string holds a frame that a response to these sources may quote, if these are the calls. -/
structure Unmarked (s : Server (Traced σ)) (sources : List Source) (calls : List Call) : Prop where
  sources : ∀ source ∈ sources, source.Plain
  answers : ∀ x ∈ calls, ∀ q ∈ x.quoted, ¬ Marked q
  entries : ∀ set, s.session.activeCompletion = some set →
    ∀ entry ∈ set.entries, ∀ q ∈ entry.quoted, ¬ Marked q
  scratch : ¬ Marked s.scratch.path

theorem Unmarked.answer {sources : List Source} {calls : List Call} (h : Unmarked s sources calls) :
    ∀ x ∈ calls, safely.Answer x :=
  fun x hx => ⟨Call.shown_safe (h.answers x hx), fun _ _ => trivial⟩

theorem Unmarked.active {sources : List Source} {calls : List Call} (h : Unmarked s sources calls) :
    safely.Active s.session.activeCompletion :=
  fun set hset entry hentry =>
    ⟨ResultEntry.shown_safe (h.entries set hset entry hentry), fun _ _ => trivial⟩

theorem Unmarked.admits {sources : List Source} {calls : List Call} (h : Unmarked s sources calls)
    {source : Source} (hsource : source ∈ sources.filter (!·.isBlank)) {ws : List String}
    (hsplit : source.split = .ok ws) : Admits safely s.scratch.path ws :=
  admits_safely h.scratch ((h.sources source (List.mem_filter.mp hsource).1).not_marked hsplit)

theorem pieces_framed {exchanges : List Exchange} (h : ∀ x ∈ exchanges, Safe x.response)
    (tail : String) :
    Response.pieces (String.join (exchanges.map (·.framed)) ++ tail) =
      exchanges.map (·.response) ++ Response.pieces tail := by
  induction exchanges with
  | nil => simp
  | cons x exchanges ih =>
    obtain ⟨hx, hexchanges⟩ := List.forall_mem_cons.mp h
    have hpieces := Response.pieces_append hx (String.join (exchanges.map (·.framed)) ++ tail)
    rw [← String.append_assoc] at hpieces
    rw [List.map_cons, List.map_cons, String.join_cons, Exchange.framed, hpieces, ih hexchanges,
      List.cons_append]

/-- **Responses.** Unless a string that is quoted holds the frame, no response does, and what a run
writes is cut at the frames into the responses of the commands that completed, and a rest. If the
loop returned, undisturbed, the rest is empty. -/
theorem responses_separable (E : Engine σ) (s : Server (Traced σ)) (sources : List Source)
    (hs : Unmarked s sources (run E.traced sources s).final.calls) :
    ∃ done rest exchanges t tail, sources.filter (!·.isBlank) = done ++ rest ∧
      Completes E s done exchanges t ∧
      (run E.traced sources s).completed.map (·.1) = exchanges.map (·.words) ∧
      (∀ x ∈ exchanges, ¬ Marked x.response) ∧
      (run E.traced sources s).final.out =
        s.out ++ (String.join (exchanges.map (·.framed)) ++ tail) ∧
      Response.pieces (String.join (exchanges.map (·.framed)) ++ tail) =
        exchanges.map (·.response) ++ [tail] ∧
      (Undisturbed s (run E.traced sources s).final.calls →
        ∀ code, (run E.traced sources s).ending = .status code → tail = "") := by
  obtain ⟨done, rest, exchanges, t, hsources, hdone, hstops, hwords⟩ := run_splits E sources s
  obtain ⟨hpath, -, -, hgood⟩ := hdone.conducted (D := safely) usage_safe
    fun source hsource ws => hs.admits (by rw [hsources]; exact List.mem_append_left _ hsource)
  have hlast := hstops.conducted (D := safely) usage_safe fun source hsource ws hsplit => by
    rw [hpath]
    exact hs.admits (by rw [hsources]; exact List.mem_append_right _ hsource) hsplit
  -- what was answered before the loop stopped is among all the answers
  obtain ⟨hactive, hresponses⟩ := hgood (fun x hx => hs.answer x (hlast.calls.subset hx)) hs.active
  obtain ⟨tail, hout, hgoodTail⟩ := hlast.wrote
  obtain ⟨htail, -, -⟩ := hgoodTail hs.answer hactive
  refine ⟨done, rest, exchanges, t, tail, hsources, hdone, hwords,
    fun x hx => Safe.not_marked (hresponses x hx), ?_, ?_, ?_⟩
  · rw [hout, hdone.out, String.append_assoc]
  · rw [pieces_framed hresponses, Response.pieces_unmarked (Safe.not_marked htail)]
  · intro hundisturbed code hending
    rw [hending] at hstops
    obtain ⟨hprepared, -⟩ := hstops.halts (hundisturbed.completes hdone hlast.calls)
    have hnothing : t.out ++ tail = t.out ++ "" := by rw [← hout, hprepared.out, String.append_empty]
    exact (String.append_right_inj _).mp hnothing

/-- Strings that lack only the last line end of a frame. -/
theorem responses_separable_near :
    let session : Session (Traced Script) := .opened
      { diagnostics := [("\n;;EOT", [⟨"\n;;EOT", 1, 1, 0, .error, "x\n;;EOT"⟩])] } {} {}
    let s : Server (Traced Script) := ⟨session, { path := "s" }⟩
    let sources := [.words ["parse", "\n;;EOT"]] ++ Source.ofText "diagnostics\n"
    let r := run Script.engine.traced sources s
    Unmarked s sources r.final.calls ∧
      Response.pieces r.final.out =
        ["(success . t)\n", "(\n(\"\n;;EOT\" 1 1 0 error \"x\n;;EOT\")\n)\n", ""] ∧
      ∃ done rest exchanges t tail, sources.filter (!·.isBlank) = done ++ rest ∧
        Completes Script.engine s done exchanges t ∧
        r.completed.map (·.1) = exchanges.map (·.words) ∧
        (∀ x ∈ exchanges, ¬ Marked x.response) ∧
        r.final.out = s.out ++ (String.join (exchanges.map (·.framed)) ++ tail) ∧
        Response.pieces (String.join (exchanges.map (·.framed)) ++ tail) =
          exchanges.map (·.response) ++ [tail] ∧
        (Undisturbed s r.final.calls → ∀ code, r.ending = .status code → tail = "") := by
  intro session s sources r
  have hs : Unmarked s sources (run Script.engine.traced sources s).final.calls := by
    refine ⟨fun source hsource => ?_, by decide +kernel, fun set hset => ?_, by decide⟩
    · rcases List.mem_append.mp hsource with hwords | hline
      · exact .inr ⟨_, List.mem_singleton.mp hwords, by decide⟩
      · exact .inl ⟨_, hline⟩
    · cases hset
  have hout : r.final.out =
      "(success . t)\n\n;;EOT\n(\n(\"\n;;EOT\" 1 1 0 error \"x\n;;EOT\")\n)\n\n;;EOT\n" := by
    decide +kernel
  have hseparable := responses_separable Script.engine s sources hs
  rw [show run Script.engine.traced sources s = r from rfl] at hs hseparable
  refine ⟨hs, ?_, hseparable⟩
  rw [hout]
  exact (Response.pieces_ofList _).trans (by decide +kernel)

/-- A message that holds the frame cuts its response in two. -/
theorem message_marked :
    let session : Session (Traced Script) := .opened
      { diagnostics := [("a.c", [⟨"a.c", 1, 1, 0, .error, "x\n;;EOT\ny"⟩])] } {} {}
    let s : Server (Traced Script) := ⟨session, { path := "s" }⟩
    let sources := [.words ["parse", "a.c"], .words ["diagnostics"]]
    let r := run Script.engine.traced sources s
    r.ending = .status 0 ∧ r.completed.map (·.1) = [["parse", "a.c"], ["diagnostics"]] ∧
      Response.pieces r.final.out =
        ["(success . t)\n", "(\n(\"a.c\" 1 1 0 error \"x", "y\")\n)\n", ""] ∧
      ∃ exchanges t, Completes Script.engine s sources exchanges t ∧
        ∃ x ∈ exchanges, Marked x.response := by
  intro session s sources r
  have hout : r.final.out =
      "(success . t)\n\n;;EOT\n(\n(\"a.c\" 1 1 0 error \"x\n;;EOT\ny\")\n)\n\n;;EOT\n" := by
    decide +kernel
  refine ⟨by decide +kernel, by decide +kernel, ?_, ?_⟩
  · rw [hout]
    exact (Response.pieces_ofList _).trans (by decide +kernel)
  · let listing : Exchange := ⟨["diagnostics"], "(\n(\"a.c\" 1 1 0 error \"x\n;;EOT\ny\")\n)\n"⟩
    have hmarked : Marked listing.response := by decide +kernel
    let parsed := (execute Script.engine.traced ["parse", "a.c"] s).2
    let listed := (execute Script.engine.traced ["diagnostics"] (frame parsed).2).2
    have hparsed : execute Script.engine.traced ["parse", "a.c"] s = (.ok (), parsed) :=
      Act.run_eq (by decide +kernel)
    have hlisted : execute Script.engine.traced ["diagnostics"] (frame parsed).2 =
        (.ok (), listed) := Act.run_eq (by decide +kernel)
    refine ⟨[⟨["parse", "a.c"], "(success . t)\n"⟩, listing], (frame listed).2,
      .cons rfl hparsed ?_ (.cons rfl hlisted ?_ .nil), listing, by simp, hmarked⟩
    · decide +kernel
    · decide +kernel

end Server

end CodeSense
