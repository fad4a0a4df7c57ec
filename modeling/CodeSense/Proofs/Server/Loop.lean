import CodeSense.Engine.Script
import CodeSense.Proofs.Command.Lines
import CodeSense.Proofs.Server.Execute
import CodeSense.Server.Loop

/-!
# Runs of the command loop

A run completes some commands and then stops: `run_splits`. If neither the engine nor the scratch
file interferes, the loop returns only at the end of the input, or at a source that leaves nothing
but an entry of the log: `run_framed`.
-/

namespace CodeSense

/-- The status that the loop returns after a fault, unless the fault breaks it. -/
def Fault.status? : Fault → Option Nat
  | exit => some 0
  | e => if e.isRefusal then some 1 else none

def Fault.ending (e : Fault) : Ending := e.status?.elim (.fault e) .status

theorem Fault.status?_of_ending {e : Fault} {code : Nat} (h : e.ending = .status code) :
    e.status? = some code := by
  unfold ending at h
  cases hstatus : e.status? with
  | none => rw [hstatus] at h; cases h
  | some n => rw [hstatus] at h; cases h; rfl

namespace Source

def isBlank : Source → Bool
  | .line text => Words.isBlankLine text
  | .words _ => false

def split : Source → Except LineError (List String)
  | .line text => Words.split text
  | .words ws => .ok ws

theorem ofText_append (a b : String) : ofText (a ++ "\n" ++ b) = ofText (a ++ "\n") ++ ofText b := by
  have hlines := Text.lines_append a.toList b.toList
  simp [ofText, Words.lines, hlines]

theorem split_ne_nil {text : String} {source : Source} (hsource : source ∈ ofText text)
    (hblank : source.isBlank = false) : source.split ≠ .ok [] := by
  obtain ⟨line, -, rfl⟩ := List.mem_map.mp hsource
  exact Words.split_ne_nil hblank

end Source

structure Exchange where
  words : List String
  response : String
  deriving DecidableEq, Repr

def Exchange.framed (x : Exchange) : String := x.response ++ Response.endOfResponse

namespace Server

variable {σ : Type}

def take : Source → List String → Server σ → Server σ
  | .line _, words, s => (log .commands .debug ("Get cmd " ++ Text.quotedList words) s).2
  | .words _, _, s => s

theorem take_prepared (source : Source) (words : List String) (s : Server (Traced σ)) :
    Prepared s (take source words s) := by
  cases source with
  | line text => exact log_prepared _ _ _ s
  | words ws => exact .refl s

theorem turn_eq (E : Engine σ) (source : Source) (s : Server σ) :
    turn E source s =
      if source.isBlank then (.skipped, s)
      else
        match source.split with
        | .error e =>
          (.ended none (.status 1), (log .commands .info ("Invalid input: " ++ e.message) s).2)
        | .ok words => runCommand E words (take source words s) := by
  cases source with
  | line text => rfl
  | words ws => rfl

theorem runCommand_ok {E : Engine σ} {words : List String} {s t : Server σ}
    (h : execute E words s = (.ok (), t)) :
    runCommand E words s = (.completed words, (frame t).2) := by
  simp [runCommand, h]

theorem runCommand_error {E : Engine σ} {words : List String} {s t : Server (Traced σ)} {e : Fault}
    (h : execute E.traced words s = (.error e, t)) :
    ∃ t', runCommand E.traced words s = (.ended (some words) e.ending, t') ∧ Prepared t t' := by
  unfold runCommand
  rw [h]
  cases e with
  | malformed e => exact ⟨_, rfl, log_prepared _ _ _ t⟩
  | refused r => exact ⟨_, rfl, log_prepared _ _ _ t⟩
  | _ => exact ⟨_, rfl, .refl t⟩

/-! ## What a run comes to -/

/-- The sources hold commands that complete one after another. -/
inductive Completes (E : Engine σ) :
    Server (Traced σ) → List Source → List Exchange → Server (Traced σ) → Prop
  | nil {s : Server (Traced σ)} : Completes E s [] [] s
  | cons {s t s' : Server (Traced σ)} {source : Source} {words : List String} {response : String}
    {rest : List Source} {exchanges : List Exchange} (hsplit : source.split = .ok words)
    (hexecute : execute E.traced words (take source words s) = (.ok (), t))
    (hout : t.out = s.out ++ response) (hrest : Completes E (frame t).2 rest exchanges s') :
    Completes E s (source :: rest) (⟨words, response⟩ :: exchanges) s'

inductive Stops (E : Engine σ) (s : Server (Traced σ)) :
    List Source → Option (List String) → Ending → Server (Traced σ) → Prop
  | endOfInput : Stops E s [] none (.status 0) s
  | malformed {s' : Server (Traced σ)} {source : Source} {later : List Source} {e : LineError}
    (hsplit : source.split = .error e) (hs : Prepared s s') :
    Stops E s (source :: later) none (.status 1) s'
  | ended {t s' : Server (Traced σ)} {source : Source} {words : List String} {later : List Source}
    {e : Fault} (hsplit : source.split = .ok words)
    (hexecute : execute E.traced words (take source words s) = (.error e, t))
    (hs : Prepared t s') : Stops E s (source :: later) (some words) e.ending s'

variable {E : Engine σ} {s t s' : Server (Traced σ)} {done rest : List Source}
  {exchanges : List Exchange} {stopped : Option (List String)} {ending : Ending}

theorem admits_lax (path : String) (words : List String) : Admits .lax path words :=
  fun _ _ _ _ => trivial

theorem execute_extends (words : List String) (s : Server (Traced σ)) :
    ∃ response, (execute E.traced words s).2.out = s.out ++ response := by
  have hconducted := execute_conducted (E := E) (D := .lax) trivial (admits_lax s.scratch.path words)
  obtain ⟨response, hout, -⟩ := hconducted.wrote
  exact ⟨response, hout⟩

/-- **Runs.** Every run completes the commands of the first sources that are not blank, and stops at
the next one, or at the end. -/
theorem run_splits (E : Engine σ) (sources : List Source) (s : Server (Traced σ)) :
    ∃ done rest exchanges t, sources.filter (!·.isBlank) = done ++ rest ∧
      Completes E s done exchanges t ∧
      Stops E t rest (run E.traced sources s).stopped (run E.traced sources s).ending
        (run E.traced sources s).final ∧
      (run E.traced sources s).completed.map (·.1) = exchanges.map (·.words) := by
  induction sources generalizing s with
  | nil => exact ⟨[], [], [], s, rfl, .nil, .endOfInput, rfl⟩
  | cons source sources ih =>
    unfold run
    rw [turn_eq]
    by_cases hblank : source.isBlank = true
    · simpa [hblank] using ih s
    · simp only [hblank, Bool.false_eq_true, ↓reduceIte, Bool.not_false, List.filter_cons_of_pos]
      cases hsplit : source.split with
      | error e =>
        exact ⟨[], _, [], s, rfl, .nil, .malformed hsplit (log_prepared _ _ _ s), rfl⟩
      | ok words =>
        dsimp only
        rcases hexecute : execute E.traced words (take source words s) with ⟨e | _, t⟩
        · obtain ⟨t', hrun, ht⟩ := runCommand_error hexecute
          rw [hrun]
          exact ⟨[], _, [], s, rfl, .nil, .ended hsplit hexecute ht, rfl⟩
        · -- the command completes, and the rest is a run from after its frame
          obtain ⟨response, hout⟩ := execute_extends (E := E) words (take source words s)
          rw [hexecute, (take_prepared source words s).out] at hout
          obtain ⟨done, rest, exchanges, t', hsources, hdone, hrest, hwords⟩ := ih (frame t).2
          rw [runCommand_ok hexecute]
          refine ⟨source :: done, rest, ⟨words, response⟩ :: exchanges, t', ?_,
            .cons hsplit hexecute hout hdone, hrest, ?_⟩
          · rw [hsources, List.cons_append]
          · rw [List.map_cons, List.map_cons, hwords]

theorem Completes.out (h : Completes E s done exchanges t) :
    t.out = s.out ++ String.join (exchanges.map (·.framed)) := by
  induction h with
  | nil => simp
  | @cons s t s' source words response rest exchanges hsplit hexecute hout hrest ih =>
    have hframe : (frame t).2.out = t.out ++ Response.endOfResponse := rfl
    rw [ih, hframe, hout]
    simp [Exchange.framed, String.append_assoc]

/-! ## Conduct -/

variable {D : Standard}

theorem take_execute_conducted {words : List String} (husage : D.text usage) (source : Source)
    (hadmits : Admits D s.scratch.path words) :
    Conducted D s none (execute E.traced words (take source words s)).2 := by
  have htake := take_prepared source words s
  rw [← htake.path] at hadmits
  exact htake.conducted.trans (execute_conducted husage hadmits)

theorem Completes.conducted (husage : D.text usage) (h : Completes E s done exchanges t)
    (hadmits : ∀ source ∈ done, ∀ words, source.split = .ok words →
      Admits D s.scratch.path words) :
    t.scratch.path = s.scratch.path ∧ t.scratch.blocked = s.scratch.blocked ∧ s.calls <+: t.calls ∧
      ((∀ x ∈ t.calls, D.Answer x) → D.Active s.session.activeCompletion →
        D.Active t.session.activeCompletion ∧ ∀ x ∈ exchanges, D.text x.response) := by
  induction h with
  | nil => exact ⟨rfl, rfl, List.prefix_rfl, fun _ hactive => ⟨hactive, by simp⟩⟩
  | @cons s t s' source words response rest exchanges hsplit hexecute hout hrest ih =>
    obtain ⟨hsource, hsources⟩ := List.forall_mem_cons.mp hadmits
    have hcommand := take_execute_conducted (E := E) husage source (hsource words hsplit)
    rw [hexecute] at hcommand
    -- the frame is no part of the response, and changes nothing else
    have hframe : (frame t).2.scratch.path = s.scratch.path := hcommand.path
    rw [hframe] at ih
    obtain ⟨hpath, hblocked, hcalls, hgood⟩ := ih hsources
    refine ⟨hpath, hblocked.trans hcommand.blocked, hcommand.calls.trans hcalls,
      fun hanswers hactive => ?_⟩
    obtain ⟨text, htext, hwrote⟩ := hcommand.wrote
    obtain rfl : text = response := (String.append_right_inj _).mp (htext.symm.trans hout)
    obtain ⟨hresponse, hactive', -⟩ := hwrote (fun x hx => hanswers x (hcalls.subset hx)) hactive
    obtain ⟨hactive'', hresponses⟩ := hgood hanswers hactive'
    exact ⟨hactive'', List.forall_mem_cons.mpr ⟨hresponse, hresponses⟩⟩

theorem Stops.conducted (husage : D.text usage) (h : Stops E s rest stopped ending s')
    (hadmits : ∀ source ∈ rest, ∀ words, source.split = .ok words →
      Admits D s.scratch.path words) :
    Conducted D s none s' := by
  cases h with
  | endOfInput => exact (Prepared.refl s).conducted
  | malformed hsplit hs => exact hs.conducted
  | @ended t _ source words later e hsplit hexecute hs =>
    have hcommand := take_execute_conducted (E := E) husage source
      (hadmits source (List.mem_cons_self ..) words hsplit)
    rw [hexecute] at hcommand
    exact hcommand.trans hs.conducted

/-! ## Returning -/

/-- No fault that the engine raised, or that keeps the scratch file from being made, is an exit or a
refusal. -/
structure Undisturbed (s : Server (Traced σ)) (calls : List Call) : Prop where
  calls : ∀ x ∈ calls, ∀ e ∈ x.faults, e.status? = none
  entries : ∀ set, s.session.activeCompletion = some set →
    ∀ entry ∈ set.entries, ∀ e, entry.unreadable = some e → e.status? = none
  scratch : ∀ e, s.scratch.blocked = some e → e.status? = none

def breaking : Standard where
  text _ := True
  fault e := e.status? = none
  empty := trivial
  append _ _ := trivial
  fixed _ _ := trivial
  own e he := by cases e <;> first | rfl | cases he

theorem breaking_answer {x : Call} (h : ∀ e ∈ x.faults, e.status? = none) : breaking.Answer x :=
  ⟨fun _ _ => trivial, h⟩

theorem Undisturbed.active {calls : List Call} (h : Undisturbed s calls) :
    breaking.Active s.session.activeCompletion :=
  fun set hset entry hentry => ⟨fun _ _ => trivial, h.entries set hset entry hentry⟩

theorem Undisturbed.completes {calls : List Call} (h : Undisturbed s calls)
    (hdone : Completes E s done exchanges t) (hcalls : t.calls <+: calls) : Undisturbed t calls := by
  obtain ⟨-, hblocked, -, hgood⟩ :=
    hdone.conducted (D := breaking) trivial fun _ _ _ _ _ _ _ _ => trivial
  obtain ⟨hactive, -⟩ := hgood (fun x hx => breaking_answer (h.calls x (hcalls.subset hx))) h.active
  refine ⟨h.calls, fun set hset entry hentry => (hactive set hset entry hentry).unreadable, ?_⟩
  rw [hblocked]
  exact h.scratch

/-- A command that is an exit or is refused does nothing else. -/
theorem Executed.returns {words : List String} {e : Fault} {code : Nat}
    (h : Executed E words s (.error e, t)) (hs : Undisturbed s t.calls)
    (he : e.status? = some code) :
    Prepared s t ∧ (e = .exit ∧ words.head? = some Verb.exit.name ∨
      ∃ r, e = .refused r ∧ (r = .emptyCommand → words = [])) := by
  generalize hresult : (Except.error e, t) = result at h
  cases h with
  | refused r hprepared hr =>
    cases hresult
    exact ⟨hprepared, .inr ⟨r, rfl, hr⟩⟩
  | exit hprepared hwords =>
    cases hresult
    exact ⟨hprepared, .inl ⟨rfl, hwords⟩⟩
  | blocked hprepared hblocked =>
    cases hresult
    rw [hs.scratch e hblocked] at he
    cases he
  | @performed t₀ op hprepared hnames =>
    -- a fault of the operation is its own or the engine's, and neither returns
    have hconducted : Conducted breaking t₀ _ _ :=
      perform_conducted (E := E) op (fun _ _ => trivial) t₀
    rw [← hresult] at hconducted
    obtain ⟨text, -, hgood⟩ := hconducted.wrote
    have hactive := hs.active
    rw [← hprepared.completion] at hactive
    obtain ⟨-, -, hfault⟩ := hgood (fun x hx => breaking_answer (hs.calls x hx)) hactive
    rw [show e.status? = none from hfault e rfl] at he
    cases he
  | helped hprepared => cases hresult
  | adjusted hprepared => cases hresult

/-- Where the loop returns, and the status that it returns. -/
inductive Halts (E : Engine σ) (s : Server (Traced σ)) : List Source → Nat → Prop
  | endOfInput : Halts E s [] 0
  | malformed {source : Source} {later : List Source} {e : LineError}
    (hsplit : source.split = .error e) : Halts E s (source :: later) 1
  | exit {source : Source} {words : List String} {later : List Source}
    (hsplit : source.split = .ok words) (hwords : words.head? = some Verb.exit.name)
    (hexecute : (execute E.traced words (take source words s)).1 = .error .exit) :
    Halts E s (source :: later) 0
  | refused {source : Source} {words : List String} {later : List Source} {r : Refusal}
    (hsplit : source.split = .ok words) (hr : r ≠ .emptyCommand)
    (hexecute : (execute E.traced words (take source words s)).1 = .error (.refused r)) :
    Halts E s (source :: later) 1

theorem Stops.halts {code : Nat} (h : Stops E s rest stopped (.status code) s')
    (hs : Undisturbed s s'.calls) :
    Prepared s s' ∧ ((∀ source ∈ rest, source.split ≠ .ok []) → Halts E s rest code) := by
  generalize hending : Ending.status code = ending at h
  cases h with
  | endOfInput =>
    cases hending
    exact ⟨.refl s, fun _ => .endOfInput⟩
  | malformed hsplit hprepared =>
    cases hending
    exact ⟨hprepared, fun _ => .malformed hsplit⟩
  | @ended t _ source words later e hsplit hexecute hprepared =>
    have htake := take_prepared source words s
    have hexecuted := execute_executed E words (take source words s)
    rw [hexecute] at hexecuted
    have hundisturbed : Undisturbed (take source words s) t.calls := by
      refine ⟨?_, ?_, ?_⟩
      · rw [← hprepared.calls]
        exact hs.calls
      · rw [htake.completion]
        exact hs.entries
      · rw [htake.blocked]
        exact hs.scratch
    have hstatus := Fault.status?_of_ending hending.symm
    obtain ⟨ht, hcause⟩ := hexecuted.returns hundisturbed hstatus
    refine ⟨htake.trans (ht.trans hprepared), fun hrest => ?_⟩
    rcases hcause with ⟨rfl, hwords⟩ | ⟨r, rfl, hr⟩
    · cases hstatus
      exact .exit hsplit hwords (by rw [hexecute])
    · cases hstatus
      refine .refused hsplit (fun hempty => ?_) (by rw [hexecute])
      rw [hr hempty] at hsplit
      exact hrest source (List.mem_cons_self ..) hsplit

/-! ## Longer inputs -/

/-- The input ended before the loop did. -/
def Run.reachedEnd (r : Run σ) : Prop := r.stopped = none ∧ r.ending = .status 0

theorem turn_ended {E : Engine σ} {source : Source} {s t : Server σ} {ending : Ending}
    (h : turn E source s = (.ended none ending, t)) : ending = .status 1 := by
  rw [turn_eq] at h
  split at h
  · cases h
  · split at h
    · cases h
      rfl
    · unfold runCommand at h
      split at h
      · cases h
      · cases h
      · split at h <;> cases h

theorem run_ended {E : Engine σ} {source : Source} {s t : Server σ} (rest : List Source)
    (h : turn E source s = (.ended stopped ending, t)) :
    run E (source :: rest) s = { completed := [], stopped, final := t, ending } := by
  simp [run, h]

theorem not_reachedEnd_of_ended {E : Engine σ} {source : Source} {s t : Server σ}
    (rest : List Source) (h : turn E source s = (.ended stopped ending, t)) :
    ¬ (run E (source :: rest) s).reachedEnd := by
  rw [run_ended rest h]
  rintro ⟨rfl, rfl⟩
  cases turn_ended h

theorem run_append_of_reachedEnd {E : Engine σ} {a : List Source} {s : Server σ}
    (h : (run E a s).reachedEnd) (b : List Source) :
    (run E (a ++ b) s).final = (run E b (run E a s).final).final := by
  induction a generalizing s with
  | nil => rfl
  | cons source a ih =>
    rcases hturn : turn E source s with ⟨_ | words | ⟨stopped, ending⟩, t⟩
    · simp only [run, hturn, List.cons_append] at h ⊢
      exact ih h
    · simp only [run, hturn, List.cons_append] at h ⊢
      exact ih h
    · exact absurd h (not_reachedEnd_of_ended a hturn)

theorem run_append_of_stopped {E : Engine σ} {a : List Source} {s : Server σ}
    (h : ¬ (run E a s).reachedEnd) (b : List Source) : run E (a ++ b) s = run E a s := by
  induction a generalizing s with
  | nil => exact absurd ⟨rfl, rfl⟩ h
  | cons source a ih =>
    rcases hturn : turn E source s with ⟨_ | words | ⟨stopped, ending⟩, t⟩
    · simp only [run, hturn, List.cons_append] at h ⊢
      exact ih h
    · simp only [run, hturn, List.cons_append] at h ⊢
      rw [ih h]
    · rw [List.cons_append, run_ended _ hturn, run_ended _ hturn]

theorem Stops.reachedEnd_iff (h : Stops E s rest stopped ending s') :
    stopped = none ∧ ending = .status 0 ↔ rest = [] := by
  cases h <;> simp

theorem Stops.final (h : Stops E s [] stopped ending s') : s' = s := by
  cases h
  rfl

theorem Completes.run (h : Completes E s done exchanges t)
    (hdone : ∀ source ∈ done, source.isBlank = false) :
    (run E.traced done s).reachedEnd ∧ (run E.traced done s).final = t := by
  induction h with
  | nil => exact ⟨⟨rfl, rfl⟩, rfl⟩
  | @cons s t s' source words response rest exchanges hsplit hexecute hout hrest ih =>
    obtain ⟨hsource, hmore⟩ := List.forall_mem_cons.mp hdone
    have hturn : turn E.traced source s = (.completed words, (frame t).2) := by
      rw [turn_eq, hsource, hsplit]
      exact runCommand_ok hexecute
    unfold Server.run
    rw [hturn]
    exact ih hmore

theorem completes_of_reachedEnd {sources : List Source}
    (hsources : ∀ source ∈ sources, source.isBlank = false)
    (h : (run E.traced sources s).reachedEnd) :
    ∃ exchanges, Completes E s sources exchanges (run E.traced sources s).final := by
  obtain ⟨done, rest, exchanges, t, hsplit, hdone, hstops, -⟩ := run_splits E sources s
  obtain rfl : rest = [] := hstops.reachedEnd_iff.mp h
  have hall : sources.filter (!·.isBlank) = sources :=
    List.filter_eq_self.mpr fun source hsource => by simp [hsources source hsource]
  rw [hall, List.append_nil] at hsplit
  subst hsplit
  rw [hstops.final]
  exact ⟨exchanges, hdone⟩

theorem run_extends (sources : List Source) (s : Server (Traced σ)) :
    s.calls <+: (run E.traced sources s).final.calls ∧
      ∃ more, (run E.traced sources s).final.out = s.out ++ more := by
  obtain ⟨done, rest, exchanges, t, -, hdone, hstops, -⟩ := run_splits E sources s
  obtain ⟨-, -, hcalls, -⟩ := hdone.conducted (D := .lax) trivial fun _ _ _ _ => admits_lax _ _
  have hconducted := hstops.conducted (D := .lax) trivial fun _ _ _ _ => admits_lax _ _
  obtain ⟨text, hout, -⟩ := hconducted.wrote
  refine ⟨hcalls.trans hconducted.calls, ?_⟩
  rw [hout, hdone.out, String.append_assoc]
  exact ⟨_, rfl⟩

def runText (E : Engine σ) (text : String) : Server σ → Run σ := run E (Source.ofText text)

/-- **The command loop.** When it returns, it has executed the commands of the first lines that are
not blank. Each that completed gave its response and a frame, and the line after them ended the loop
without a trace. What it does with a text does not depend on what follows it. -/
theorem run_framed (E : Engine σ) (s : Server (Traced σ)) :
    (∀ (text : String) (code : Nat),
      Undisturbed s (runText E.traced text s).final.calls →
      (runText E.traced text s).ending = .status code →
      ∃ done rest exchanges t, (Source.ofText text).filter (!·.isBlank) = done ++ rest ∧
        Completes E s done exchanges t ∧ Halts E t rest code ∧
        Prepared t (runText E.traced text s).final ∧
        (runText E.traced text s).final.out =
          s.out ++ String.join (exchanges.map (·.framed)) ∧
        (runText E.traced text s).completed.map (·.1) = exchanges.map (·.words) ∧
        ((runText E.traced text s).reachedEnd ↔ rest = [])) ∧
    ∀ a b : String,
      (runText E.traced (a ++ "\n") s).final.calls <+:
        (runText E.traced (a ++ "\n" ++ b) s).final.calls ∧
      (∃ more, (runText E.traced (a ++ "\n" ++ b) s).final.out =
        (runText E.traced (a ++ "\n") s).final.out ++ more) ∧
      (¬ (runText E.traced (a ++ "\n") s).reachedEnd →
        runText E.traced (a ++ "\n" ++ b) s = runText E.traced (a ++ "\n") s) := by
  constructor
  · intro text code hs hending
    unfold runText at hs hending ⊢
    obtain ⟨done, rest, exchanges, t, hlines, hdone, hstops, hwords⟩ :=
      run_splits E (Source.ofText text) s
    have hrest : ∀ source ∈ rest, source.split ≠ .ok [] := by
      intro source hsource
      have hmem : source ∈ (Source.ofText text).filter (!·.isBlank) := by
        rw [hlines]
        exact List.mem_append_right _ hsource
      obtain ⟨htext, hblank⟩ := List.mem_filter.mp hmem
      exact Source.split_ne_nil htext (by simpa using hblank)
    have hcalls := (hstops.conducted (D := .lax) trivial fun _ _ _ _ => admits_lax _ _).calls
    have hends := hstops.reachedEnd_iff
    rw [hending] at hstops
    obtain ⟨hprepared, hhalts⟩ := hstops.halts (hs.completes hdone hcalls)
    refine ⟨done, rest, exchanges, t, hlines, hdone, hhalts hrest, hprepared, ?_, hwords, hends⟩
    rw [hprepared.out, hdone.out]
  · intro a b
    unfold runText
    rw [Source.ofText_append]
    by_cases hend : (run E.traced (Source.ofText (a ++ "\n")) s).reachedEnd
    · rw [run_append_of_reachedEnd hend]
      obtain ⟨hcalls, hout⟩ := run_extends (E := E) (Source.ofText b)
        (run E.traced (Source.ofText (a ++ "\n")) s).final
      exact ⟨hcalls, hout, fun h => absurd hend h⟩
    · rw [run_append_of_stopped hend]
      exact ⟨List.prefix_rfl, ⟨"", by simp⟩, fun _ => rfl⟩

/-- A quoted word, a line that is blank but holds no separator, and an unclosed quote before an exit. -/
theorem run_framed_malformed :
    let session : Session (Traced Script) := .opened {} {} {}
    let s : Server (Traced Script) := ⟨session, { path := "s" }⟩
    let text := "parse 'a b' -- -x\n\u3000\n diagnostics\nparse \"a\nexit\n"
    let r := runText Script.engine.traced text s
    Undisturbed s r.final.calls ∧ r.ending = .status 1 ∧
      r.final.out = "(success . t)\n\n;;EOT\n(\n)\n\n;;EOT\n" ∧
      ∃ done rest exchanges t, (Source.ofText text).filter (!·.isBlank) = done ++ rest ∧
        Completes Script.engine s done exchanges t ∧ Halts Script.engine t rest 1 ∧
        Prepared t r.final ∧
        r.final.out = s.out ++ String.join (exchanges.map (·.framed)) ∧
        r.completed.map (·.1) = exchanges.map (·.words) ∧ (r.reachedEnd ↔ rest = []) := by
  intro session s text r
  have hs : Undisturbed s r.final.calls := by
    refine ⟨?_, fun set hset => ?_, fun e he => ?_⟩
    · decide +kernel
    · cases hset
    · cases he
  have hending : r.ending = .status 1 := by decide +kernel
  exact ⟨hs, hending, by decide +kernel, (run_framed Script.engine s).1 text 1 hs hending⟩

end Server

end CodeSense
