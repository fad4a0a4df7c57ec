import CodeSense.Proofs.Act
import CodeSense.Server.Execute

/-!
# What a command asks for

The words of a command alone say whether it is refused, and what it asks for otherwise:
`Task.ofWords`. The server reads them step by step and makes the scratch file on the way, but does
nothing else before it carries the task out: `execute_follows`.
-/

namespace CodeSense

theorem Journal.verbose_record (j : Journal) (e : Entry) : (j.record e).verbose = j.verbose := by
  unfold Journal.record
  split <;> rfl

theorem Journal.strict_record (j : Journal) (e : Entry) : (j.record e).strict = j.strict := by
  unfold Journal.record
  split <;> rfl

def Refusal.ofArgument : Refusal → Bool
  | notInteger .. | negative .. | unknownStyle _ | badSwitch _ => true
  | _ => false

theorem Integer.ne_separator {what word : String} {n : Nat} (h : parseNat what word = .ok n) :
    word ≠ "--" := by
  rintro rfl
  have hnone : parse? "--" = none := by decide
  simp [parseNat, hnone] at h

theorem Integer.ofArgument_of_parseNat {what word : String} {r : Refusal}
    (h : parseNat what word = .error r) : r.ofArgument = true := by
  unfold parseNat at h
  split at h
  · cases h
    rfl
  · split at h
    · cases h
      rfl
    · cases h

inductive Task where
  | usage
  | leave
  | operation (op : Operation)
  | verbosity (on : Bool)
  deriving DecidableEq, Repr

namespace Task

/-- The file that a name means, with the scratch file at `path`. -/
def fileNamed (path name : String) : String := if name = "-" then path else name

def styleNamed (name : String) : Except Refusal MatchStyle :=
  match MatchStyle.parse? name with
  | some style => .ok style
  | none => .error (.unknownStyle name)

def switch (value : String) : Except Refusal Bool :=
  if Text.lower value = "on" then .ok true
  else if Text.lower value = "off" then .ok false
  else .error (.badSwitch value)

def ofArguments (path : String) (flags : List String) : Verb → List String → Except Refusal Task
  | .help, [] => .ok .usage
  | .exit, [] => .ok .leave
  | .parse, [file] => .ok (.operation (.parse (fileNamed path file) flags))
  | .complete, [file, line, column] => do
    let line ← Integer.parseNat "Line" line
    let column ← Integer.parseNat "Column" column
    .ok (.operation (.complete (fileNamed path file) line column flags))
  | .candidates, [] => .ok (.operation (.candidates "" .exact))
  | .candidates, [typed] => .ok (.operation (.candidates typed .exact))
  | .candidates, [typed, name] => do
    let style ← styleNamed name
    .ok (.operation (.candidates typed style))
  | .completionDiagnostics, [] => .ok (.operation .completionDiagnostics)
  | .diagnostics, [] => .ok (.operation .diagnostics)
  | .getType, [line, column] => do
    let line ← Integer.parseNat "Line" line
    let column ← Integer.parseNat "Column" column
    .ok (.operation (.getType line column))
  | .setUnsaved, [file, source] => .ok (.operation (.setUnsaved (fileNamed path file) source))
  | .resetUnsaved, [file] => .ok (.operation (.resetUnsaved (fileNamed path file)))
  | .getCompileOptions, [buildDir, file] =>
    .ok (.operation (.getCompileOptions buildDir (fileNamed path file)))
  | .setDebug, [value] => do
    let on ← switch value
    .ok (.verbosity on)
  | verb, args => .error (.wrongArity verb.name args.length)

def ofWords (path : String) : List String → Except Refusal Task
  | [] => .error .emptyCommand
  | verb :: rest =>
    match Verb.ofName? verb with
    | none => .error (.unknownVerb verb)
    | some v => do
      v.checkArity (Words.splitFlags rest).1
      ofArguments path (Words.splitFlags rest).2 v (Words.splitFlags rest).1

end Task

/-! ## Words and tasks -/

inductive Fits : Verb → List String → Prop
  | help : Fits .help []
  | candidates : Fits .candidates []
  | candidatesTyped (typed : String) : Fits .candidates [typed]
  | candidatesStyled (typed style : String) : Fits .candidates [typed, style]
  | complete (file line column : String) : Fits .complete [file, line, column]
  | completionDiagnostics : Fits .completionDiagnostics []
  | diagnostics : Fits .diagnostics []
  | exit : Fits .exit []
  | getCompileOptions (buildDir file : String) : Fits .getCompileOptions [buildDir, file]
  | getType (line column : String) : Fits .getType [line, column]
  | parse (file : String) : Fits .parse [file]
  | resetUnsaved (file : String) : Fits .resetUnsaved [file]
  | setDebug (value : String) : Fits .setDebug [value]
  | setUnsaved (file source : String) : Fits .setUnsaved [file, source]

theorem Verb.ofName?_name (v : Verb) : ofName? v.name = some v := by
  cases v <;> decide

theorem Verb.arity_of_checkArity {v : Verb} {args : List String} {r : Refusal}
    (h : v.checkArity args = .error r) :
    (args.length < v.arity.1 ∨ v.arity.2 < args.length) ∧ r = .wrongArity v.name args.length := by
  unfold checkArity at h
  split at h
  · rename_i hcount
    cases h
    exact ⟨hcount, rfl⟩
  · cases h

/-- The table of commands asks for as many arguments as are read. -/
theorem fits_of_checkArity {v : Verb} {args : List String} (h : v.checkArity args = .ok ()) :
    Fits v args := by
  unfold Verb.checkArity at h
  split at h
  · cases h
  · rename_i hcount
    rcases args with _ | ⟨a, _ | ⟨b, _ | ⟨c, _ | ⟨d, args⟩⟩⟩⟩ <;> cases v <;>
      simp [Verb.arity] at hcount <;> constructor

namespace Task

theorem error_of_bind {x : Except Refusal α} {f : α → Except Refusal β} {r : Refusal}
    (h : x >>= f = .error r) : x = .error r ∨ ∃ a, x = .ok a ∧ f a = .error r := by
  cases x with
  | error r' =>
    cases h
    exact .inl rfl
  | ok a => exact .inr ⟨a, rfl, h⟩

theorem bind_eq_ok_iff {ε : Type} {x : Except ε α} {f : α → Except ε β} {b : β} :
    x >>= f = .ok b ↔ ∃ a, x = .ok a ∧ f a = .ok b := by
  cases x with
  | error r => simp [bind, Except.bind]
  | ok a => simp [bind, Except.bind]

theorem ofWords_name (path : String) (v : Verb) (rest : List String) :
    ofWords path (v.name :: rest) = (v.checkArity (Words.splitFlags rest).1 >>= fun _ =>
      ofArguments path (Words.splitFlags rest).2 v (Words.splitFlags rest).1) := by
  simp [ofWords, Verb.ofName?_name]

theorem ofWords_unknown {path verb : String} (h : ∀ v : Verb, v.name ≠ verb) (rest : List String) :
    ofWords path (verb :: rest) = .error (.unknownVerb verb) := by
  have hnone : Verb.ofName? verb = none := List.find?_eq_none.mpr fun v _ => by simpa using h v
  simp [ofWords, hnone]

/-- A command with as many arguments as it asks for is refused for one of them only. -/
theorem ofArguments_error {path : String} {flags args : List String} {v : Verb} {r : Refusal}
    (hfits : Fits v args) (h : ofArguments path flags v args = .error r) : r.ofArgument = true := by
  have hplace : ∀ {line column : String} {f : Nat → Nat → Task}, (do
      let line ← Integer.parseNat "Line" line
      let column ← Integer.parseNat "Column" column
      return f line column : Except Refusal Task) = .error r → r.ofArgument = true := by
    intro line column f h
    rcases error_of_bind h with h | ⟨n, -, h⟩
    · exact Integer.ofArgument_of_parseNat h
    · rcases error_of_bind h with h | ⟨m, -, h⟩
      · exact Integer.ofArgument_of_parseNat h
      · cases h
  cases hfits with
  | complete file line column => exact hplace h
  | getType line column => exact hplace h
  | candidatesStyled typed name =>
    rcases error_of_bind h with hstyle | ⟨_, -, hread⟩
    · unfold styleNamed at hstyle
      split at hstyle <;> cases hstyle
      rfl
    · cases hread
  | setDebug value =>
    rcases error_of_bind h with hswitch | ⟨_, -, hread⟩
    · unfold switch at hswitch
      split at hswitch
      · cases hswitch
      · split at hswitch <;> cases hswitch
        rfl
    · cases hread
  | _ => cases h

/-- A command that is not refused has a name from the table, and the arguments that belong to it. -/
theorem ofWords_ok {path : String} {words : List String} {task : Task}
    (h : ofWords path words = .ok task) :
    ∃ (v : Verb) (rest : List String), words = v.name :: rest ∧ Fits v (Words.splitFlags rest).1 ∧
      ofArguments path (Words.splitFlags rest).2 v (Words.splitFlags rest).1 = .ok task := by
  cases words with
  | nil => cases h
  | cons verb rest =>
    by_cases hverb : ∃ v : Verb, v.name = verb
    · obtain ⟨v, rfl⟩ := hverb
      rw [ofWords_name] at h
      obtain ⟨_, hcount, htask⟩ := bind_eq_ok_iff.mp h
      exact ⟨v, rest, rfl, fits_of_checkArity hcount, htask⟩
    · rw [ofWords_unknown fun v hv => hverb ⟨v, hv⟩] at h
      cases h

end Task

namespace Server

variable {σ : Type}

def carryOut (E : Engine σ) : Task → Act (Server σ) Unit
  | .usage => onSession (Session.emit usage)
  | .leave => .fail .exit
  | .operation op => perform E op
  | .verbosity on => onSession (Session.setVerbose on)

/-! ## Before the task -/

def ScratchMade (s s' : Server σ) : Prop :=
  s'.scratch = s.scratch ∧ s'.session.files = s.session.files ∨
    s.scratch.isOpen = false ∧ s.scratch.blocked = none ∧
      s'.scratch = { s.scratch with isOpen := true } ∧
      s'.session.files =
        (s.session.files.write s.scratch.path []).toOption.getD s.session.files

/-- Nothing was done but to log, and to make the scratch file at most. -/
structure Untouched (s s' : Server σ) : Prop where
  engine : s'.session.pool.engine = s.session.pool.engine
  cache : s'.session.pool.cache = s.session.pool.cache
  verbose : s'.session.pool.journal.verbose = s.session.pool.journal.verbose
  strict : s'.session.pool.journal.strict = s.session.pool.journal.strict
  settings : s'.session.settings = s.session.settings
  overlays : s'.session.overlays = s.session.overlays
  parse : s'.session.activeParse = s.session.activeParse
  completion : s'.session.activeCompletion = s.session.activeCompletion
  out : s'.session.out = s.session.out
  scratch : ScratchMade s s'

theorem Untouched.refl (s : Server σ) : Untouched s s :=
  ⟨rfl, rfl, rfl, rfl, rfl, rfl, rfl, rfl, rfl, .inl ⟨rfl, rfl⟩⟩

theorem ScratchMade.trans {s t u : Server σ} (h : ScratchMade s t) (h' : ScratchMade t u) :
    ScratchMade s u := by
  rcases h with ⟨hscratch, hfiles⟩ | ⟨hclosed, hfree, hscratch, hfiles⟩
  · unfold ScratchMade at h' ⊢
    rw [hscratch, hfiles] at h'
    exact h'
  · -- once made, the file is not made again
    rcases h' with ⟨hscratch', hfiles'⟩ | ⟨hclosed', -⟩
    · exact .inr ⟨hclosed, hfree, hscratch'.trans hscratch, hfiles'.trans hfiles⟩
    · rw [hscratch] at hclosed'
      cases hclosed'

theorem ScratchMade.path {s s' : Server σ} (h : ScratchMade s s') :
    s'.scratch.path = s.scratch.path := by
  rcases h with ⟨hscratch, -⟩ | ⟨-, -, hscratch, -⟩
  · rw [hscratch]
  · rw [hscratch]

theorem ScratchMade.blocked {s s' : Server σ} (h : ScratchMade s s') :
    s'.scratch.blocked = s.scratch.blocked := by
  rcases h with ⟨hscratch, -⟩ | ⟨-, -, hscratch, -⟩
  · rw [hscratch]
  · rw [hscratch]

theorem ScratchMade.isOpen {s s' : Server σ} (h : ScratchMade s s')
    (hclosed : s'.scratch.isOpen = false) : s.scratch.isOpen = false := by
  rcases h with ⟨hscratch, -⟩ | ⟨h, -⟩
  · rw [← hscratch]
    exact hclosed
  · exact h

theorem Untouched.trans {s t u : Server σ} (h : Untouched s t) (h' : Untouched t u) :
    Untouched s u :=
  ⟨h'.engine.trans h.engine, h'.cache.trans h.cache, h'.verbose.trans h.verbose,
    h'.strict.trans h.strict, h'.settings.trans h.settings, h'.overlays.trans h.overlays,
    h'.parse.trans h.parse, h'.completion.trans h.completion, h'.out.trans h.out,
    h.scratch.trans h'.scratch⟩

theorem Untouched.refuses {s t : Server σ} (h : Untouched s t) :
    t.session.pool.journal.refuses = s.session.pool.journal.refuses := by
  funext level
  rw [Journal.refuses, Journal.refuses, Journal.keeps, Journal.keeps, h.verbose, h.strict]

theorem log_untouched (origin : Origin) (level : Level) (message : String) (s : Server σ) :
    Untouched s (log origin level message s).2 :=
  ⟨rfl, rfl, Journal.verbose_record _ _, Journal.strict_record _ _, rfl, rfl, rfl, rfl, rfl,
    .inl ⟨rfl, rfl⟩⟩

theorem ends_scratchPath_untouched (s : Server σ) :
    (scratchPath : Act (Server σ) String).Ends s
      (fun path s' => Untouched s s' ∧ path = s.scratch.path)
      (fun e s' => s' = s ∧ s.scratch.isOpen = false ∧ s.scratch.blocked = some e) := by
  unfold scratchPath ensureScratch
  rw [Act.ends_bind, Act.ends_gets, Act.ends_bind]
  split
  · exact ⟨.refl s, rfl⟩
  · rename_i hclosed
    have hclosed : s.scratch.isOpen = false := by simpa using hclosed
    cases hblocked : s.scratch.blocked with
    | some e => exact ⟨rfl, hclosed, rfl⟩
    | none =>
      refine ⟨⟨rfl, rfl, Journal.verbose_record _ _, Journal.strict_record _ _, rfl, rfl, rfl, rfl,
        rfl, .inr ?_⟩, rfl⟩
      exact ⟨hclosed, hblocked, rfl, rfl⟩

theorem ends_resolve_untouched (name : String) (s : Server σ) :
    (resolve name).Ends s
      (fun file s' => Untouched s s' ∧ file = Task.fileNamed s.scratch.path name)
      (fun e s' => s' = s ∧ s.scratch.isOpen = false ∧ s.scratch.blocked = some e) := by
  unfold resolve Task.fileNamed
  split
  · rw [Act.ends_bind]
    refine (ends_scratchPath_untouched s).mono ?_ fun _ _ h => h
    rintro path s' ⟨hs, hpath⟩
    exact ⟨hs.trans (log_untouched _ _ _ s'), hpath⟩
  · exact ⟨.refl s, rfl⟩

/-! ## Following the words -/

/-- How a command ends that was taken in `s` and read as `reading`. -/
inductive Follows (E : Engine σ) (s : Server σ) (reading : Except Refusal Task) :
    Except Fault Unit × Server σ → Prop
  | refused {s' : Server σ} {r : Refusal} (hs : Untouched s s') (hreading : reading = .error r) :
    Follows E s reading (.error (.refused r), s')
  | carried {t : Server σ} {task : Task} (ht : Untouched s t) (hreading : reading = .ok task) :
    Follows E s reading (carryOut E task t)
  /-- The scratch file is needed and cannot be made. -/
  | barred {s' : Server σ} {e : Fault} (hs : Untouched s s') (hclosed : s.scratch.isOpen = false)
    (hblocked : s.scratch.blocked = some e) : Follows E s reading (.error e, s')

def Leads (E : Engine σ) (s : Server σ) (reading : Except Refusal Task)
    (x : Act (Server σ) Unit) : Prop :=
  ∀ t, Untouched s t → Follows E s reading (x t)

variable {E : Engine σ} {s : Server σ} {reading : Except Refusal Task}

theorem leads_refuse (r : Refusal) : Leads E s (.error r) (refuse r) :=
  fun _ ht => .refused ht rfl

theorem leads_carryOut (task : Task) : Leads E s (.ok task) (carryOut E task) :=
  fun _ ht => .carried ht rfl

theorem leads_log {origin : Origin} {level : Level} {message : String}
    {f : Unit → Act (Server σ) Unit} (hf : Leads E s reading (f ())) :
    Leads E s reading (log origin level message >>= f) :=
  fun t ht => hf _ (ht.trans (log_untouched origin level message t))

theorem leads_ofRefusable {x : Except Refusal α} {next : α → Except Refusal Task}
    {f : α → Act (Server σ) Unit} (hf : ∀ a, Leads E s (next a) (f a)) :
    Leads E s (x >>= next) (ofRefusable x >>= f) := by
  intro t ht
  cases x with
  | error r => exact .refused ht rfl
  | ok a => exact hf a t ht

theorem leads_style {name : String} {next : MatchStyle → Except Refusal Task}
    {f : MatchStyle → Act (Server σ) Unit} (hf : ∀ style, Leads E s (next style) (f style)) :
    Leads E s (Task.styleNamed name >>= next) (style name >>= f) := by
  unfold Task.styleNamed style
  cases MatchStyle.parse? name with
  | none => exact fun _ ht => .refused ht rfl
  | some style => exact hf style

theorem leads_setDebug (value : String) :
    Leads E s (Task.switch value >>= fun on => .ok (.verbosity on)) (setDebug value) := by
  unfold Task.switch setDebug
  split
  · exact leads_carryOut (.verbosity true)
  · split
    · exact leads_carryOut (.verbosity false)
    · exact leads_refuse _

theorem leads_resolve {name : String} {f : String → Act (Server σ) Unit}
    (hf : Leads E s reading (f (Task.fileNamed s.scratch.path name))) :
    Leads E s reading (resolve name >>= f) := by
  intro t ht
  have hends := ends_resolve_untouched name t
  unfold Act.Ends at hends
  rw [Act.bind_apply]
  rcases hresolve : resolve name t with ⟨e | file, t'⟩
  · rw [hresolve] at hends
    obtain ⟨rfl, hclosed, hblocked⟩ := hends
    exact .barred ht (ht.scratch.isOpen hclosed) (ht.scratch.blocked.symm.trans hblocked)
  · rw [hresolve, ht.scratch.path] at hends
    obtain ⟨ht', rfl⟩ := hends
    exact hf t' (ht.trans ht')

theorem leads_obey (E : Engine σ) (s : Server σ) (flags : List String) (verb : Verb)
    (args : List String) :
    Leads E s (Task.ofArguments s.scratch.path flags verb args) (obey E flags verb args) := by
  unfold obey
  split
  · exact leads_carryOut .usage
  · exact leads_carryOut .leave
  · exact leads_resolve (leads_log (leads_carryOut (.operation _)))
  · refine leads_resolve (leads_ofRefusable fun line => leads_ofRefusable fun column => ?_)
    exact leads_log (leads_carryOut (.operation _))
  · exact leads_carryOut (.operation _)
  · exact leads_carryOut (.operation _)
  · exact leads_style fun style => leads_carryOut (.operation _)
  · exact leads_carryOut (.operation _)
  · exact leads_carryOut (.operation _)
  · exact leads_ofRefusable fun line => leads_ofRefusable fun column =>
      leads_carryOut (.operation _)
  · exact leads_resolve (leads_carryOut (.operation _))
  · exact leads_resolve (leads_carryOut (.operation _))
  · exact leads_resolve (leads_carryOut (.operation _))
  · exact leads_setDebug _
  · rw [Task.ofArguments]
    · exact leads_refuse _
    all_goals assumption

/-- **Commands.** Every command is read, and then refused or carried out. -/
theorem execute_follows (E : Engine σ) (words : List String) (s : Server σ) :
    Follows E s (Task.ofWords s.scratch.path words) (execute E words s) := by
  cases words with
  | nil => exact .refused (.refl s) rfl
  | cons verb rest =>
    unfold execute Task.ofWords
    dsimp only
    cases Verb.ofName? verb with
    | none => exact .refused (.refl s) rfl
    | some v =>
      exact leads_ofRefusable (x := v.checkArity (Words.splitFlags rest).1)
        (fun _ => leads_obey E s _ v _) s (.refl s)

end Server

end CodeSense
