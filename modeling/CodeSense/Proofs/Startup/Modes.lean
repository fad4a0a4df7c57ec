import CodeSense.Proofs.Command.Requests
import CodeSense.Proofs.Server.Agreement

/-!
# One command or many

A command on the command line and the same command as a line of input come to the same:
`modes_agree`. The two runs differ in how they come by the words of the command, and in the log.
-/

namespace CodeSense

namespace Options

/-! ## Flags before other options -/

theorem setFlag_comm (o : Options) (f g : Opt) :
    (o.setFlag f).setFlag g = (o.setFlag g).setFlag f := by
  cases f <;> cases g <;> rfl

theorem setValue_setFlag (o : Options) (f g : Opt) (given : Given) :
    (o.setFlag f).setValue given g = (o.setValue given g).setFlag f := by
  cases f <;> cases g <;> rfl

theorem joinedFlags_setFlag (o : Options) (f g : Opt) (cs : List Char) :
    joinedFlags (o.setFlag f) g cs = (joinedFlags o g cs).map (·.setFlag f) := by
  induction cs generalizing o g with
  | nil => simp [joinedFlags, Except.map, setFlag_comm]
  | cons c cs ih =>
    simp only [joinedFlags]
    split
    · rw [setFlag_comm, ih]
    · rfl

theorem joined_setFlag (o : Options) (f g : Opt) (short : Bool) (value : String) :
    joined (o.setFlag f) g short value = (joined o g short value).map (·.setFlag f) := by
  unfold joined
  split
  · simp [Except.map, setValue_setFlag]
  · split
    · exact joinedFlags_setFlag o f g _
    · rfl

theorem collect_flag {g : Opt} (hflag : g.takesValue = false) (o : Options) (extra : List String)
    (word : String) (short : Bool) (rest : List (String × Role)) :
    collect o extra ((word, .option g short none) :: rest) = collect (o.setFlag g) extra rest := by
  rw [collect.eq_def]
  simp [hflag]

theorem collect_setFlag (o : Options) (f : Opt) (extra : List String)
    (words : List (String × Role)) :
    collect (o.setFlag f) extra words =
      (collect o extra words).map fun r => (r.1.setFlag f, r.2) := by
  fun_induction collect o extra words with
  | case1 => rfl
  | case2 o extra _ g short value rest ih =>
    rw [collect, joined_setFlag]
    cases joined o g short value with
    | error e => rfl
    | ok o' => exact ih o'
  | case3 o extra _ g short hvalue value rest ih =>
    rw [collect, if_pos hvalue, setValue_setFlag]
    exact ih
  | case4 o extra _ g short rest hvalue hnone =>
    rw [collect, if_pos hvalue]
    · rfl
    · exact hnone
  | case5 o extra _ g short rest hvalue ih =>
    rw [collect_flag (by simpa using hvalue), setFlag_comm]
    exact ih
  | case6 o extra word role rest hsome hnone ih =>
    rw [collect]
    · exact ih
    · exact hsome
    · exact hnone

/-- A flag before the options is set besides what they say. -/
theorem parse_cons {word : String} {f : Opt} {short : Bool} (hword : word ≠ "--")
    (hrole : role word = .ok (.option f short none)) (hflag : f.takesValue = false)
    (words : List String) : parse (word :: words) = (parse words).map (·.setFlag f) := by
  unfold parse
  rw [roles, if_neg hword, hrole]
  cases hroles : roles words with
  | error e => rfl
  | ok rs =>
    have hcollect : collect {} [] ((word, .option f short none) :: rs) =
        (collect {} [] rs).map fun r => (r.1.setFlag f, r.2) := by
      rw [collect_flag hflag]
      exact collect_setFlag {} f [] rs
    simp only [bind, Except.bind, pure, Except.pure, hcollect]
    cases collect {} [] rs with
    | error e => rfl
    | ok r =>
      obtain ⟨o, extra⟩ := r
      cases extra with
      | nil => rfl
      | cons word extra => rfl

/-! ## Options and commands -/

section
variable {word : String} (hword : word.startsWith "-" = true)
include hword

theorem splitCommand_flag (hflag : (Opt.find? word).any (·.takesValue) = false)
    (rest : List String) :
    splitCommand (word :: rest) = (word :: (splitCommand rest).1, (splitCommand rest).2) := by
  rw [splitCommand.eq_def]
  simp [hword, hflag]

theorem splitCommand_value (hvalue : (Opt.find? word).any (·.takesValue) = true) (value : String)
    (rest : List String) :
    splitCommand (word :: value :: rest) =
      (word :: value :: (splitCommand rest).1, (splitCommand rest).2) := by
  rw [splitCommand.eq_def]
  simp [hword, hvalue]

end

/-- Without the command, all words are options. -/
theorem splitCommand_of_append {opts words : List String}
    (h : splitCommand (opts ++ words) = (opts, words)) : splitCommand opts = (opts, []) := by
  fun_induction splitCommand opts with
  | case1 => rfl
  | case2 word rest hplain =>
    -- a word that is no option would start the command
    rw [List.cons_append, splitCommand.eq_def] at h
    simp [hplain] at h
  | case3 word => rfl
  | case4 word hword hvalue value rest options command heq ih =>
    rw [List.cons_append, List.cons_append, splitCommand_value (by simpa using hword) hvalue] at h
    simp only [Prod.mk.injEq, List.cons.injEq, true_and] at h
    have hrest := ih (Prod.ext h.1 h.2)
    rw [heq] at hrest
    cases hrest
    rfl
  | case5 word rest hword hflag options command heq ih =>
    rw [List.cons_append, splitCommand_flag (by simpa using hword) (by simpa using hflag)] at h
    simp only [Prod.mk.injEq, List.cons.injEq, true_and] at h
    have hrest := ih (Prod.ext h.1 h.2)
    rw [heq] at hrest
    cases hrest
    rfl

end Options

/-! ## Both modes -/

def Settings.chosen (env : String → Option String) (o : Options) : Settings :=
  let settings := ofEnvironment env
  { settings with
    debug := settings.debug || o.debug
    logFile := nonEmpty o.logFile.text? <|> settings.logFile
    builtinHeaderDir := nonEmpty o.builtinDir.text? <|> settings.builtinHeaderDir }

theorem Plan.ofArguments_eq {args opts command : List String} {o : Options} (hargs : args ≠ [])
    (hsplit : Options.splitCommand args = (opts, command)) (hparse : Options.parse opts = .ok o)
    (hhelp : o.help = false) (hversion : o.version = false) (env : String → Option String) :
    Plan.ofArguments env args =
      .serve { Settings.chosen env o with interactive := o.interactive } o.library command := by
  unfold Plan.ofArguments
  rw [if_neg (by simpa using hargs), hsplit]
  dsimp only
  rw [hparse]
  simp [hhelp, hversion, Settings.chosen]

structure Outcome.Alike (a b : Outcome σ) : Prop where
  ending : a.ending = b.ending
  usageError : a.usageError = b.usageError
  output : a.output = b.output
  engine : a.engine = b.engine
  files : a.files = b.files
  logFile : a.logFile = b.logFile

theorem Source.same_encodeLine {words : List String} (h : words ≠ []) :
    Source.Same (.words words) (.line (Words.encodeLine words)) :=
  ⟨(Words.isBlankLine_encodeLine h).symm, (Words.split_encodeLine words).symm⟩

theorem Source.ofText_encodeLine {words : List String} (h : ∀ w ∈ words, '\n' ∉ w.toList) :
    Source.ofText (Words.encodeLine words) = [.line (Words.encodeLine words)] := by
  have hlines := Words.lines_encodeLine h []
  rw [List.append_nil] at hlines
  simp [ofText, Words.lines, hlines, Text.lines]

variable {σ : Type}

def FileSystem.withLog (files : FileSystem) (logFile : Option String) : Except Fault FileSystem :=
  (logFile.map files.absolute).elim (.ok files) files.openAppend

def Server.started (w : Surroundings) (settings : Settings) (files : FileSystem) (engine : σ) :
    Server σ :=
  (announce settings (initial settings files w.scratchPath engine)).2

section
variable {E : Engine σ} {start : Option String → σ} {w : Surroundings} {settings : Settings}

theorem launchServer_error {e : Fault} (h : w.files.withLog settings.logFile = .error e)
    (library : Given) (command : List String) :
    launchServer E start w settings library command = { ending := .fault e, files := w.files } := by
  unfold FileSystem.withLog at h
  simp only [launchServer, h]

theorem launchServer_ok {files : FileSystem} (h : w.files.withLog settings.logFile = .ok files)
    (library : Given) (command : List String) :
    launchServer E start w settings library command =
      let served := (Server.started w settings files (start library.text?)).serve E
        (sourcesOf settings command w.input)
      { ending := served.1
        output := served.2.session.out
        engine := some (library, served.2.session.pool.engine)
        files := served.2.session.files
        logFile := settings.logFile.map w.files.absolute
        log := served.2.session.pool.journal.entries } := by
  unfold FileSystem.withLog at h
  simp only [launchServer, h, Server.started]

end

/-- Servers that are to do the same start the same. -/
theorem Server.started_alike {w v : Surroundings} {a b : Settings} (hsettings : a.Alike b)
    (hdebug : a.debug = b.debug) (hlogFile : a.logFile = b.logFile)
    (hpath : w.scratchPath = v.scratchPath) (files : FileSystem) (engine : σ) :
    (started w a files engine).Alike (started v b files engine) := by
  have hjournal : (started w a files engine).session.pool.journal.Alike False
      (started v b files engine).session.pool.journal := by
    refine Journal.Alike.of_refuses (fun _ _ => ?_) (Journal.refuses_record ..)
      (Journal.refuses_record ..)
    rw [initial, initial, hdebug, hlogFile]
  exact ⟨⟨⟨rfl, rfl, hjournal⟩, hsettings, rfl, rfl, rfl, rfl, rfl⟩,
    congrArg (Scratch.mk · false none) hpath⟩

theorem launchServer_alike (E : Engine σ) (start : Option String → σ) {w v : Surroundings}
    {a b : Settings} {command command' : List String} (library : Given) (hsettings : a.Alike b)
    (hdebug : a.debug = b.debug) (hlogFile : a.logFile = b.logFile) (hfiles : w.files = v.files)
    (hpath : w.scratchPath = v.scratchPath)
    (hsources : List.Forall₂ Source.Same (sourcesOf a command w.input)
      (sourcesOf b command' v.input)) :
    (launchServer E start w a library command).Alike
      (launchServer E start v b library command') := by
  have hlog : w.files.withLog a.logFile = v.files.withLog b.logFile := by rw [hfiles, hlogFile]
  cases hopen : w.files.withLog a.logFile with
  | error e =>
    rw [launchServer_error hopen, launchServer_error (hlog ▸ hopen)]
    exact ⟨rfl, rfl, rfl, rfl, hfiles, rfl⟩
  | ok files =>
    have hstarted :=
      Server.started_alike hsettings hdebug hlogFile hpath files (start library.text?)
    obtain ⟨hending, hserver⟩ := Server.serve_alike E hsources hstarted
    have hengine := congrArg (fun engine => some (library, engine)) hserver.session.pool.engine
    rw [launchServer_ok hopen, launchServer_ok (hlog ▸ hopen), hlogFile, hfiles]
    exact ⟨hending, rfl, hserver.session.out, hengine, hserver.session.files, rfl⟩

/-- A command given on the command line and the same command read from the input, after the same
options, come to the same: what is written, the calls of the engine, and how the server ends. -/
theorem modes_agree (E : Engine σ) (start : Option String → σ) (w : Surroundings)
    {opts words : List String} {o : Options} (hparse : Options.parse opts = .ok o)
    (hinteractive : o.interactive = false) (hhelp : o.help = false) (hversion : o.version = false)
    (hwords : words ≠ []) (hlines : ∀ word ∈ words, '\n' ∉ word.toList)
    (hsplit : Options.splitCommand (opts ++ words) = (opts, words)) :
    (launch E.traced (fun library => { state := start library }) w (opts ++ words)).Alike
      (launch E.traced (fun library => { state := start library })
        { w with input := Words.encodeLine words } ("-i" :: opts)) := by
  have hparse' : Options.parse ("-i" :: opts) = .ok (o.setFlag .interactive) := by
    have hrole : Options.role "-i" = .ok (.option .interactive true none) := by decide +kernel
    rw [Options.parse_cons (by decide) hrole rfl, hparse]
    rfl
  have hsplit' : Options.splitCommand ("-i" :: opts) = ("-i" :: opts, []) := by
    have hdash : "-i".startsWith "-" = true := by decide +kernel
    rw [Options.splitCommand_flag hdash (by decide), Options.splitCommand_of_append hsplit]
  have hsingle := Plan.ofArguments_eq (by simp [hwords]) hsplit hparse hhelp hversion w.env
  have hmany := Plan.ofArguments_eq (by simp) hsplit' hparse' hhelp hversion w.env
  rw [hinteractive] at hsingle
  have hsources : List.Forall₂ Source.Same [.words words]
      (Source.ofText (Words.encodeLine words)) := by
    rw [Source.ofText_encodeLine hlines]
    exact .cons (Source.same_encodeLine hwords) .nil
  unfold launch
  rw [hsingle, hmany]
  exact launchServer_alike E.traced _ o.library ⟨rfl, rfl, fun _ => rfl⟩ rfl rfl rfl rfl hsources

/-- An option with a value before the command, and a quote in one of its words. -/
theorem modes_agree_quoted :
    let start : Option String → Traced Script := fun _ => { state := {} }
    let w : Surroundings := { scratchPath := "s" }
    let single := launch Script.engine.traced start w
      ["-d", "--builtin-dir", "inc", "parse", "it's.c", "--", "-x"]
    single.output = "(success . t)\n\n;;EOT\n" ∧
      single.Alike (launch Script.engine.traced start
        { w with input := "'parse' 'it'\"'\"'s.c' '--' '-x'\n" } ["-i", "-d", "--builtin-dir", "inc"]) := by
  intro start w single
  have hparse : Options.parse ["-d", "--builtin-dir", "inc"] =
      .ok { debug := true, builtinDir := .value "inc" } := by decide +kernel
  have hline : Words.encodeLine ["parse", "it's.c", "--", "-x"] =
      "'parse' 'it'\"'\"'s.c' '--' '-x'\n" := by decide +kernel
  refine ⟨by decide +kernel, ?_⟩
  rw [← hline]
  exact modes_agree Script.engine (fun _ => {}) w hparse rfl rfl rfl (by simp) (by decide)
    (by decide +kernel)

end CodeSense
