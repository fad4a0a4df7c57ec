import CodeSense.Server.Loop
import CodeSense.Startup.Options

/-!
# Starting the server

What the command line asks for, and a whole run of it: with the arguments, the environment,
the files and the input given, everything that can be observed afterwards.
-/

namespace CodeSense

def serverVersion : String := "1.0.0"

inductive Plan where
  | showUsage
  | reject (e : UsageError)
  | showVersion (library : Given)
  | serve (settings : Settings) (library : Given) (command : List String)
  deriving DecidableEq, Repr

def Plan.ofArguments (env : String → Option String) (args : List String) : Plan :=
  if args.isEmpty then .showUsage
  else
    let (words, command) := Options.splitCommand args
    match Options.parse words with
    | .error e => .reject e
    | .ok options =>
      if options.help then .showUsage
      else if options.version then .showVersion options.library
      else
        let settings := Settings.ofEnvironment env
        .serve { settings with
            debug := settings.debug || options.debug
            interactive := options.interactive
            logFile := Settings.nonEmpty options.logFile.text? <|> settings.logFile
            builtinHeaderDir :=
              Settings.nonEmpty options.builtinDir.text? <|> settings.builtinHeaderDir }
          options.library command

structure Surroundings where
  env : String → Option String := fun _ => none
  files : FileSystem := {}
  input : String := ""
  /-- A path that is free for the scratch file. -/
  scratchPath : String

structure Outcome (σ : Type) where
  ending : Ending
  usageError : Option UsageError := none
  output : String := ""
  /-- What the engine's library was given as, and the engine's last state, if it was started. -/
  engine : Option (Given × σ) := none
  files : FileSystem
  logFile : Option String := none
  log : List Entry := []

/-- The files with the log written to its file, all at one time of day. -/
def Outcome.filesAt (o : Outcome σ) (time : String) : FileSystem :=
  match o.logFile with
  | none => o.files
  | some path =>
    o.files.append path (Text.Utf8.encode (String.join (o.log.map (·.line time))).toList)

namespace Server

variable {σ : Type}

/-- A server about to take its first command. Without a file, its log is a strict one. -/
def initial (settings : Settings) (files : FileSystem) (scratchPath : String) (engine : σ) :
    Server σ where
  session := {
    settings, files
    pool := { engine, journal := { verbose := settings.debug, strict := settings.logFile.isNone } } }
  scratch := { path := scratchPath }

/-- The server's log starts with the builtin header directory. -/
def announce (settings : Settings) : Act (Server σ) Unit :=
  log .startup .info ("Builtin dir: " ++ settings.builtinHeaderDir.getD "")

def conclude (ending : Ending) (s : Server σ) : Ending × Server σ :=
  match ending with
  | .status code => (.status code, s)
  | .fault (.interrupted _) => (.status 130, s)
  | .fault e => (.fault e, (log .startup .error "Unhandled error" s).2)

/-- Gives everything back. A fault of the engine while it does so hides the ending. -/
def shutDown (E : Engine σ) (ending : Ending) (s : Server σ) : Ending × Server σ :=
  match onSession (Session.dispose E) s with
  | (.error e, s) => (.fault e, s)
  | (.ok (), s) => (ending, (closeScratch s).2)

def serve (E : Engine σ) (sources : List Source) (s : Server σ) : Ending × Server σ :=
  let loop := run E sources s
  let (ending, s) := conclude loop.ending loop.final
  shutDown E ending s

end Server

variable {σ : Type}

def showVersion (E : Engine σ) (engine : σ) : Except Fault Unit × String × σ :=
  let banner := applicationName ++ " version " ++ serverVersion ++ "\n"
  match E.call .version engine with
  | (⟨.error e, _, _⟩, engine) => (.error e, banner, engine)
  | (⟨.ok text, _, _⟩, engine) =>
    let (reply, engine) := E.call .close engine
    (reply.result, banner ++ text ++ "\n", engine)

def sourcesOf (settings : Settings) (command : List String) (input : String) : List Source :=
  if settings.interactive then Source.ofText input else [.words command]

/-- What is logged reaches the log file when the run is over: a run that reads its own log is not
described. -/
def launchServer (E : Engine σ) (start : Option String → σ) (w : Surroundings)
    (settings : Settings) (library : Given) (command : List String) : Outcome σ :=
  let logFile := settings.logFile.map w.files.absolute
  match logFile.elim (.ok w.files) w.files.openAppend with
  | .error e => { ending := .fault e, files := w.files }
  | .ok files =>
    let server := Server.initial settings files w.scratchPath (start library.text?)
    let server := (Server.announce settings server).2
    let (ending, server) := server.serve E (sourcesOf settings command w.input)
    let session := server.session
    { ending
      output := session.out
      engine := some (library, session.pool.engine)
      files := session.files
      logFile
      log := session.pool.journal.entries }

def launch (E : Engine σ) (start : Option String → σ) (w : Surroundings) (args : List String) :
    Outcome σ :=
  match Plan.ofArguments w.env args with
  | .showUsage => { ending := .status 0, output := usage, files := w.files }
  | .reject e => { ending := .status 2, usageError := some e, files := w.files }
  | .showVersion library =>
    match showVersion E (start library.text?) with
    | (.ok (), output, engine) =>
      { ending := .status 0, output, engine := some (library, engine), files := w.files }
    | (.error e, output, engine) =>
      { ending := .fault e, output, engine := some (library, engine), files := w.files }
  | .serve settings library command => launchServer E start w settings library command

end CodeSense
