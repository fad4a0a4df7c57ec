import CodeSense.Engine.Absent
import CodeSense.Startup.Launch
import Std.Time.DateTime.Timestamp

/-!
# The command line

Carries the server's reads and writes out in the world, one command at a time.
-/

namespace CodeSense.CommandLine

def timeOfDay : IO String := do
  let ms := (← Std.Time.Timestamp.now).toMillisecondsSinceUnixEpoch.val.toNat
  let pad (width n : Nat) : String :=
    let digits := toString n
    String.ofList (List.replicate (width - digits.length) '0') ++ digits
  return pad 2 (ms / 3600000 % 24) ++ ":" ++ pad 2 (ms / 60000 % 60) ++ ":" ++
    pad 2 (ms / 1000 % 60) ++ "." ++ pad 3 (ms % 1000)

/-- Log entries go to the log file, or to standard error if there is none. -/
def writeLog (sink : IO.FS.Stream) (entries : List Entry) : IO Unit := do
  for e in entries do
    sink.putStr (e.line (← timeOfDay))
  sink.flush

/-- Puts a file that is about to be read into the server's view of the files. -/
def supply (files : FileSystem) (path : String) : IO FileSystem := do
  let place := FileSystem.simplify (files.components path)
  let put (node : Node) : FileSystem := { files with nodes := files.nodes.put place node }
  try
    return put (.file (← IO.FS.readBinFile path).toList)
  catch
    | .inappropriateType .. => return put .directory
    | _ => return { files with nodes := files.nodes.erase place }

/-- Hands out what the server wrote and logged, and starts it afresh. -/
def flush (sink : IO.FS.Stream) (s : Server σ) : IO (Server σ) := do
  let out ← IO.getStdout
  out.putStr s.session.out
  out.flush
  writeLog sink s.session.pool.journal.entries
  let pool := { s.session.pool with journal.entries := [] }
  return { s with session := { s.session with out := "", pool } }

/-- Makes or removes the scratch file, as the server did. -/
def followScratch (before after : Scratch) : IO Unit := do
  if after.isOpen && !before.isOpen then IO.FS.writeFile after.path ""
  if before.isOpen && !after.isOpen then
    try IO.FS.removeFile before.path catch _ => pure ()

partial def loop (E : Engine σ) (sink : IO.FS.Stream) (next : IO (Option Source)) (s : Server σ) :
    IO (Ending × Server σ) := do
  match ← next with
  | none => return (.status 0, s)
  | some source =>
    let files ← match source.reads? with
      | some path => supply s.session.files path
      | none => pure s.session.files
    let before := s.scratch
    let (turn, s) := Server.turn E source { s with session := { s.session with files } }
    followScratch before s.scratch
    let s ← flush sink s
    match turn with
    | .ended _ ending => return (ending, s)
    | .skipped | .completed _ => loop E sink next s

def nextLine : IO (Option Source) := do
  let line ← (← IO.getStdin).getLine
  return if line.isEmpty then none else some (.line line)

def openLog (path : Option String) : IO IO.FS.Stream :=
  match path with
  | none => IO.getStderr
  | some path => return .ofHandle (← IO.FS.Handle.mk path .append)

def serve (E : Engine σ) (engine : σ) (settings : Settings) (command : List String) : IO UInt32 := do
  let sink ← openLog settings.logFile
  let cwd := (← IO.currentDir).toString
  let files : FileSystem := { workDir := FileSystem.simplify (FileSystem.split cwd) }
  let scratchPath := "/tmp/irony-temp" ++ toString (← IO.rand 10000000 99999999)
  let s := Server.initial settings files scratchPath engine
  let s ← flush sink (Server.announce settings s).2
  let pending ← IO.mkRef (some (Source.words command))
  let next := if settings.interactive then nextLine else pending.swap none
  let (ending, s) ← loop E sink next s
  let (ending, s) := Server.conclude ending s
  let before := s.scratch
  let (ending, s) := Server.shutDown E ending s
  followScratch before s.scratch
  discard <| flush sink s
  match ending with
  | .status code => return code.toUInt32
  | .fault e =>
    IO.eprintln e.message
    return 1

def settingNames : List String := ["IRONYD_DEBUG", "IRONYD_LOG_FILE", "IRONYD_CLANG_HEADER_DIR"]

def run (E : Engine σ) (start : Option String → σ) (args : List String) : IO UInt32 := do
  let env ← settingNames.mapM fun name => return (name, ← IO.getEnv name)
  match Plan.ofArguments (fun name => (env.lookup name).join) args with
  | .showUsage =>
    IO.print usage
    return 0
  | .reject e =>
    IO.eprintln (applicationName ++ ": error: " ++ e.message)
    return 2
  | .showVersion library =>
    let (r, output, _) := showVersion E (start library.text?)
    IO.print output
    match r with
    | .ok () => return 0
    | .error e =>
      IO.eprintln e.message
      return 1
  | .serve settings library command => serve E (start library.text?) settings command

end CodeSense.CommandLine

def main (args : List String) : IO UInt32 :=
  CodeSense.CommandLine.run CodeSense.Engine.absent (fun _ => ()) args
