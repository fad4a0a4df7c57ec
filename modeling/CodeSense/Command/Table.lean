import CodeSense.Fault

/-!
# The commands
-/

namespace CodeSense

inductive Verb where
  | help | candidates | complete | completionDiagnostics | diagnostics | exit
  | getCompileOptions | getType | parse | resetUnsaved | setDebug | setUnsaved
  deriving DecidableEq, Repr

namespace Verb

def all : List Verb := [
  help, candidates, complete, completionDiagnostics, diagnostics, exit, getCompileOptions,
  getType, parse, resetUnsaved, setDebug, setUnsaved]

def name : Verb → String
  | help => "help"
  | candidates => "candidates"
  | complete => "complete"
  | completionDiagnostics => "completion-diagnostics"
  | diagnostics => "diagnostics"
  | exit => "exit"
  | getCompileOptions => "get-compile-options"
  | getType => "get-type"
  | parse => "parse"
  | resetUnsaved => "reset-unsaved"
  | setDebug => "set-debug"
  | setUnsaved => "set-unsaved"

def description : Verb → String
  | help => "show this message"
  | candidates =>
    "[PREFIX [exact|case-insensitive|smart-case]] - print completion candidates (require previous complete)"
  | complete => "FILE LINE COL [-- [COMPILE_OPTIONS...]] - perform code completion at a given location"
  | completionDiagnostics => "print the diagnostics generated during complete"
  | diagnostics => "print the diagnostics of the last parse"
  | exit => "exit interactive mode, print nothing"
  | getCompileOptions => "BUILD_DIR FILE - get compile options for FILE from JSON database in BUILD_DIR"
  | getType => "LINE COL - get type of symbol at a given location"
  | parse => "FILE [-- [COMPILE_OPTIONS...]] - parse the given file"
  | resetUnsaved => "FILE - reset FILE, its content is up to date"
  | setDebug => "[on|off] - enable or disable verbose logging"
  | setUnsaved => "FILE UNSAVED - tell the server that UNSAVED contains the effective content of FILE"

def arity : Verb → Nat × Nat
  | candidates => (0, 2)
  | complete => (3, 3)
  | getCompileOptions | getType | setUnsaved => (2, 2)
  | parse | resetUnsaved | setDebug => (1, 1)
  | help | completionDiagnostics | diagnostics | exit => (0, 0)

def ofName? (s : String) : Option Verb := all.find? (·.name = s)

def checkArity (v : Verb) (args : List String) : Except Refusal Unit :=
  if args.length < v.arity.1 ∨ v.arity.2 < args.length then
    .error (.wrongArity v.name args.length)
  else .ok ()

end Verb

def applicationName : String := "ironyd"

def padRight (width : Nat) (s : String) : String :=
  s ++ String.ofList (List.replicate (width - s.length) ' ')

def usage : String :=
  String.join <| ([
    "usage: " ++ applicationName ++ " [OPTIONS...] [COMMAND] [ARGS...]",
    "",
    "Options:",
    "  -v, --version",
    "  -h, --help",
    "  -i, --interactive",
    "  -d, --debug",
    "  --log-file PATH",
    "  --builtin-dir DIR",
    "  --libclang PATH",
    "",
    "Commands:"] ++
    Verb.all.map fun v => padRight 25 v.name ++ " " ++ v.description).map (· ++ "\n")

end CodeSense
