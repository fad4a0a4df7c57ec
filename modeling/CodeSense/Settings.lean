import CodeSense.Text.Case.Lower

/-!
# Settings
-/

namespace CodeSense

structure Settings where
  debug : Bool := false
  logFile : Option String := none
  builtinHeaderDir : Option String := none
  programName : String := "clang"
  parseAttempts : Int := 3
  /-- Milliseconds between two attempts. -/
  retryDelay : Int := 100
  interactive : Bool := false
  deriving DecidableEq, Repr

namespace Settings

/-- An empty value counts as none. -/
def nonEmpty (s : Option String) : Option String := s.filter (· ≠ "")

/-- The defaults, changed by what the environment holds. -/
def ofEnvironment (env : String → Option String) : Settings where
  debug := ["1", "true", "yes", "on"].contains (Text.lower ((env "IRONYD_DEBUG").getD ""))
  logFile := nonEmpty (env "IRONYD_LOG_FILE")
  builtinHeaderDir := nonEmpty (env "IRONYD_CLANG_HEADER_DIR")

/-- The compiler's full argument list for the flags of a request. -/
def compilerArguments (s : Settings) (flags : List String) : List String :=
  s.programName :: flags ++
    match nonEmpty s.builtinHeaderDir with
    | some dir => ["-isystem", dir]
    | none => []

end Settings

end CodeSense
