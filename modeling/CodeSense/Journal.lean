/-!
# The log
-/

namespace CodeSense

inductive Level where
  | debug | info | warning | error
  deriving DecidableEq, Repr

def Level.name : Level → String
  | debug => "DEBUG"
  | info => "INFO"
  | warning => "WARNING"
  | error => "ERROR"

inductive Origin where
  | startup | commands | session | units | scratch | engine
  deriving DecidableEq, Repr

def Origin.name : Origin → String
  | startup => "ironyd.cli"
  | commands => "ironyd.modules.core.commands"
  | session => "ironyd.modules.core.session"
  | units => "ironyd.modules.core.tu_cache"
  | scratch => "ironyd.modules.core.scratch"
  | engine => "ironyd.modules.core.clang_engine"

structure Entry where
  level : Level
  origin : Origin
  message : String
  deriving DecidableEq, Repr

def Entry.line (e : Entry) (time : String) : String :=
  time ++ " " ++ e.level.name ++ " " ++ e.origin.name ++ ": " ++ e.message ++ "\n"

/-- What was logged so far. Debug entries are kept only while `verbose` is on. An entry that cannot
be written is lost, or a fault if the log is `strict`. -/
structure Journal where
  verbose : Bool := false
  strict : Bool := false
  entries : List Entry := []
  deriving DecidableEq, Repr

namespace Journal

def keeps (j : Journal) (level : Level) : Bool := level ≠ .debug || j.verbose

def record (j : Journal) (e : Entry) : Journal :=
  if j.keeps e.level then { j with entries := j.entries ++ [e] } else j

/-- Whether an entry of this level that cannot be written is a fault. -/
def refuses (j : Journal) (level : Level) : Bool := j.strict && j.keeps level

def setVerbose (j : Journal) (on : Bool) : Journal := { j with verbose := on }

def threshold (j : Journal) : Level := if j.verbose then .debug else .info

end Journal

end CodeSense
