import CodeSense.Completion.Candidate
import CodeSense.FileSystem
import CodeSense.Overlays
import CodeSense.Pool
import CodeSense.Text.Newline

/-!
# Sessions

A session has at most one active unit, from a parse, and at most one active result set, from
a completion, besides the unsaved buffers that go into every engine call. Each operation
writes its response to `out`.
-/

namespace CodeSense

structure ActiveCompletion where
  handle : Handle
  entries : List ResultEntry

structure Session (σ : Type) where
  pool : Pool σ
  settings : Settings := {}
  files : FileSystem := {}
  overlays : Overlays := {}
  activeParse : Option UnitRef := none
  activeCompletion : Option ActiveCompletion := none
  out : String := ""

def ActiveCompletion.ofResults (handle : Handle) (entries : List ResultEntry) : ActiveCompletion :=
  ⟨handle, sortByPriority (·.completion.priority) entries⟩

namespace Session

variable {σ : Type}

def activeUnit? (s : Session σ) : Option UnitRecord := s.activeParse.bind s.pool.cache.get?

def onPool (x : Act (Pool σ) α) : Act (Session σ) α :=
  .within (·.pool) (fun pool s => { s with pool }) x

def call (E : Engine σ) (r : Request) : Act (Session σ) r.Answer := onPool (Pool.call E r)

def log (level : Level) (message : String) : Act (Session σ) Unit :=
  onPool (Pool.log .session level message)

def setVerbose (on : Bool) : Act (Session σ) Unit :=
  onPool (.modify fun p => { p with journal := p.journal.setVerbose on })

/-! ## Output -/

/-- Output that is not logged. -/
def emit (text : String) : Act (Session σ) Unit :=
  .modify fun s => { s with out := s.out ++ text }

def write (text : String) : Act (Session σ) Unit := do
  log .debug (Text.dropFinalNewlines text)
  emit text

def writeSuccess : Act (Session σ) Unit := write (Response.success ++ "\n")

def writeError (payload : String) : Act (Session σ) Unit := do
  log .info payload
  write (payload ++ "\n")

def writeAll : List String → Act (Session σ) Unit
  | [] => return
  | text :: rest => do
    write text
    writeAll rest

/-- Writes the lines one by one, then stops with the fault that broke off the listing. -/
def writeListing (listing : Listing String) : Act (Session σ) Unit := do
  writeAll listing.items
  .onSome listing.broken .fail

/-! ## Active state -/

def resetActive (E : Engine σ) : Act (Session σ) Unit := do
  let s ← .get
  .onSome s.activeCompletion fun set => call E (.disposeCompletion set.handle)
  .onSome s.activeParse fun u => onPool (Pool.release E u)
  .modify ({ · with activeCompletion := none, activeParse := none })

def dispose (E : Engine σ) : Act (Session σ) Unit := do
  resetActive E
  onPool (Pool.teardown E)

end Session

end CodeSense
