import CodeSense.Completion.Chunk
import CodeSense.Diagnostic
import CodeSense.Journal

/-!
# The analysis engine

All that the server asks of the engine goes through one kind of call: a request, and a
reply of the type that belongs to it. Handles are opaque; who gets one must give it back
exactly once.
-/

namespace CodeSense

structure Overlay where
  file : String
  content : String
  deriving DecidableEq, Repr

abbrev Handle := Int

structure CompileCommand where
  arguments : List String
  directory : String
  deriving DecidableEq, Repr

/-- A completion in a result set. Its chunks may turn out to be unreadable. -/
structure ResultEntry where
  completion : Completion
  unreadable : Option Fault := none

namespace ErrorCode

def success : Int := 0
def failure : Int := 1
def crashed : Int := 2

end ErrorCode

namespace UnitOption

def detailedPreprocessing : Nat := 0x01
def precompiledPreamble : Nat := 0x04
def cacheCompletions : Nat := 0x08
def keepGoing : Nat := 0x200

def standard : Int :=
  (precompiledPreamble ||| cacheCompletions ||| detailedPreprocessing ||| keepGoing : Nat)

end UnitOption

inductive Request where
  | parse (file : String) (flags : List String) (overlays : List Overlay) (options : Int)
  | reparse (unit : Handle) (overlays : List Overlay)
  | disposeUnit (unit : Handle)
  | codeComplete (unit : Handle) (file : String) (line column : Int) (overlays : List Overlay)
  | completionResults (set : Handle)
  | completionDiagnostics (set : Handle)
  | disposeCompletion (set : Handle)
  | diagnostics (unit : Handle)
  | typeAt (unit : Handle) (file : String) (line column : Int)
  | compileCommands (buildDir file : String)
  | version
  | close
  /-- A wait between two attempts, in milliseconds. -/
  | pause (delay : Int)
  deriving DecidableEq, Repr

inductive CallKind where
  | parse | reparse | disposeUnit | codeComplete | completionResults | completionDiagnostics
  | disposeCompletion | diagnostics | typeAt | compileCommands | version | close | pause
  deriving DecidableEq, Repr

def Request.kind : Request → CallKind
  | parse .. => .parse
  | reparse .. => .reparse
  | disposeUnit _ => .disposeUnit
  | codeComplete .. => .codeComplete
  | completionResults _ => .completionResults
  | completionDiagnostics _ => .completionDiagnostics
  | disposeCompletion _ => .disposeCompletion
  | diagnostics _ => .diagnostics
  | typeAt .. => .typeAt
  | compileCommands .. => .compileCommands
  | version => .version
  | close => .close
  | pause _ => .pause

@[reducible] def Request.Answer : Request → Type
  | parse .. => Int × Option Handle
  | reparse .. => Int
  | codeComplete .. => Option Handle
  | completionResults _ => List ResultEntry
  | completionDiagnostics _ => Listing Diagnostic
  | diagnostics _ => Listing Diagnostic
  | typeAt .. => Option (String × String)
  | compileCommands .. => Option (List CompileCommand)
  | version => String
  | disposeUnit _ | disposeCompletion _ | close | pause _ => Unit

structure Reply (α : Type) where
  result : Except Fault α
  /-- The answer that a fault kept from the caller. -/
  withheld : Option α := none
  /-- What the engine has to say for the log. -/
  notes : List Entry := []

def Reply.answer (a : α) : Reply α := { result := .ok a }

def Reply.fault (e : Fault) : Reply α := { result := .error e }

def Reply.answer? (r : Reply α) : Option α :=
  match r.result with
  | .ok a => some a
  | .error _ => r.withheld

structure Engine (σ : Type) where
  call : (r : Request) → σ → Reply r.Answer × σ

/-! ## Traces -/

structure Call where
  request : Request
  reply : Reply request.Answer

structure Traced (σ : Type) where
  state : σ
  calls : List Call := []

def Engine.traced (E : Engine σ) : Engine (Traced σ) where
  call r t :=
    let (reply, state) := E.call r t.state
    (reply, { state, calls := t.calls ++ [⟨r, reply⟩] })

end CodeSense
