import CodeSense.Completion.Matching
import CodeSense.Session.Analysis
import CodeSense.Text.Decimal

/-!
# Code completion
-/

namespace CodeSense.Session

variable {σ : Type}

def isWritable (line column : Int) : Bool :=
  Text.isWritable line && Text.isWritable column

/-- Answers that there are no results at a place. A place that cannot be written is a fault. -/
def refuseCompletion (file : String) (line column : Int) : Act (Session σ) Unit :=
  if isWritable line column then writeError (Response.completeError file line column)
  else .fail .tooManyDigits

def logCompletion (file : String) (line column : Int) (count : Nat) : Act (Session σ) Unit :=
  onPool <| Pool.logNumbers .session .debug [line, column] ("Complete " ++ file ++ ":" ++
    toString line ++ ":" ++ toString column ++ ", " ++ toString count ++ " results") .tooManyDigits

/-- The engine's results at a place. The reference to the unit is held only for this call. -/
def completeUnit (E : Engine σ) (u : UnitRef) (file : String) (line column : Int)
    (overlays : List Overlay) : Act (Session σ) (Option Handle) := do
  match ← onPool (Pool.get? u) with
  | none => return none
  | some record =>
    .andFinally (call E (.codeComplete record.handle file line column overlays))
      (onPool (Pool.release E u))

def requestCompletion (E : Engine σ) (file : String) (line column : Int) (flags : List String) :
    Act (Session σ) (Option Handle) := do
  let s ← .get
  match ← .attempt (onPool (Pool.obtain E s.settings file flags s.overlays.pairs)) with
  | .ok u => completeUnit E u file line column s.overlays.pairs
  | .error (.parseFailed p) => do
    log .debug p.message
    return none
  | .error e => .fail e

def complete (E : Engine σ) (file : String) (line column : Int) (flags : List String) :
    Act (Session σ) Unit := do
  resetActive E
  match ← requestCompletion E file line column flags with
  | none => refuseCompletion file line column
  | some handle => do
    let entries ← call E (.completionResults handle)
    .modify ({ · with activeCompletion := some (.ofResults handle entries) })
    logCompletion file line column entries.length
    writeSuccess

/-- The matching candidates, up to the first entry that has to be read and cannot be. -/
def listCandidates (typed : String) (style : MatchStyle) : List ResultEntry → Listing Candidate
  | [] => { items := [] }
  | entry :: rest =>
    match entry.unreadable with
    | some e =>
      if entry.completion.availability = .notAvailable then listCandidates typed style rest
      else { items := [], broken := some e }
    | none =>
      let more := listCandidates typed style rest
      { more with items := CodeSense.candidates [entry.completion] typed style ++ more.items }

def candidateLine? (c : Candidate) : Option String := c.render?.map ("  " ++ · ++ "\n")

def candidates (typed : String) (style : MatchStyle) : Act (Session σ) Unit := do
  match ← .gets (·.activeCompletion) with
  | none => write (Response.nil ++ "\n")
  | some set => do
    write "(\n"
    writeListing ((listCandidates typed style set.entries).spell candidateLine?)
    write ")"

def completionDiagnostics (E : Engine σ) : Act (Session σ) Unit := do
  match ← .gets (·.activeCompletion) with
  | none => writeDiagnostics { items := [] }
  | some set => do
    let listing ← call E (.completionDiagnostics set.handle)
    writeDiagnostics listing

end CodeSense.Session
