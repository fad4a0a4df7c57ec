import CodeSense.Engine
import CodeSense.Keyed

/-!
# Scripted engines

An engine that gives prepared answers. Its handles are numbers, given out in increasing
order to units and result sets alike, and it answers for disposed handles too.
-/

namespace CodeSense

/-- A fault that a call is to meet, after `skip` calls, and then `times` times. -/
structure Trap where
  fault : Fault
  skip : Int := 0
  times : Int := 1

/-- What a call makes of a trap, and whether the trap springs. -/
def Trap.visit (t : Trap) : Trap × Option Fault :=
  if t.times ≤ 0 then (t, none)
  else if t.skip > 0 then ({ t with skip := t.skip - 1 }, none)
  else ({ t with times := t.times - 1 }, some t.fault)

structure ScriptedSet where
  completions : List Completion := []
  diagnostics : List Diagnostic := []

structure Script where
  nextId : Handle := 1
  /-- Error codes of parses, and whether there is a unit. -/
  parses : List (Int × Bool) := []
  reparses : List Int := []
  completions : List (Option ScriptedSet) := []
  /-- Diagnostics of a unit, by the file it was parsed for. -/
  diagnostics : Keyed String (List Diagnostic) := []
  /-- Spelling and canonical spelling of the type at a line and column. -/
  types : Keyed (Int × Int) (String × String) := []
  compileCommands : Keyed String (List CompileCommand) := []
  version : String := ""
  traps : Keyed CallKind Trap := []
  units : Keyed Handle String := []
  sets : Keyed Handle ScriptedSet := []

namespace Script

def next (queue : List α) (default : α) : α × List α := (queue.headD default, queue.tail)

def answer : (r : Request) → Script → r.Answer × Script
  | .parse file .., s =>
    let ((code, hasUnit), parses) := next s.parses (ErrorCode.success, true)
    if hasUnit then
      ((code, some s.nextId),
        { s with parses, nextId := s.nextId + 1, units := s.units.put s.nextId file })
    else ((code, none), { s with parses })
  | .reparse .., s =>
    let (code, reparses) := next s.reparses ErrorCode.success
    (code, { s with reparses })
  | .codeComplete .., s =>
    match next s.completions (some {}) with
    | (none, completions) => (none, { s with completions })
    | (some set, completions) =>
      (some s.nextId,
        { s with completions, nextId := s.nextId + 1, sets := s.sets.put s.nextId set })
  | .completionResults id, s =>
    (((s.sets.get? id).getD {}).completions.map ({ completion := · }), s)
  | .completionDiagnostics id, s => ({ items := ((s.sets.get? id).getD {}).diagnostics }, s)
  | .diagnostics unit, s =>
    ({ items := ((s.units.get? unit).bind s.diagnostics.get?).getD [] }, s)
  | .typeAt _ _ line column, s => (s.types.get? (line, column), s)
  | .compileCommands buildDir _, s => (s.compileCommands.get? buildDir, s)
  | .version, s => (s.version, s)
  | .disposeUnit _, s | .disposeCompletion _, s | .close, s | .pause _, s => ((), s)

def call (r : Request) (s : Script) : Reply r.Answer × Script :=
  let (a, s) := answer r s
  match s.traps.get? r.kind with
  | none => (.answer a, s)
  | some trap =>
    let (trap, fault) := trap.visit
    let s := { s with traps := s.traps.put r.kind trap }
    match fault with
    | none => (.answer a, s)
    | some e => ({ result := .error e, withheld := some a }, s)

def engine : Engine Script where
  call := call

end Script

end CodeSense
