import CodeSense.Command.Integer
import CodeSense.Command.Table
import CodeSense.Command.Words
import CodeSense.Server.Scratch
import CodeSense.Session.Operation

/-!
# Executing commands
-/

namespace CodeSense.Server

variable {σ : Type}

def refuse (r : Refusal) : Act (Server σ) α := .fail (.refused r)

def ofRefusable (x : Except Refusal α) : Act (Server σ) α := .ofExcept (x.mapError .refused)

def perform (E : Engine σ) (op : Operation) : Act (Server σ) Unit :=
  onSession (Session.perform E op)

def logFlags (what file : String) (flags : List String) : Act (Server σ) Unit :=
  log .commands .debug (what ++ ": file: " ++ file ++ ", flags: " ++
    String.intercalate " " (flags.map fun f => "`" ++ f ++ "`"))

def integer (what value : String) : Act (Server σ) Nat := ofRefusable (Integer.parseNat what value)

def style (name : String) : Act (Server σ) MatchStyle :=
  match MatchStyle.parse? name with
  | some style => return style
  | none => refuse (.unknownStyle name)

def setDebug (value : String) : Act (Server σ) Unit :=
  if Text.lower value = "on" then onSession (Session.setVerbose true)
  else if Text.lower value = "off" then onSession (Session.setVerbose false)
  else refuse (.badSwitch value)

/-- Does what a command asks for. Its arguments are read from left to right. -/
def obey (E : Engine σ) (flags : List String) : Verb → List String → Act (Server σ) Unit
  | .help, [] => onSession (Session.emit usage)
  | .exit, [] => .fail .exit
  | .parse, [file] => do
    let file ← resolve file
    logFlags "parse" file flags
    perform E (.parse file flags)
  | .complete, [file, line, column] => do
    let file ← resolve file
    let line ← integer "Line" line
    let column ← integer "Column" column
    logFlags "complete" file flags
    perform E (.complete file line column flags)
  | .candidates, [] => perform E (.candidates "" .exact)
  | .candidates, [typed] => perform E (.candidates typed .exact)
  | .candidates, [typed, name] => do
    let style ← style name
    perform E (.candidates typed style)
  | .completionDiagnostics, [] => perform E .completionDiagnostics
  | .diagnostics, [] => perform E .diagnostics
  | .getType, [line, column] => do
    let line ← integer "Line" line
    let column ← integer "Column" column
    perform E (.getType line column)
  | .setUnsaved, [file, source] => do
    let file ← resolve file
    perform E (.setUnsaved file source)
  | .resetUnsaved, [file] => do
    let file ← resolve file
    perform E (.resetUnsaved file)
  | .getCompileOptions, [buildDir, file] => do
    let file ← resolve file
    perform E (.getCompileOptions buildDir file)
  | .setDebug, [value] => setDebug value
  | verb, args => refuse (.wrongArity verb.name args.length)

def execute (E : Engine σ) : List String → Act (Server σ) Unit
  | [] => refuse .emptyCommand
  | verb :: rest =>
    match Verb.ofName? verb with
    | none => refuse (.unknownVerb verb)
    | some v => do
      ofRefusable (v.checkArity (Words.splitFlags rest).1)
      obey E (Words.splitFlags rest).2 v (Words.splitFlags rest).1

end CodeSense.Server
