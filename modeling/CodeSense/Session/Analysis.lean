import CodeSense.Session.Basic

/-!
# Parsing, diagnostics, types and compile options
-/

namespace CodeSense.Session

variable {σ : Type}

def parse (E : Engine σ) (file : String) (flags : List String) : Act (Session σ) Unit := do
  resetActive E
  let s ← .get
  match ← .attempt (onPool (Pool.parse E s.settings file flags s.overlays.pairs)) with
  | .ok u => do
    .modify ({ · with activeParse := some u })
    log .debug ("Parse " ++ file ++ " done")
    writeSuccess
  | .error (.parseFailed p) => do
    log .debug p.message
    writeError (Response.parseError file)
  | .error e => .fail e

def diagnosticLine? (d : Diagnostic) : Option String := d.render?.map (· ++ "\n")

def writeDiagnostics (listing : Listing Diagnostic) : Act (Session σ) Unit := do
  write "(\n"
  writeListing (listing.spell diagnosticLine?)
  write ")\n"

def diagnostics (E : Engine σ) : Act (Session σ) Unit := do
  match ← .gets activeUnit? with
  | none => do
    log .info "No active tu"
    writeDiagnostics { items := [] }
  | some record => do
    let listing ← call E (.diagnostics record.handle)
    writeDiagnostics listing

/-- The spellings of a type that are worth showing. -/
def spellings (spelling canonical : String) : List String :=
  if spelling = "" then []
  else if canonical = "" ∨ canonical = spelling then [spelling]
  else [spelling, canonical]

def renderType : Option (String × String) → String
  | none => Response.nil
  | some (spelling, canonical) => Response.list ((spellings spelling canonical).map .text)

def getType (E : Engine σ) (line column : Int) : Act (Session σ) Unit := do
  match ← .gets activeUnit? with
  | none => do
    log .warning "get-type: parse wasn't called"
    write Response.nil
  | some record => do
    let type ← call E (.typeAt record.handle record.file line column)
    write (renderType type)

def renderCommand (c : CompileCommand) : List String :=
  [String.intercalate " " (c.arguments.map Response.quote) ++ "\n",
    Response.quote c.directory ++ "\n"]

def renderCommands : Option (List CompileCommand) → List String
  | none => [Response.nil]
  | some commands => commands.flatMap renderCommand

def getCompileOptions (E : Engine σ) (buildDir file : String) : Act (Session σ) Unit := do
  let commands ← call E (.compileCommands buildDir file)
  writeAll (renderCommands commands)

end CodeSense.Session
