import CodeSense.Native.Library

/-!
# The native engine

An engine over the native library. Units and result sets are kept in tables, under handles
that are numbered together and never used again.
-/

namespace CodeSense.Native

structure State where
  library : Library
  isOpen : Bool := true
  nextId : Handle := 1
  units : Keyed Handle Nat := []
  sets : Keyed Handle ResultSet := []

/-- Starts the engine. A path to the library counts only while none is loaded. -/
def start (library : Library) (path : Option String) : State :=
  let library :=
    match path with
    | some path =>
      if path ≠ "" ∧ ¬library.loaded then library.record (.setLibraryFile path) else library
    | none => library
  { library := library.record .createIndex }

/-! ## Decoding -/

def availabilityOf (l : Label) : Availability :=
  if l.key = "deprecated" then .deprecated
  else if l.key = "notavailable" then .notAvailable
  else if l.key = "notaccessible" then .notAccessible
  else .available

def chunkKindOf (l : Label) : Except Fault ChunkKind :=
  match ChunkKind.all.find? fun k => l.key = ({ shown := k.name } : Label).key with
  | some kind => .ok kind
  | none => .error (.unknownChunkKind l.key)

def chunkOf (c : Label × Option String) : Except Fault Chunk := do
  return { kind := ← chunkKindOf c.1, text := c.2.getD "" }

def Result.entry (r : Result) : ResultEntry :=
  let completion : Completion :=
    { priority := r.priority, availability := availabilityOf r.availability,
      brief := some (r.brief.getD "") }
  match r.chunks.mapM chunkOf with
  | .ok chunks => { completion := { completion with chunks } }
  | .error e => { completion, unreadable := some e }

/-- A report without a file has no place, and one of unknown severity is ignored. -/
def Report.diagnostic (r : Report) : Diagnostic :=
  let severity := (Severity.ofCode r.severity).toOption.getD .ignored
  match r.file with
  | none => { file := "", line := 0, column := 0, offset := 0, severity, message := r.message }
  | some file =>
    { file, line := r.line, column := r.column, offset := r.offset, severity, message := r.message }

/-! ## Calls -/

def withHandle (table : Keyed Handle α) (h : Handle) (s : State)
    (f : α → Reply β × State) : Reply β × State :=
  match table.get? h with
  | some a => f a
  | none => (.fault (.unknownHandle h), s)

def call : (r : Request) → State → Reply r.Answer × State
  | .parse file flags overlays options, s =>
    if ¬s.isOpen then (.fault .engineClosed, s)
    else
      match s.library.parse file (flags.map terminated) (overlays.map .ofOverlay) options with
      | ((code, none), library) =>
        (.answer (if code = ErrorCode.success then ErrorCode.failure else code, none),
          { s with library })
      | ((code, some unit), library) =>
        (.answer (code, some s.nextId),
          { s with library, nextId := s.nextId + 1, units := s.units.put s.nextId unit })
  | .reparse h overlays, s => withHandle s.units h s fun unit =>
    let (code, library) := s.library.reparse unit (overlays.map .ofOverlay) reparseOptions
    (.answer code, { s with library })
  | .disposeUnit h, s => (.answer (), { s with units := s.units.erase h })
  | .codeComplete h file line column overlays, s => withHandle s.units h s fun unit =>
    match s.library.complete unit file line column overlays {} with
    | (none, library) => (.answer none, { s with library })
    | (some set, library) =>
      (.answer (some s.nextId),
        { s with library, nextId := s.nextId + 1, sets := s.sets.put s.nextId set })
  | .completionResults h, s => withHandle s.sets h s fun set =>
    (.answer (set.results.map Result.entry), s)
  | .completionDiagnostics h, s => withHandle s.sets h s fun set =>
    (.answer { items := set.reports.map Report.diagnostic }, s)
  | .disposeCompletion h, s => (.answer (), { s with sets := s.sets.erase h })
  | .diagnostics h, s =>
    -- The unit is looked up only when the first item is read.
    (.answer (match s.units.get? h with
      | some _ => { items := s.library.reports.map Report.diagnostic }
      | none => { items := [], broken := some (.unknownHandle h) }), s)
  | .typeAt h file line column, s => withHandle s.units h s fun unit =>
    let (type, library) := s.library.typeAt unit file line column
    (.answer type, { s with library })
  | .compileCommands buildDir file, s =>
    match s.library.loadDatabase buildDir with
    | (none, library) =>
      ({ result := .ok none
         notes := [⟨.debug, .engine, "No compilation database in " ++ buildDir ++
           ": CompilationDatabase loading failed"⟩] }, { s with library })
    | (some database, library) =>
      (.answer (some ((database.get? file).getD [])), { s with library })
  | .version, s =>
    let (text, library) := s.library.version
    (.answer text, { s with library })
  | .close, s => (.answer (), { s with isOpen := false, units := [], sets := [] })
  | .pause delay, s => (.answer (), { s with library := s.library.record (.pause delay) })

def engine : Engine State where
  call := call

end CodeSense.Native
