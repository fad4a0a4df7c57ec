import CodeSense.Session.Basic
import CodeSense.Text.Utf8

/-!
# Unsaved buffers of a session
-/

namespace CodeSense.Session

variable {σ : Type}

/-- The text of a file: invalid bytes are replaced, and lines end in LF. -/
def textOf (bytes : List UInt8) : String :=
  String.ofList (Text.unifyNewlines (Text.Utf8.decode bytes))

def modifyOverlays (f : Overlays → Overlays) : Act (Session σ) Unit :=
  .modify fun s => { s with overlays := f s.overlays }

/-- Takes over what was read from `source`. A source that cannot be opened leaves the file
without unsaved content. -/
def takeSource (file source : String) : Except Fault (List UInt8) → Act (Session σ) Unit
  | .ok bytes => do
    modifyOverlays (·.set file (textOf bytes))
    writeSuccess
  | .error (.cannotOpen e path) => do
    log .debug ("set-unsaved: cannot read " ++ source ++ ": " ++ e.message path)
    modifyOverlays (·.remove file)
    writeError (Response.fileReadError file source)
  | .error e => .fail e

def setUnsaved (file source : String) : Act (Session σ) Unit := do
  let files ← .gets (·.files)
  takeSource file source (files.read source)
  modifyOverlays (·.rebuild)

def resetUnsaved (E : Engine σ) (file : String) : Act (Session σ) Unit := do
  resetActive E
  let overlays ← .gets (·.overlays)
  .when (overlays.has file) (modifyOverlays fun o => (o.remove file).rebuild)
  writeSuccess

end CodeSense.Session
