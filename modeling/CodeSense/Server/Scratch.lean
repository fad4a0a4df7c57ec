import CodeSense.Server.Basic

/-!
# The scratch file

It is made on first use and kept until it is closed.
-/

namespace CodeSense.Server

variable {σ : Type}

def setScratchOpen (isOpen : Bool) : Act (Server σ) Unit :=
  .modify fun s => { s with scratch := { s.scratch with isOpen } }

def openScratch (path : String) : Act (Server σ) Unit := do
  modifyFiles fun files => (files.write path []).toOption.getD files
  setScratchOpen true
  log .scratch .debug ("Created scratch file " ++ path)

def ensureScratch (scratch : Scratch) : Act (Server σ) Unit :=
  if scratch.isOpen then pure ()
  else
    match scratch.blocked with
    | some e => .fail e
    | none => openScratch scratch.path

/-- The scratch file's path. The file is made if there is none. -/
def scratchPath : Act (Server σ) String := do
  let scratch ← .gets (·.scratch)
  ensureScratch scratch
  return scratch.path

def resolve (name : String) : Act (Server σ) String :=
  if name = "-" then do
    let path ← scratchPath
    log .scratch .debug ("Convert - to " ++ path)
    return path
  else return name

/-- Removes a file. Somebody else may have done so before. -/
def removeScratch (path : String) : Act (Server σ) Unit := do
  let s ← .get
  match s.session.files.remove path with
  | .ok files => modifyFiles fun _ => files
  | .error e =>
    log .scratch .debug ("scratch: could not remove " ++ path ++ ": " ++ e.message)

def closeScratch : Act (Server σ) Unit := do
  let scratch ← .gets (·.scratch)
  .when scratch.isOpen do
    setScratchOpen false
    removeScratch scratch.path

end CodeSense.Server
