import CodeSense.Session.Basic

/-!
# The server

A session together with the scratch file that its commands may use.
-/

namespace CodeSense

structure Scratch where
  path : String
  isOpen : Bool := false
  /-- Why the file cannot be made, if it cannot. -/
  blocked : Option Fault := none
  deriving DecidableEq, Repr

structure Server (σ : Type) where
  session : Session σ
  scratch : Scratch

namespace Server

variable {σ : Type}

def onSession (x : Act (Session σ) α) : Act (Server σ) α :=
  .within (·.session) (fun session s => { s with session }) x

def log (origin : Origin) (level : Level) (message : String) : Act (Server σ) Unit :=
  onSession (Session.onPool (Pool.log origin level message))

def modifyFiles (f : FileSystem → FileSystem) : Act (Server σ) Unit :=
  onSession (.modify fun s => { s with files := f s.files })

end Server

end CodeSense
