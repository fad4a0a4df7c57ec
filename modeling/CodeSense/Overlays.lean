import CodeSense.Engine
import CodeSense.Keyed

/-!
# Unsaved buffers

The contents of unsaved files, and the list of them that the engine is given. The list
changes only when it is rebuilt.
-/

namespace CodeSense

structure Overlays where
  contents : Keyed String String := []
  pairs : List Overlay := []
  deriving DecidableEq, Repr

namespace Overlays

def has (o : Overlays) (file : String) : Bool := o.contents.has file

def size (o : Overlays) : Nat := o.contents.length

def set (o : Overlays) (file content : String) : Overlays :=
  { o with contents := o.contents.put file content }

def remove (o : Overlays) (file : String) : Overlays :=
  { o with contents := o.contents.erase file }

def rebuild (o : Overlays) : Overlays :=
  { o with pairs := o.contents.map fun p => ⟨p.1, p.2⟩ }

end Overlays

end CodeSense
