import CodeSense.Fault
import CodeSense.Keyed

/-!
# Files

A tree of files and directories, as far as the server can see it. A path is looked up
component by component, so that the first thing wrong with it is what is reported.
-/

namespace CodeSense

inductive Node where
  | file (bytes : List UInt8)
  | directory
  deriving DecidableEq, Repr

/-- Nodes stand under their components from the root. -/
structure FileSystem where
  workDir : List String := []
  nodes : Keyed (List String) Node := []
  /-- The characters that names cannot hold. -/
  foreign : List Char := []
  deriving Repr

namespace FileSystem

/-- The longest name of a node, in bytes. -/
def maxName : Nat := 255

/-- A path this long, in bytes, is refused. -/
def pathLimit : Nat := 4096

/-- A place above the working directory or above a node is a directory. -/
def node? (fs : FileSystem) (place : List String) : Option Node :=
  match fs.nodes.get? place with
  | some node => some node
  | none =>
    if place.isPrefixOf fs.workDir || fs.nodes.any (place.isPrefixOf ·.1) then some .directory
    else none

def walk (fs : FileSystem) (place : List String) : List String → Except FileError (List String)
  | [] => .ok place
  | c :: rest =>
    match fs.node? place with
    | none => .error .missing
    | some (.file _) => .error .notDirectory
    | some .directory =>
      if c = "" ∨ c = "." then fs.walk place rest
      else if c = ".." then fs.walk place.dropLast rest
      else if c.utf8ByteSize > maxName then .error .nameTooLong
      else fs.walk (place ++ [c]) rest

def follow (fs : FileSystem) (path : String) (components : List String) :
    Except FileError (List String) :=
  if path = "" then .error .missing
  else if path.utf8ByteSize ≥ pathLimit then .error .nameTooLong
  else fs.walk (if path.startsWith "/" then [] else fs.workDir) components

def split (path : String) : List String := (path.toList.splitOn '/').map String.ofList

def locate (fs : FileSystem) (path : String) : Except FileError (List String) :=
  fs.follow path (split path)

/-- The place of a file to be written. A path that ends with a slash names a directory, also
where there is none. -/
def target (fs : FileSystem) (path : String) : Except FileError (List String) :=
  if path.endsWith "/" then do
    let above := ((split path).reverse.dropWhile (· = "")).tail.reverse
    let _ ← fs.follow path (above ++ ["."])
    .error .isDirectory
  else fs.locate path

/-- The first character of a path that cannot be in it, and where it stands. -/
def misfit? (fs : FileSystem) (path : String) : Option (Char × Nat) :=
  path.toList.zipIdx.find? (fs.foreign.contains ·.1)

/-- What keeps a text from being a path at all. -/
def pathFault? (fs : FileSystem) (path : String) : Option Fault :=
  match fs.misfit? path with
  | some (c, position) => some (.unencodable c position)
  | none => if path.toList.contains '\x00' then some .nullInPath else none

def opening (fs : FileSystem) (path : String) (x : Except FileError α) : Except Fault α :=
  match fs.pathFault? path with
  | some e => .error e
  | none => x.mapError (.cannotOpen · path)

def read (fs : FileSystem) (path : String) : Except Fault (List UInt8) :=
  fs.opening path do
    match fs.node? (← fs.locate path) with
    | none => .error .missing
    | some .directory => .error .isDirectory
    | some (.file bytes) => .ok bytes

def openAppend (fs : FileSystem) (path : String) : Except Fault FileSystem :=
  fs.opening path do
    let place ← fs.target path
    match fs.node? place with
    | none => .ok { fs with nodes := fs.nodes.put place (.file []) }
    | some .directory => .error .isDirectory
    | some (.file _) => .ok fs

def append (fs : FileSystem) (path : String) (bytes : List UInt8) : FileSystem :=
  match fs.locate path with
  | .error _ => fs
  | .ok place =>
    match fs.node? place with
    | some (.file old) => { fs with nodes := fs.nodes.put place (.file (old ++ bytes)) }
    | _ => fs

def write (fs : FileSystem) (path : String) (bytes : List UInt8) : Except Fault FileSystem :=
  fs.opening path do
    let place ← fs.target path
    match fs.node? place with
    | some .directory => .error .isDirectory
    | _ => .ok { fs with nodes := fs.nodes.put place (.file bytes) }

def remove (fs : FileSystem) (path : String) : Except Fault FileSystem :=
  fs.opening path do
    let place ← fs.locate path
    match fs.node? place with
    | none => .error .missing
    | some .directory => .error .isDirectory
    | some (.file _) => .ok { fs with nodes := fs.nodes.erase place }

/-! ## Spelling -/

/-- Drops empty and `.` components, and lets `..` take away the component before it. -/
def simplify (components : List String) : List String :=
  components.foldl
    (fun done c => if c = "" ∨ c = "." then done else if c = ".." then done.dropLast else done ++ [c])
    []

/-- Adds a node at a path from the working directory, with the directories above it. -/
def plant (fs : FileSystem) (path : String) (node : Node) : FileSystem :=
  let steps := simplify (split path)
  let above := (List.range steps.length).map fun n => (fs.workDir ++ steps.take n, Node.directory)
  let added := above ++ [(fs.workDir ++ steps, node)]
  { fs with nodes := added.foldl (fun nodes p => nodes.put p.1 p.2) fs.nodes }

def components (fs : FileSystem) (path : String) : List String :=
  (if path.startsWith "/" then [] else fs.workDir) ++ split path

/-- The path from the root, by its spelling alone. Exactly two leading slashes are kept. -/
def absolute (fs : FileSystem) (path : String) : String :=
  (if path.startsWith "//" && !path.startsWith "///" then "//" else "/") ++
    String.intercalate "/" (simplify (fs.components path))

end FileSystem

end CodeSense
