import CodeSense.Engine
import CodeSense.Keyed
import CodeSense.Text.Case.Lower
import CodeSense.Text.Utf8

/-!
# The native library

The library below the engine, as far as the engine can see it: prepared answers, and a
record of the calls made.
-/

namespace CodeSense.Native

/-- A constant of the library. Some versions name their constants, others only print them. -/
structure Label where
  name : Option String := none
  shown : String := ""
  deriving DecidableEq, Repr

/-- All spellings of a constant have one key: underscores and case do not count. -/
def Label.key (l : Label) : String :=
  let spelling := (l.name.filter (· ≠ "")).getD l.shown
  Text.lower (String.ofList (spelling.toList.filter (· ≠ '_')))

structure Result where
  priority : Int
  availability : Label := { shown := "Available" }
  brief : Option String := none
  chunks : List (Label × Option String) := []

/-- A diagnostic may have no file, and any severity. -/
structure Report where
  file : Option String
  line : Int
  column : Int
  offset : Int
  severity : Int
  message : String

structure ResultSet where
  results : List Result := []
  reports : List Report := []

/-- Text as the library reads it: it ends before its first null character. -/
def terminated (s : String) : String := String.ofList (s.toList.takeWhile (· ≠ '\x00'))

/-- An unsaved file in memory: its name, its bytes and their number. -/
structure Unsaved where
  name : String
  contents : List UInt8
  length : Nat
  deriving DecidableEq, Repr

def Unsaved.ofOverlay (o : Overlay) : Unsaved :=
  let contents := Text.Utf8.encode o.content.toList
  { name := terminated o.file, contents, length := contents.length }

structure CompletionOptions where
  macros : Bool := true
  codePatterns : Bool := false
  briefComments : Bool := true
  deriving DecidableEq, Repr

/-- No options are defined for reparsing. -/
def reparseOptions : Int := 0

abbrev Database := Keyed String (List CompileCommand)

inductive Call where
  | setLibraryFile (path : String)
  | createIndex
  | parse (file : String) (arguments : List String) (unsaved : List Unsaved) (options : Int)
      (code : Int) (hasUnit : Bool)
  | reparse (unit : Nat) (unsaved : List Unsaved) (options : Int) (code : Int)
  | complete (unit : Nat) (file : String) (line column : Int) (overlays : List Overlay)
      (options : CompletionOptions) (hasResult : Bool)
  | cursorAt (unit : Nat) (file : String) (line column : Int)
  | loadDatabase (buildDir : String)
  | version
  | pause (delay : Int)
  deriving DecidableEq, Repr

structure Library where
  parses : List (Int × Bool) := []
  reparses : List Int := []
  completions : List (Option ResultSet) := []
  reports : List Report := []
  /-- The type at a place, if there is a cursor. -/
  cursors : Keyed (Int × Int) (Option (String × String)) := []
  databases : Keyed String (Option Database) := []
  versionText : String := ""
  /-- Whether the library was loaded before. -/
  loaded : Bool := false
  unitsMade : Nat := 0
  calls : List Call := []

namespace Library

def record (l : Library) (c : Call) : Library := { l with calls := l.calls ++ [c] }

def parse (l : Library) (file : String) (arguments : List String) (unsaved : List Unsaved)
    (options : Int) : (Int × Option Nat) × Library :=
  let (code, hasUnit) := l.parses.headD (ErrorCode.success, true)
  let l := { l with parses := l.parses.tail }
  let l := l.record (.parse file arguments unsaved options code hasUnit)
  if hasUnit then ((code, some (l.unitsMade + 1)), { l with unitsMade := l.unitsMade + 1 })
  else ((code, none), l)

def reparse (l : Library) (unit : Nat) (unsaved : List Unsaved) (options : Int) : Int × Library :=
  let code := l.reparses.headD ErrorCode.success
  (code, { l with reparses := l.reparses.tail }.record (.reparse unit unsaved options code))

def complete (l : Library) (unit : Nat) (file : String) (line column : Int)
    (overlays : List Overlay) (options : CompletionOptions) : Option ResultSet × Library :=
  let set := l.completions.headD (some {})
  (set, { l with completions := l.completions.tail }.record
    (.complete unit file line column overlays options set.isSome))

def typeAt (l : Library) (unit : Nat) (file : String) (line column : Int) :
    Option (String × String) × Library :=
  ((l.cursors.get? (line, column)).join, l.record (.cursorAt unit file line column))

def loadDatabase (l : Library) (buildDir : String) : Option Database × Library :=
  ((l.databases.get? buildDir).join, l.record (.loadDatabase buildDir))

def version (l : Library) : String × Library := (l.versionText, l.record .version)

end Library

end CodeSense.Native
