import CodeSense.Session.Buffers
import CodeSense.Session.Completing

/-!
# The operations of a session
-/

namespace CodeSense

inductive Operation where
  | setUnsaved (file source : String)
  | resetUnsaved (file : String)
  | parse (file : String) (flags : List String)
  | complete (file : String) (line column : Int) (flags : List String)
  | candidates (typed : String) (style : MatchStyle)
  | getType (line column : Int)
  | getCompileOptions (buildDir file : String)
  | diagnostics
  | completionDiagnostics
  | resetActive
  deriving DecidableEq, Repr

def Session.perform {σ : Type} (E : Engine σ) : Operation → Act (Session σ) Unit
  | .setUnsaved file source => setUnsaved file source
  | .resetUnsaved file => resetUnsaved E file
  | .parse file flags => parse E file flags
  | .complete file line column flags => complete E file line column flags
  | .candidates typed style => candidates typed style
  | .getType line column => getType E line column
  | .getCompileOptions buildDir file => getCompileOptions E buildDir file
  | .diagnostics => diagnostics E
  | .completionDiagnostics => completionDiagnostics E
  | .resetActive => resetActive E

end CodeSense
