import CodeSense.Engine

/-!
# No engine

Stands in for the analysis engine where there is none: nothing can be parsed.
-/

namespace CodeSense.Engine

def absent : Engine Unit where
  call r s := (.answer (answer r), s)
where
  answer : (r : Request) → r.Answer
    | .parse .. => (ErrorCode.failure, none)
    | .reparse .. => ErrorCode.failure
    | .codeComplete .. => none
    | .completionResults _ => []
    | .completionDiagnostics _ | .diagnostics _ => { items := [] }
    | .typeAt .. => none
    | .compileCommands .. => none
    | .version => "no analysis engine"
    | .disposeUnit _ | .disposeCompletion _ | .close | .pause _ => ()

end CodeSense.Engine
