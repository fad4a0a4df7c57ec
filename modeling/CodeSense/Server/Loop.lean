import CodeSense.Server.Execute

/-!
# The command loop

Commands are taken one by one. A command that completes is followed by a frame, so that the
editor knows where its response ends; the first one that does not complete ends the loop.
-/

namespace CodeSense

/-- Where a command comes from: a line of text, or words that are already split. -/
inductive Source where
  | line (text : String)
  | words (words : List String)
  deriving DecidableEq, Repr

def Source.ofText (text : String) : List Source := (Words.lines text).map .line

def Source.command : Source → List String
  | .words ws => ws
  | .line text => (Words.split text).toOption.getD []

def Source.reads? (s : Source) : Option String :=
  match s.command with
  | [] => none
  | verb :: rest =>
    match Verb.ofName? verb, (Words.splitFlags rest).1 with
    | some .setUnsaved, [_, source] => some source
    | _, _ => none

inductive Ending where
  | status (code : Nat)
  | fault (e : Fault)
  deriving DecidableEq, Repr

inductive Turn where
  /-- A blank line. -/
  | skipped
  | completed (words : List String)
  /-- The loop ended, while this command was running or before there was one. -/
  | ended (words : Option (List String)) (ending : Ending)
  deriving DecidableEq, Repr

namespace Server

variable {σ : Type}

def frame : Act (Server σ) Unit := onSession (Session.emit Response.endOfResponse)

def runCommand (E : Engine σ) (words : List String) (s : Server σ) : Turn × Server σ :=
  match execute E words s with
  | (.ok (), s) => (.completed words, (frame s).2)
  | (.error .exit, s) => (.ended words (.status 0), s)
  | (.error e, s) =>
    if e.isRefusal then
      (.ended words (.status 1),
        (log .commands .info ("Run [" ++ words.headD "" ++ "]: " ++ e.message) s).2)
    else (.ended words (.fault e), s)

def turn (E : Engine σ) (source : Source) (s : Server σ) : Turn × Server σ :=
  match source with
  | .words words => runCommand E words s
  | .line text =>
    if Words.isBlankLine text then (.skipped, s)
    else
      match Words.split text with
      | .error e =>
        (.ended none (.status 1), (log .commands .info ("Invalid input: " ++ e.message) s).2)
      | .ok words =>
        runCommand E words (log .commands .debug ("Get cmd " ++ Text.quotedList words) s).2

structure Run (σ : Type) where
  /-- The commands that completed, each with the server after it. -/
  completed : List (List String × Server σ)
  /-- The command that ended the loop, if one was running. -/
  stopped : Option (List String)
  final : Server σ
  ending : Ending

def run (E : Engine σ) : List Source → Server σ → Run σ
  | [], s => { completed := [], stopped := none, final := s, ending := .status 0 }
  | source :: rest, s =>
    match turn E source s with
    | (.skipped, s) => run E rest s
    | (.completed words, s) =>
      let more := run E rest s
      { more with completed := (words, s) :: more.completed }
    | (.ended stopped ending, s) => { completed := [], stopped, final := s, ending }

end Server

end CodeSense
