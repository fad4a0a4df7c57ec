import CodeSense.Text.Decimal
import CodeSense.Text.Quoted

/-!
# Faults

Everything that can keep an operation from finishing, and its wording.
-/

namespace CodeSense

inductive LineError where
  | unclosedQuote
  | danglingEscape
  deriving DecidableEq, Repr

def LineError.message : LineError → String
  | unclosedQuote => "invalid command line string: No closing quotation"
  | danglingEscape => "invalid command line string: No escaped character"

inductive Refusal where
  | emptyCommand
  | unknownVerb (verb : String)
  | wrongArity (verb : String) (count : Nat)
  | notInteger (what value : String)
  | negative (what value : String)
  | unknownStyle (value : String)
  | badSwitch (value : String)
  /-- The engine asked for the command to be refused. -/
  | reported (message : String)
  deriving DecidableEq, Repr

def Refusal.message : Refusal → String
  | emptyCommand => "Empty command"
  | unknownVerb verb => "Invalid command '" ++ verb ++ "'"
  | wrongArity verb count => "Invalid argument number for " ++ verb ++ ": " ++ toString count
  | notInteger what value => what ++ " isn't an integer: " ++ Text.quoted value
  | negative what value => what ++ " must not be negative: " ++ Text.quoted value
  | unknownStyle value => "unknown match style: " ++ value
  | badSwitch value => "set-debug expects on or off, got " ++ Text.quoted value
  | reported message => message

inductive FileError where
  | missing
  | notDirectory
  | isDirectory
  | nameTooLong
  deriving DecidableEq, Repr

def FileError.number : FileError → Nat
  | missing => 2
  | notDirectory => 20
  | isDirectory => 21
  | nameTooLong => 36

def FileError.description : FileError → String
  | missing => "No such file or directory"
  | notDirectory => "Not a directory"
  | isDirectory => "Is a directory"
  | nameTooLong => "File name too long"

def FileError.message (e : FileError) (path : String) : String :=
  "[Errno " ++ toString e.number ++ "] " ++ e.description ++ ": " ++ Text.quoted path

structure ParseFailure where
  file : String
  code : Int
  reason : String := "parse"
  deriving DecidableEq, Repr

def ParseFailure.message (p : ParseFailure) : String :=
  p.reason ++ " failed for " ++ p.file ++ " (error " ++ toString p.code ++ ")"

inductive FailureKind where
  | runtime
  | value
  | system
  | assertion
  deriving DecidableEq, Repr

inductive Fault where
  | malformed (e : LineError)
  | refused (r : Refusal)
  /-- The `exit` command. -/
  | exit
  | parseFailed (p : ParseFailure)
  /-- A failure that could not be put into words, for the length of a number. -/
  | unreported (p : ParseFailure)
  /-- A unit was given back more often than it was handed out. -/
  | overReleased (file : String) (count : Int)
  | alreadyCached (file : String)
  /-- The engine holds nothing under this handle. -/
  | unknownHandle (handle : Int)
  | unknownChunkKind (name : String)
  | unknownSeverity (code : Int)
  /-- The engine was used after it was closed. -/
  | engineClosed
  | nullInPath
  /-- A character that names of files cannot hold, and where it stands in one. -/
  | unencodable (c : Char) (position : Nat)
  /-- An integer too long to be written in decimal. -/
  | tooManyDigits
  | cannotOpen (e : FileError) (path : String)
  | engine (kind : FailureKind) (message : String)
  /-- The user interrupted the server. -/
  | interrupted (message : String)
  deriving DecidableEq, Repr

namespace Fault

def message : Fault → String
  | malformed e => e.message
  | refused r => r.message
  | exit => ""
  | parseFailed p => p.message
  | overReleased file count => "tu for file " ++ file ++ ", ref " ++ toString count
  | alreadyCached file => "translation unit for " ++ file ++ " already cached"
  | unknownHandle handle => toString handle
  | unknownChunkKind name => Text.quoted name
  | unknownSeverity code => toString code ++ " is not a valid Severity"
  | engineClosed => "the engine is closed"
  | nullInPath => "embedded null byte"
  | unencodable c position =>
    "'utf-8' codec can't encode character " ++ Text.quoted (toString c) ++ " in position " ++
      toString position ++ ": surrogates not allowed"
  | unreported _ | tooManyDigits =>
    "Exceeds the limit (4300 digits) for integer string conversion; " ++
      "use sys.set_int_max_str_digits() to increase the limit"
  | cannotOpen e path => e.message path
  | engine _ message => message
  | interrupted message => message

/-- What a failure to parse stops with: its message holds the code. -/
def ofFailure (p : ParseFailure) : Fault :=
  if Text.isWritable p.code then parseFailed p else unreported p

def isRefusal : Fault → Bool
  | malformed _ | refused _ => true
  | _ => false

end Fault

end CodeSense
