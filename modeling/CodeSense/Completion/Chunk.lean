/-!
# Completion chunks

An engine describes a completion as a list of typed pieces of text.
-/

namespace CodeSense

inductive ChunkKind where
  | optional | typedText | text | placeholder | informative | currentParameter
  | leftParen | rightParen | leftBracket | rightBracket | leftBrace | rightBrace
  | leftAngle | rightAngle | comma | resultType | colon | semiColon | equal
  | horizontalSpace | verticalSpace
  deriving DecidableEq, Repr

namespace ChunkKind

def all : List ChunkKind := [
  optional, typedText, text, placeholder, informative, currentParameter,
  leftParen, rightParen, leftBracket, rightBracket, leftBrace, rightBrace,
  leftAngle, rightAngle, comma, resultType, colon, semiColon, equal,
  horizontalSpace, verticalSpace]

def name : ChunkKind → String
  | optional => "Optional"
  | typedText => "TypedText"
  | text => "Text"
  | placeholder => "Placeholder"
  | informative => "Informative"
  | currentParameter => "CurrentParameter"
  | leftParen => "LeftParen"
  | rightParen => "RightParen"
  | leftBracket => "LeftBracket"
  | rightBracket => "RightBracket"
  | leftBrace => "LeftBrace"
  | rightBrace => "RightBrace"
  | leftAngle => "LeftAngle"
  | rightAngle => "RightAngle"
  | comma => "Comma"
  | resultType => "ResultType"
  | colon => "Colon"
  | semiColon => "SemiColon"
  | equal => "Equal"
  | horizontalSpace => "HorizontalSpace"
  | verticalSpace => "VerticalSpace"

/-- The text a punctuation chunk stands for, whatever text it carries. -/
def literal? : ChunkKind → Option String
  | leftParen => some "("
  | rightParen => some ")"
  | leftBracket => some "["
  | rightBracket => some "]"
  | leftBrace => some "\x7b"
  | rightBrace => some "\x7d"
  | leftAngle => some "<"
  | rightAngle => some ">"
  | comma => some ", "
  | colon => some ":"
  | semiColon => some ";"
  | equal => some "="
  | horizontalSpace => some " "
  | verticalSpace => some "\n"
  | _ => none

def isPlaceholder : ChunkKind → Bool
  | placeholder | currentParameter => true
  | _ => false

end ChunkKind

structure Chunk where
  kind : ChunkKind
  text : String := ""
  deriving DecidableEq, Repr

/-- What a chunk adds to the prototype shown to the user. -/
def Chunk.shown (c : Chunk) : String :=
  match c.kind with
  | .typedText | .text | .placeholder | .informative | .currentParameter => c.text
  | kind => kind.literal?.getD ""

/-- What a chunk after the typed text adds to the text inserted on completion. -/
def Chunk.inserted (c : Chunk) : String :=
  match c.kind with
  | .typedText | .text | .placeholder | .currentParameter => c.text
  | kind => kind.literal?.getD ""

inductive Availability where
  | available | deprecated | notAvailable | notAccessible
  deriving DecidableEq, Repr

namespace Availability

def all : List Availability := [available, deprecated, notAvailable, notAccessible]

def name : Availability → String
  | available => "available"
  | deprecated => "deprecated"
  | notAvailable => "not-available"
  | notAccessible => "not-accessible"

end Availability

structure Completion where
  priority : Int
  availability : Availability := .available
  brief : Option String := some ""
  chunks : List Chunk := []
  deriving DecidableEq, Repr

end CodeSense
