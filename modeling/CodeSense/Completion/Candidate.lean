import CodeSense.Completion.Chunk
import CodeSense.Response

/-!
# Candidates

A completion flattened for the editor:

    add(int x, int y)        prototype
    ^^^                      typed text, the annotation starts at 3
       (int x, int y)        post-completion text
        [1,6) [8,13)         placeholder spans

Optional chunks are dropped, not expanded.
-/

namespace CodeSense

structure Candidate where
  typedText : String
  priority : Int
  resultType : String := ""
  briefComment : String := ""
  prototype : String := ""
  annotationStart : Int := 0
  postCompletionText : String := ""
  placeholderSpans : List Int := []
  availability : Availability := .available
  deriving DecidableEq, Repr

namespace Candidate

open Response

def text (c : Candidate) : String :=
  parens [
    quote c.typedText, number c.priority, quote c.resultType, quote c.briefComment,
    quote c.prototype, number c.annotationStart,
    parens (quote c.postCompletionText :: c.placeholderSpans.map number),
    c.availability.name]

def numbers (c : Candidate) : List Int := c.priority :: c.annotationStart :: c.placeholderSpans

def render? (c : Candidate) : Option String := written? (c.numbers.map .number) c.text

end Candidate

/-! ## Decoding -/

structure Draft where
  typedText : Option String := none
  resultType : String := ""
  prototype : String := ""
  annotationStart : Nat := 0
  post : String := ""
  spans : List Nat := []
  deriving DecidableEq, Repr

namespace Draft

/-- The chunk's part in result type and prototype. -/
def display (d : Draft) (c : Chunk) : Draft :=
  if c.kind = .resultType then { d with resultType := c.text }
  else { d with prototype := d.prototype ++ c.shown }

/-- The chunk's part in what follows the typed text. -/
def append (d : Draft) (c : Chunk) : Draft :=
  let post := d.post ++ c.inserted
  if c.kind.isPlaceholder then
    { d with post, spans := d.spans ++ [d.post.length, post.length] }
  else { d with post }

def add (d : Draft) (c : Chunk) : Draft :=
  let d := d.display c
  match d.typedText with
  | some _ => d.append c
  | none =>
    if c.kind = .typedText then
      { d with typedText := some c.text, annotationStart := d.prototype.length }
    else d

end Draft

/-- A completion that is not available, or has no typed text, is no candidate. -/
def Completion.decode (r : Completion) : Option Candidate :=
  if r.availability = .notAvailable then none
  else
    let d := r.chunks.foldl Draft.add {}
    d.typedText.map fun typedText => {
      typedText
      priority := r.priority
      resultType := d.resultType
      briefComment := r.brief.getD ""
      prototype := d.prototype
      annotationStart := d.annotationStart
      postCompletionText := d.post
      placeholderSpans := d.spans.map Int.ofNat
      availability := r.availability }

/-- Best, that is numerically lowest, priority first. Equal priorities keep the engine's order. -/
def sortByPriority (priority : α → Int) (rs : List α) : List α :=
  rs.mergeSort fun a b => priority a ≤ priority b

end CodeSense
