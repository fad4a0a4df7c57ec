import CodeSense.Proofs.Server.Loop
import Mathlib.Data.List.Forall2

/-!
# Two runs side by side

Servers that do the same with each of their commands take the same course: `run_paired`. The second
one may be given each command in other words.
-/

namespace CodeSense

def Turn.map (f : List String → List String) : Turn → Turn
  | .skipped => .skipped
  | .completed words => .completed (f words)
  | .ended words ending => .ended (words.map f) ending

namespace Server

variable {σ : Type} {E : Engine σ} {f : List String → List String} {R : Server σ → Server σ → Prop}
  {s t : Server σ}

structure Pairing (R : Server σ → Server σ → Prop) : Prop where
  log : ∀ (origin : Origin) (level : Level) (message message' : String) {s t}, R s t →
    R (log origin level message s).2 (log origin level message' t).2
  take : ∀ (a b : Source) (words words' : List String) {s t}, R s t →
    R (take a words s) (take b words' t)
  frame : ∀ {s t}, R s t → R (frame s).2 (frame t).2

/-- The second source gives the command of the first in other words, with which related servers do
the same. -/
structure Matches (E : Engine σ) (f : List String → List String) (R : Server σ → Server σ → Prop)
    (a b : Source) : Prop where
  blank : b.isBlank = a.isBlank
  split : b.split = a.split.map f
  execute : ∀ words, a.split = .ok words → ∀ {s t}, R s t →
    (execute E words s).1 = (execute E (f words) t).1 ∧
      R (execute E words s).2 (execute E (f words) t).2

structure Run.Paired (f : List String → List String) (R : Server σ → Server σ → Prop)
    (r r' : Run σ) : Prop where
  completed : List.Forall₂ (fun a b => b.1 = f a.1 ∧ R a.2 b.2) r.completed r'.completed
  stopped : r'.stopped = r.stopped.map f
  ending : r'.ending = r.ending
  final : R r.final r'.final

section
variable (hR : Pairing R)
include hR

theorem runCommand_paired {words : List String}
    (h : (execute E words s).1 = (execute E (f words) t).1 ∧
      R (execute E words s).2 (execute E (f words) t).2) :
    (runCommand E (f words) t).1 = (runCommand E words s).1.map f ∧
      R (runCommand E words s).2 (runCommand E (f words) t).2 := by
  obtain ⟨hresult, hst⟩ := h
  unfold runCommand
  generalize execute E words s = x at hresult hst
  generalize execute E (f words) t = y at hresult hst
  obtain ⟨result, s'⟩ := x
  obtain ⟨result', t'⟩ := y
  obtain rfl : result = result' := hresult
  cases result with
  | ok _ => exact ⟨rfl, hR.frame hst⟩
  | error e =>
    cases e with
    | refused r => exact ⟨rfl, hR.log _ _ _ _ hst⟩
    | malformed e => exact ⟨rfl, hR.log _ _ _ _ hst⟩
    | _ => exact ⟨rfl, hst⟩

theorem turn_paired {a b : Source} (hab : Matches E f R a b) (h : R s t) :
    (turn E b t).1 = (turn E a s).1.map f ∧ R (turn E a s).2 (turn E b t).2 := by
  rw [turn_eq, turn_eq, hab.blank, hab.split]
  split
  · exact ⟨rfl, h⟩
  · cases hsplit : a.split with
    | error e => exact ⟨rfl, hR.log _ _ _ _ h⟩
    | ok words => exact runCommand_paired hR (hab.execute words hsplit (hR.take a b _ _ h))

/-- **Pairs.** Related servers stay related along matching sources. -/
theorem run_paired {sources sources' : List Source}
    (hsources : List.Forall₂ (Matches E f R) sources sources') (h : R s t) :
    Run.Paired f R (run E sources s) (run E sources' t) := by
  induction hsources generalizing s t with
  | nil => exact ⟨.nil, rfl, rfl, h⟩
  | @cons a b rest rest' hab _ ih =>
    obtain ⟨hturned, hst⟩ := turn_paired hR hab h
    unfold run
    generalize turn E a s = x at hturned hst
    generalize turn E b t = y at hturned hst
    obtain ⟨outcome, s'⟩ := x
    obtain ⟨outcome', t'⟩ := y
    obtain rfl : outcome' = outcome.map f := hturned
    cases outcome with
    | skipped => exact ih hst
    | completed words =>
      have hmore := ih hst
      exact { hmore with completed := .cons ⟨rfl, hst⟩ hmore.completed }
    | ended stopped ending => exact ⟨.nil, rfl, rfl, hst⟩

end

end Server

end CodeSense
