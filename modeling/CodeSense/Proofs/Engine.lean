import CodeSense.Engine.Script

/-!
# Engines over time

What an engine answers to requests one after another. States are `Indistinct` if no requests ever
bring different answers, and an engine is `Steady` if queries do not change its later answers.
-/

namespace CodeSense

def Request.isQuery : Request → Bool
  | diagnostics _ | completionDiagnostics _ | typeAt .. | compileCommands .. => true
  | _ => false

namespace Engine

variable {σ : Type} (E : Engine σ)

def after (requests : List Request) (s : σ) : σ := requests.foldl (fun s r => (E.call r s).2) s

def results : List Request → σ → List ((r : Request) × Except Fault r.Answer)
  | [], _ => []
  | r :: requests, s => ⟨r, (E.call r s).1.result⟩ :: results requests (E.call r s).2

def Answers : σ → List Call → σ → Prop
  | s, [], t => t = s
  | s, c :: calls, t => c.reply = (E.call c.request s).1 ∧ Answers (E.call c.request s).2 calls t

/-- No requests tell the states apart. -/
def Indistinct (a b : σ) : Prop := ∀ requests, E.results requests a = E.results requests b

/-- From the state on, queries do not change what later requests come to. -/
def Steady (s : σ) : Prop :=
  ∀ requests r, r.isQuery = true →
    E.Indistinct (E.call r (E.after requests s)).2 (E.after requests s)

variable {E} {a b c : σ}

theorem Answers.append {calls more : List Call} (h : E.Answers a calls b)
    (h' : E.Answers b more c) : E.Answers a (calls ++ more) c := by
  induction calls generalizing a with
  | nil =>
    cases h
    exact h'
  | cons x calls ih => exact ⟨h.1, ih h.2⟩

theorem Indistinct.trans (h : E.Indistinct a b) (h' : E.Indistinct b c) : E.Indistinct a c :=
  fun requests => (h requests).trans (h' requests)

theorem Indistinct.call (h : E.Indistinct a b) (r : Request) :
    (E.call r a).1.result = (E.call r b).1.result ∧
      E.Indistinct (E.call r a).2 (E.call r b).2 := by
  constructor
  · have hone := h [r]
    simp only [results, List.cons.injEq, Sigma.mk.injEq, heq_eq_eq, true_and, and_true] at hone
    exact hone
  · intro requests
    have hmore := h (r :: requests)
    simp only [results, List.cons.injEq] at hmore
    exact hmore.2

theorem Steady.query {s : σ} (h : E.Steady s) {r : Request} (hr : r.isQuery = true) :
    E.Indistinct (E.call r s).2 s :=
  h [] r hr

theorem Steady.call {s : σ} (h : E.Steady s) (r : Request) : E.Steady (E.call r s).2 :=
  fun requests => h (r :: requests)

/-- An engine that stays where it is when it is queried is steady. -/
theorem steady_of_still {I : σ → Prop} {s : σ} (hs : I s) (hcall : ∀ r s, I s → I (E.call r s).2)
    (hquery : ∀ r s, I s → r.isQuery = true → (E.call r s).2 = s) : E.Steady s := by
  intro requests
  induction requests generalizing s with
  | nil =>
    intro r hr requests
    change E.results requests (E.call r s).2 = E.results requests s
    rw [hquery r s hs hr]
  | cons r requests ih => exact ih (hcall r s hs)

end Engine

namespace Script

theorem call_of_traps {s : Script} (h : s.traps = []) (r : Request) :
    (call r s).2 = (answer r s).2 ∧ (answer r s).2.traps = [] := by
  have htraps : (answer r s).2.traps = [] := by
    rw [← h]
    cases r <;> simp only [answer] <;> split <;> rfl
  simp [call, htraps, Keyed.get?]

/-- A script without traps is steady. -/
theorem steady {s : Script} (h : s.traps = []) : engine.Steady s := by
  refine Engine.steady_of_still (I := (·.traps = [])) h (fun r s hs => ?_) fun r s hs hr => ?_
  · have hcall := call_of_traps hs r
    exact (congrArg traps hcall.1).trans hcall.2
  · refine (call_of_traps hs r).1.trans ?_
    cases r <;> first | rfl | cases hr

end Script

end CodeSense
