import CodeSense.Proofs.Pool.Growth

/-!
# What a pool does not depend on

Pools that differ in their logs only give the same results, and make the same calls: `Built.oblivious`
for whatever a pool does. Nor do the results depend on settings beyond those that say how to parse,
or on differences in the engine's state that the engine does not show.
-/

namespace CodeSense

structure Engine.Respects {σ : Type} (E : Engine σ) (R : σ → σ → Prop) : Prop where
  result : ∀ (r : Request) {a b}, R a b → (E.call r a).1.result = (E.call r b).1.result
  state : ∀ (r : Request) {a b}, R a b → R (E.call r a).2 (E.call r b).2

theorem Engine.respects_eq {σ : Type} (E : Engine σ) : E.Respects Eq where
  result r _ _ h := by rw [h]
  state r _ _ h := by rw [h]

structure Settings.Alike (a b : Settings) : Prop where
  attempts : a.parseAttempts = b.parseAttempts
  delay : a.retryDelay = b.retryDelay
  arguments : ∀ flags, a.compilerArguments flags = b.compilerArguments flags

namespace Journal

/-- The logs refuse the same entries, debug entries apart if `loose`. -/
def Alike (loose : Prop) (a b : Journal) : Prop :=
  ∀ level, (loose → level ≠ .debug) → a.refuses level = b.refuses level

theorem refuses_setVerbose (j : Journal) (on : Bool) {level : Level} (h : level ≠ .debug) :
    (j.setVerbose on).refuses level = j.refuses level := by
  simp [refuses, keeps, setVerbose, h]

namespace Alike

variable {loose : Prop} {a a' b b' : Journal}

theorem of_refuses (h : a.Alike loose b) (ha : a'.refuses = a.refuses)
    (hb : b'.refuses = b.refuses) : a'.Alike loose b' := by
  intro level hlevel
  rw [ha, hb]
  exact h level hlevel

theorem setVerbose (h : a.Alike loose b) (on : Bool) :
    (a.setVerbose on).Alike loose (b.setVerbose on) := by
  intro level _
  have hstrict := h .info (fun _ => nofun)
  simp only [refuses, keeps, ne_eq, reduceCtorEq, not_false_eq_true, decide_true, Bool.true_or,
    Bool.and_true] at hstrict
  simp [refuses, keeps, Journal.setVerbose, hstrict]

end Alike

end Journal

namespace Pool

variable {σ : Type} {R : σ → σ → Prop} {loose : Prop}

/-- The pools are the same but for their logs, and for the engine's states as far as `R` lets them
differ. -/
structure Alike (R : σ → σ → Prop) (loose : Prop) (p q : Pool σ) : Prop where
  engine : R p.engine q.engine
  cache : p.cache = q.cache
  journal : p.journal.Alike loose q.journal

/-- The action does the same whatever the log holds. -/
abbrev Oblivious (R : σ → σ → Prop) (loose : Prop) (x : Act (Pool σ) α) : Prop :=
  Act.Agree (Alike R loose) x x

theorem log_agree {origin origin' : Origin} {level level' : Level} (message message' : String) :
    Act.Agree (Alike R loose) (log origin level message : Act (Pool σ) Unit)
      (log origin' level' message') :=
  .modify fun _ _ h =>
    { h with journal := h.journal.of_refuses (Journal.refuses_record ..) (Journal.refuses_record ..) }

theorem logNumbers_oblivious (origin : Origin) {level : Level} (numbers : List Int)
    (message : String) (e : Fault)
    (hlevel : loose → level ≠ .debug ∨ numbers.all Text.isWritable = true) :
    Oblivious R loose (logNumbers origin level numbers message e : Act (Pool σ) Unit) := by
  unfold logNumbers
  split
  · exact log_agree ..
  · rename_i hnumbers
    refine .gets_bind fun p q h => ?_
    rw [h.journal level fun hloose => (hlevel hloose).resolve_right hnumbers]
    exact .when (.fail _)

theorem call_oblivious {E : Engine σ} (hE : E.Respects R) (r : Request) :
    Oblivious R loose (call E r) :=
  ⟨fun _ _ h => ⟨hE.result r h.engine, hE.state r h.engine, h.cache,
    h.journal.of_refuses (Journal.refuses_foldl_record ..) (Journal.refuses_foldl_record ..)⟩⟩

theorem Built.oblivious {E : Engine σ} (hE : E.Respects R) {K : Request → Prop} {α : Type}
    {x : Act (Pool σ) α} (h : Built E K x) : Oblivious R loose x := by
  induction h with
  | pure a => exact .pure a
  | gets f => exact .gets fun _ _ h => congrArg f h.cache
  | modifyCache f => exact .modify fun _ _ h => { h with cache := congrArg f h.cache }
  | log origin level message => exact log_agree ..
  | logNumbers origin numbers message he =>
    exact logNumbers_oblivious origin numbers message _ fun _ => .inl nofun
  | fail he => exact .fail _
  | call hr => exact call_oblivious hE _
  | bind hx hf ihx ihf => exact .bind ihx ihf

section
variable {E : Engine σ} (hE : E.Respects R)
include hE

theorem release_oblivious (u : UnitRef) : Oblivious R loose (release E u) :=
  (release_built (K := fun _ => True) (fun _ => trivial) u).oblivious hE

theorem teardown_oblivious : Oblivious R loose (teardown E) :=
  (teardown_built (K := fun _ => True) (fun _ => trivial) trivial).oblivious hE

end

/-! ## Settings -/

section
variable (E : Engine σ) {a b : Settings} (hab : a.Alike b) (file : String) (flags : List String)
  (overlays : List Overlay)
include hab

theorem attemptParse_congr (left k : Nat) :
    attemptParse E a file flags overlays left k = attemptParse E b file flags overlays left k := by
  induction left generalizing k with
  | zero => rfl
  | succ left ih =>
    unfold attemptParse
    rw [hab.attempts, hab.delay]
    simp only [ih]

theorem parse_congr : parse E a file flags overlays = parse E b file flags overlays := by
  simp only [parse, findOrParse, parseWithRetry, attemptParse_congr E hab, hab.attempts,
    hab.arguments]

theorem obtain_congr : obtain E a file flags overlays = obtain E b file flags overlays := by
  simp only [obtain, parse_congr E hab, hab.arguments]

theorem parse_agree (hE : E.Respects R) :
    Act.Agree (Alike R loose) (parse E a file flags overlays) (parse E b file flags overlays) := by
  rw [parse_congr E hab]
  exact (parse_built (K := fun _ => True) (fun _ => trivial) (fun _ => trivial) trivial
    trivial).oblivious hE

theorem obtain_agree (hE : E.Respects R) :
    Act.Agree (Alike R loose) (obtain E a file flags overlays) (obtain E b file flags overlays) := by
  rw [obtain_congr E hab]
  exact (obtain_built (K := fun _ => True) (fun _ => trivial) (fun _ => trivial) trivial
    trivial).oblivious hE

end

end Pool

end CodeSense
