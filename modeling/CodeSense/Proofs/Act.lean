import CodeSense.Act

/-!
# How actions end

`x.Ends s ok err` says how `x` ends when it starts in `s`: with an answer and a state in
`ok`, or with a fault and a state in `err`. `Act.Agree R x y` compares the runs of two actions
from states that `R` relates. Every way to build an action has a rule that reduces the statement
to its parts.
-/

namespace CodeSense.Act

variable {S T α β : Type}

def Ends (x : Act S α) (s : S) (ok : α → S → Prop) (err : Fault → S → Prop) : Prop :=
  match x s with
  | (.ok a, s') => ok a s'
  | (.error e, s') => err e s'

variable {x : Act S α} {s : S} {ok ok' : α → S → Prop} {err err' : Fault → S → Prop}

theorem run_eq {o : Except Fault α} (h : (x s).1 = o) : x s = (o, (x s).2) := Prod.ext h rfl

theorem Ends.mono (h : x.Ends s ok err) (hok : ∀ a s', ok a s' → ok' a s')
    (herr : ∀ e s', err e s' → err' e s') : x.Ends s ok' err' := by
  unfold Ends at *
  split
  · rename_i a s' hx; rw [hx] at h; exact hok a s' h
  · rename_i e s' hx; rw [hx] at h; exact herr e s' h

theorem Ends.and (h : x.Ends s ok err) (h' : x.Ends s ok' err') :
    x.Ends s (fun a s' => ok a s' ∧ ok' a s') (fun e s' => err e s' ∧ err' e s') := by
  unfold Ends at *
  split
  · rename_i hx; rw [hx] at h h'; exact ⟨h, h'⟩
  · rename_i hx; rw [hx] at h h'; exact ⟨h, h'⟩

/-- What holds however the action ends holds of the state it leaves. -/
theorem Ends.state {P : S → Prop} (h : x.Ends s (fun _ => P) (fun _ => P)) : P (x s).2 := by
  unfold Ends at h
  split at h
  · rename_i hx; rw [hx]; exact h
  · rename_i hx; rw [hx]; exact h

theorem Ends.of_ok {a : α} (h : x.Ends s ok err) (hx : (x s).1 = .ok a) : ok a (x s).2 := by
  unfold Ends at h
  split at h
  · rename_i hs; rw [hs] at hx ⊢; cases hx; exact h
  · rename_i hs; rw [hs] at hx; cases hx

theorem Ends.of_error {e : Fault} (h : x.Ends s ok err) (hx : (x s).1 = .error e) :
    err e (x s).2 := by
  unfold Ends at h
  split at h
  · rename_i hs; rw [hs] at hx; cases hx
  · rename_i hs; rw [hs] at hx ⊢; cases hx; exact h

theorem Ends.at_ok {a : α} {s' : S} (h : x.Ends s ok err) (hx : x s = (.ok a, s')) : ok a s' := by
  unfold Ends at h
  rw [hx] at h
  exact h

theorem Ends.at_error {e : Fault} {s' : S} (h : x.Ends s ok err) (hx : x s = (.error e, s')) :
    err e s' := by
  unfold Ends at h
  rw [hx] at h
  exact h

/-- What is known however the action ends, as a fact about its result and the state it leaves. -/
theorem Ends.result {R : Except Fault α → S → Prop}
    (h : x.Ends s (fun a => R (.ok a)) (fun e => R (.error e))) : R (x s).1 (x s).2 := by
  unfold Ends at h
  split at h
  · rename_i hx; rw [hx]; exact h
  · rename_i hx; rw [hx]; exact h

theorem Ends.of_eq {y : Act S α} {t : S} (h : y.Ends t ok err) (hxy : x s = y t) :
    x.Ends s ok err := by
  unfold Ends at *
  rw [hxy]
  exact h

theorem ends_eq (x : Act S α) (s : S) :
    x.Ends s (fun a s' => x s = (.ok a, s')) (fun e s' => x s = (.error e, s')) := by
  unfold Ends
  split <;> assumption

/-! ## Rules -/

theorem ends_pure (a : α) : (Pure.pure a : Act S α).Ends s ok err ↔ ok a s := Iff.rfl

theorem ends_gets {f : S → α} : (gets f).Ends s ok err ↔ ok (f s) s := Iff.rfl

theorem ends_get {ok : S → S → Prop} : (get : Act S S).Ends s ok err ↔ ok s s := Iff.rfl

theorem ends_modify {f : S → S} {ok : Unit → S → Prop} :
    (modify f).Ends s ok err ↔ ok () (f s) := Iff.rfl

theorem ends_bind {f : α → Act S β} {ok : β → S → Prop} :
    (x >>= f).Ends s ok err ↔ x.Ends s (fun a s' => (f a).Ends s' ok err) err := by
  unfold Ends
  rw [bind_apply]
  rcases x s with ⟨e | a, s'⟩ <;> rfl

theorem ends_attempt {ok : Except Fault α → S → Prop} :
    (attempt x).Ends s ok err ↔
      x.Ends s (fun a s' => ok (.ok a) s') (fun e s' => ok (.error e) s') := by
  unfold Ends attempt
  rcases x s with ⟨e | a, s'⟩ <;> rfl

theorem ends_andFinally {c : Act S Unit} :
    (andFinally x c).Ends s ok err ↔
      x.Ends s (fun a s' => c.Ends s' (fun _ t => ok a t) err)
        (fun e s' => c.Ends s' (fun _ t => err e t) err) := by
  unfold Ends andFinally
  rcases x s with ⟨e | a, s'⟩
  · dsimp only
    rcases c s' with ⟨e' | _, t⟩ <;> rfl
  · dsimp only
    rcases c s' with ⟨e' | _, t⟩ <;> rfl

theorem ends_when {c : Bool} {x : Act S Unit} {ok : Unit → S → Prop} :
    (when c x).Ends s ok err ↔ if c then x.Ends s ok err else ok () s := by
  cases c <;> rfl

theorem ends_within {part : S → T} {put : T → S → S} {x : Act T α} :
    (within part put x).Ends s ok err ↔
      x.Ends (part s) (fun a t => ok a (put t s)) (fun e t => err e (put t s)) := by
  unfold Ends within
  rcases x (part s) with ⟨e | a, t⟩ <;> rfl

/-! ## What every run changes -/

def Moves (R : S → S → Prop) (x : Act S α) : Prop := ∀ s, R s (x s).2

theorem Moves.ends {R : S → S → Prop} (h : Moves R x) (s : S) :
    x.Ends s (fun _ => R s) (fun _ => R s) := by
  have h := h s
  unfold Ends
  split
  · rename_i hx; rw [hx] at h; exact h
  · rename_i hx; rw [hx] at h; exact h

theorem Moves.run {R : S → S → Prop} {r : Except Fault α} {s' : S} (h : Moves R x)
    (hx : x s = (r, s')) : R s s' := by
  have h := h s
  rwa [hx] at h

theorem Moves.of_ends {R : S → S → Prop} (h : ∀ s, x.Ends s (fun _ => R s) (fun _ => R s)) :
    Moves R x :=
  fun s => (h s).state

structure Frame (R : S → S → Prop) : Prop where
  refl : ∀ s, R s s
  trans : ∀ {s t u}, R s t → R t u → R s u

section
variable {R : S → S → Prop} (hR : Frame R)
include hR

theorem moves_pure (a : α) : Moves R (Pure.pure a : Act S α) := fun s => hR.refl s

theorem moves_fail (e : Fault) : Moves R (fail e : Act S α) := fun s => hR.refl s

theorem moves_gets (f : S → α) : Moves R (gets f) := fun s => hR.refl s

theorem moves_bind {f : α → Act S β} (hx : Moves R x) (hf : ∀ a, Moves R (f a)) :
    Moves R (x >>= f) := by
  intro s
  have h := hx s
  rw [bind_apply]
  generalize x s = y at h
  rcases y with ⟨e | a, s'⟩
  · exact h
  · exact hR.trans h (hf a s')

theorem moves_andFinally {c : Act S Unit} (hx : Moves R x) (hc : Moves R c) :
    Moves R (andFinally x c) := by
  intro s
  have h := hR.trans (hx s) (hc (x s).2)
  unfold andFinally
  generalize x s = y at h ⊢
  rcases y with ⟨r, s'⟩
  dsimp only at h ⊢
  split
  · rename_i hs
    rw [hs] at h
    exact h
  · rename_i hs
    rw [hs] at h
    exact h

end

/-! ## Two runs -/

/-- From related states both actions come to the same result, and leave related states. -/
structure Agree (R : S → S → Prop) (x y : Act S α) : Prop where
  ends : ∀ s t, R s t → (x s).1 = (y t).1 ∧ R (x s).2 (y t).2

namespace Agree

variable {R : S → S → Prop} {y : Act S α}

theorem run {t : S} (hxy : Agree R x y) (h : R s t) :
    ∃ r s' t', x s = (r, s') ∧ y t = (r, t') ∧ R s' t' := by
  obtain ⟨hr, hst⟩ := hxy.ends s t h
  exact ⟨(x s).1, (x s).2, (y t).2, rfl, by rw [hr], hst⟩

theorem pure (a : α) : Agree R (Pure.pure a : Act S α) (Pure.pure a) := ⟨fun _ _ h => ⟨rfl, h⟩⟩

theorem fail (e : Fault) : Agree R (.fail e : Act S α) (.fail e) := ⟨fun _ _ h => ⟨rfl, h⟩⟩

theorem ofExcept (r : Except Fault α) : Agree R (.ofExcept r) (.ofExcept r) :=
  ⟨fun _ _ h => ⟨rfl, h⟩⟩

theorem gets {f g : S → α} (hfg : ∀ s t, R s t → f s = g t) : Agree R (.gets f) (.gets g) :=
  ⟨fun s t h => ⟨congrArg Except.ok (hfg s t h), h⟩⟩

theorem modify {f g : S → S} (hfg : ∀ s t, R s t → R (f s) (g t)) :
    Agree R (.modify f) (.modify g) :=
  ⟨fun s t h => ⟨rfl, hfg s t h⟩⟩

theorem bind {f g : α → Act S β} (hxy : Agree R x y) (hfg : ∀ a, Agree R (f a) (g a)) :
    Agree R (x >>= f) (y >>= g) := by
  constructor
  intro s t h
  obtain ⟨r, s', t', hx, hy, h'⟩ := hxy.run h
  rw [bind_apply, bind_apply, hx, hy]
  cases r with
  | error e => exact ⟨rfl, h'⟩
  | ok a => exact (hfg a).ends s' t' h'

/-- The two runs may look at more of their states than they share. -/
theorem get_bind {f g : S → Act S β} (hfg : ∀ s t, R s t → Agree R (f s) (g t)) :
    Agree R (.get >>= f) (.get >>= g) :=
  ⟨fun s t h => (hfg s t h).ends s t h⟩

theorem gets_bind {p q : S → α} {f g : α → Act S β}
    (hfg : ∀ s t, R s t → Agree R (f (p s)) (g (q t))) :
    Agree R (.gets p >>= f) (.gets q >>= g) :=
  ⟨fun s t h => (hfg s t h).ends s t h⟩

theorem attempt (hxy : Agree R x y) : Agree R (.attempt x) (.attempt y) := by
  constructor
  intro s t h
  obtain ⟨hr, hst⟩ := hxy.ends s t h
  exact ⟨congrArg Except.ok hr, hst⟩

theorem andFinally {c d : Act S Unit} (hxy : Agree R x y) (hcd : Agree R c d) :
    Agree R (.andFinally x c) (.andFinally y d) := by
  constructor
  intro s t h
  obtain ⟨r, s', t', hx, hy, h'⟩ := hxy.run h
  obtain ⟨r', s'', t'', hc, hd, h''⟩ := hcd.run h'
  simp only [Act.andFinally, hx, hy, hc, hd]
  cases r' with
  | error e => exact ⟨rfl, h''⟩
  | ok _ => exact ⟨rfl, h''⟩

theorem onSome {o : Option α} {f g : α → Act S Unit} (hfg : ∀ a, Agree R (f a) (g a)) :
    Agree R (.onSome o f) (.onSome o g) := by
  cases o with
  | none => exact pure _
  | some a => exact hfg a

theorem ite {c : Prop} [Decidable c] {x' y' : Act S α} (hxy : Agree R x y) (hxy' : Agree R x' y') :
    Agree R (if c then x else x') (if c then y else y') := by
  split
  · exact hxy
  · exact hxy'

theorem when {c : Bool} {x y : Act S Unit} (hxy : Agree R x y) :
    Agree R (.when c x) (.when c y) :=
  ite hxy (pure _)

theorem within {Q : T → T → Prop} {part : S → T} {put : T → S → S} {x y : Act T α}
    (hpart : ∀ s t, R s t → Q (part s) (part t))
    (hput : ∀ s t p q, R s t → Q p q → R (put p s) (put q t)) (hxy : Agree Q x y) :
    Agree R (.within part put x) (.within part put y) := by
  constructor
  intro s t h
  obtain ⟨hr, hst⟩ := hxy.ends _ _ (hpart s t h)
  exact ⟨hr, hput s t _ _ h hst⟩

end Agree

end CodeSense.Act
