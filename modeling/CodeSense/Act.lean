import CodeSense.Fault

/-!
# Actions

An action on a state answers or stops with a fault, and leaves a state either way: what
was done before a fault stays done.
-/

namespace CodeSense

def Act (S α : Type) : Type := S → Except Fault α × S

namespace Act

variable {S T α β : Type}

def pure (a : α) : Act S α := fun s => (.ok a, s)

def bind (x : Act S α) (f : α → Act S β) : Act S β := fun s =>
  match x s with
  | (.ok a, s) => f a s
  | (.error e, s) => (.error e, s)

instance : Monad (Act S) where
  pure := pure
  bind := bind

def fail (e : Fault) : Act S α := fun s => (.error e, s)

def get : Act S S := fun s => (.ok s, s)

def gets (f : S → α) : Act S α := fun s => (.ok (f s), s)

def modify (f : S → S) : Act S Unit := fun s => (.ok (), f s)

def ofExcept (x : Except Fault α) : Act S α := fun s => (x, s)

def attempt (x : Act S α) : Act S (Except Fault α) := fun s =>
  let (r, s) := x s
  (.ok r, s)

/-- Runs `cleanup` whether or not `x` stops. A fault of `cleanup` hides one of `x`. -/
def andFinally (x : Act S α) (cleanup : Act S Unit) : Act S α := fun s =>
  match x s with
  | (r, s) =>
    match cleanup s with
    | (.ok (), s) => (r, s)
    | (.error e, s) => (.error e, s)

def onSome (o : Option α) (f : α → Act S Unit) : Act S Unit :=
  match o with
  | some a => f a
  | none => pure ()

def when (c : Bool) (x : Act S Unit) : Act S Unit := if c then x else pure ()

def within (part : S → T) (put : T → S → S) (x : Act T α) : Act S α := fun s =>
  let (r, t) := x (part s)
  (r, put t s)

@[simp] theorem pure_apply (a : α) (s : S) : (Pure.pure a : Act S α) s = (.ok a, s) := rfl

theorem bind_apply (x : Act S α) (f : α → Act S β) (s : S) :
    (x >>= f) s = match x s with
      | (.ok a, s) => f a s
      | (.error e, s) => (.error e, s) := rfl

end Act

end CodeSense
