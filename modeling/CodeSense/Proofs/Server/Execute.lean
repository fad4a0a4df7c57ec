import CodeSense.Proofs.Server.Reading
import CodeSense.Proofs.Session.Conduct

/-!
# What a command comes to

A command is refused, is an exit, or comes to one operation of the session. Whatever comes
before touches nothing but the log, the files and the scratch file: `execute_executed`.
-/

namespace CodeSense

/-- The names that an operation's errors speak of. -/
def Operation.names : Operation → List String
  | .setUnsaved file source => [file, source]
  | .parse file _ | .complete file _ _ _ => [file]
  | _ => []

namespace Task

variable {path : String} {words : List String}

theorem eq_nil_of_empty (h : ofWords path words = .error .emptyCommand) : words = [] := by
  cases words with
  | nil => rfl
  | cons verb rest =>
    by_cases hverb : ∃ v : Verb, v.name = verb
    · obtain ⟨v, rfl⟩ := hverb
      rw [ofWords_name] at h
      rcases error_of_bind h with hcount | ⟨_, hcount, hr⟩
      · cases (Verb.arity_of_checkArity hcount).2
      · cases ofArguments_error (fits_of_checkArity hcount) hr
    · rw [ofWords_unknown fun v hv => hverb ⟨v, hv⟩] at h
      cases h

theorem head_of_leave (h : ofWords path words = .ok .leave) :
    words.head? = some Verb.exit.name := by
  obtain ⟨v, rest, rfl, hfits, htask⟩ := ofWords_ok h
  generalize (Words.splitFlags rest).1 = args at hfits htask
  cases hfits <;> simp [ofArguments, bind_eq_ok_iff] at htask ⊢

theorem fileNamed_mem {name : String} (h : name ∈ words) :
    fileNamed path name ∈ words ∨ fileNamed path name = path := by
  unfold fileNamed
  split
  · exact .inr rfl
  · exact .inl h

theorem names_of_operation {op : Operation} (h : ofWords path words = .ok (.operation op)) :
    ∀ name ∈ op.names, name ∈ words ∨ name = path := by
  obtain ⟨v, rest, rfl, hfits, htask⟩ := ofWords_ok h
  have hargs : ∀ arg ∈ (Words.splitFlags rest).1, arg ∈ v.name :: rest := fun arg harg =>
    List.mem_cons_of_mem _ (List.takeWhile_subset _ harg)
  generalize (Words.splitFlags rest).1 = args at hfits htask hargs
  intro name hname
  cases op with
  | parse file flags =>
    cases hfits <;> simp only [ofArguments, bind_eq_ok_iff, Except.ok.injEq, operation.injEq,
      Operation.parse.injEq, reduceCtorEq, and_false, exists_false] at htask
    obtain ⟨rfl, -⟩ := htask
    rw [List.mem_singleton.mp hname]
    exact fileNamed_mem (hargs _ (by simp))
  | complete file line column flags =>
    cases hfits <;> simp only [ofArguments, bind_eq_ok_iff, Except.ok.injEq, operation.injEq,
      Operation.complete.injEq, reduceCtorEq, and_false, exists_false] at htask
    obtain ⟨_, -, _, -, rfl, -⟩ := htask
    rw [List.mem_singleton.mp hname]
    exact fileNamed_mem (hargs _ (by simp))
  | setUnsaved file source =>
    cases hfits <;> simp only [ofArguments, bind_eq_ok_iff, Except.ok.injEq, operation.injEq,
      Operation.setUnsaved.injEq, reduceCtorEq, and_false, exists_false] at htask
    obtain ⟨rfl, rfl⟩ := htask
    rcases List.mem_cons.mp hname with rfl | hname
    · exact fileNamed_mem (hargs _ (by simp))
    · rw [List.mem_singleton.mp hname]
      exact .inl (hargs _ (by simp))
  | _ => cases hname

end Task

namespace Server

variable {σ : Type}

abbrev calls (s : Server (Traced σ)) : List Call := s.session.calls

abbrev out (s : Server (Traced σ)) : String := s.session.out

structure Prepared (s s' : Server (Traced σ)) : Prop where
  calls : s'.calls = s.calls
  out : s'.out = s.out
  completion : s'.session.activeCompletion = s.session.activeCompletion
  path : s'.scratch.path = s.scratch.path
  blocked : s'.scratch.blocked = s.scratch.blocked

theorem Prepared.refl (s : Server (Traced σ)) : Prepared s s := ⟨rfl, rfl, rfl, rfl, rfl⟩

theorem Prepared.trans {s t u : Server (Traced σ)} (h : Prepared s t) (h' : Prepared t u) :
    Prepared s u :=
  ⟨h'.calls.trans h.calls, h'.out.trans h.out, h'.completion.trans h.completion,
    h'.path.trans h.path, h'.blocked.trans h.blocked⟩

theorem log_prepared (origin : Origin) (level : Level) (message : String) (s : Server (Traced σ)) :
    Prepared s (log origin level message s).2 :=
  ⟨rfl, rfl, rfl, rfl, rfl⟩

inductive Executed (E : Engine σ) (words : List String) (s : Server (Traced σ)) :
    Except Fault Unit × Server (Traced σ) → Prop
  | refused {s' : Server (Traced σ)} (r : Refusal) (hs : Prepared s s')
    (hr : r = .emptyCommand → words = []) : Executed E words s (.error (.refused r), s')
  | exit {s' : Server (Traced σ)} (hs : Prepared s s') (hwords : words.head? = some Verb.exit.name) :
    Executed E words s (.error .exit, s')
  | blocked {s' : Server (Traced σ)} {e : Fault} (hs : Prepared s s')
    (he : s.scratch.blocked = some e) : Executed E words s (.error e, s')
  | performed {t : Server (Traced σ)} (op : Operation) (ht : Prepared s t)
    (hnames : ∀ name ∈ op.names, name ∈ words ∨ name = s.scratch.path) :
    Executed E words s (perform E.traced op t)
  | helped {t : Server (Traced σ)} (ht : Prepared s t) :
    Executed E words s (onSession (Session.emit usage) t)
  | adjusted {s' : Server (Traced σ)} (hs : Prepared s s') : Executed E words s (.ok (), s')

variable {E : Engine σ} {words : List String} {s : Server (Traced σ)}

theorem Untouched.prepared {s s' : Server (Traced σ)} (h : Untouched s s') : Prepared s s' :=
  ⟨congrArg Traced.calls h.engine, h.out, h.completion, h.scratch.path, h.scratch.blocked⟩

/-- **Commands.** Every command ends in one of these ways. -/
theorem execute_executed (E : Engine σ) (words : List String) (s : Server (Traced σ)) :
    Executed E words s (execute E.traced words s) := by
  have hfollows := execute_follows E.traced words s
  generalize execute E.traced words s = result at hfollows ⊢
  cases hfollows with
  | @refused s' r hs hreading =>
    refine .refused r hs.prepared fun hempty => ?_
    rw [hempty] at hreading
    exact Task.eq_nil_of_empty hreading
  | @carried t task ht hreading =>
    cases task with
    | usage => exact .helped ht.prepared
    | leave => exact .exit ht.prepared (Task.head_of_leave hreading)
    | operation op => exact .performed op ht.prepared (Task.names_of_operation hreading)
    | verbosity on => exact .adjusted (ht.prepared.trans ⟨rfl, rfl, rfl, rfl, rfl⟩)
  | barred hs _ hblocked => exact .blocked hs.prepared hblocked

/-! ## Conduct -/

structure Conducted (D : Standard) (s : Server (Traced σ)) (e : Option Fault)
    (s' : Server (Traced σ)) : Prop where
  path : s'.scratch.path = s.scratch.path
  blocked : s'.scratch.blocked = s.scratch.blocked
  calls : s.calls <+: s'.calls
  wrote : ∃ text, s'.out = s.out ++ text ∧
    ((∀ x ∈ s'.calls, D.Answer x) → D.Active s.session.activeCompletion →
      D.text text ∧ D.Active s'.session.activeCompletion ∧ ∀ f, e = some f → D.fault f)

variable {D : Standard}

theorem perform_conducted (op : Operation) (herrors : ∀ t ∈ op.errors, D.text t)
    (s : Server (Traced σ)) :
    Conducted D s (Act.fault? (perform E.traced op s).1) (perform E.traced op s).2 := by
  let M : Manner := { D with request := fun _ => True, steady := op.keepsBuffers = true }
  have hconduct := Session.perform_conduct (E := E) (M := M) s.session op Iff.rfl
    (fun _ _ => trivial) herrors
  obtain ⟨new, hcalls, -⟩ := hconduct.calls
  obtain ⟨text, hout, hgood⟩ := hconduct.wrote
  exact ⟨rfl, rfl, ⟨new, hcalls.symm⟩, text, hout, hgood⟩

theorem Prepared.conducted {s' : Server (Traced σ)} (h : Prepared s s') : Conducted D s none s' := by
  refine ⟨h.path, h.blocked, h.calls ▸ List.prefix_rfl, "", by simp [h.out], fun _ hactive => ?_⟩
  rw [h.completion]
  exact ⟨D.empty, hactive, by simp⟩

theorem Conducted.trans {t s' : Server (Traced σ)} {e : Option Fault} (h : Conducted D s none t)
    (h' : Conducted D t e s') : Conducted D s e s' := by
  obtain ⟨text, hout, hgood⟩ := h.wrote
  obtain ⟨text', hout', hgood'⟩ := h'.wrote
  refine ⟨h'.path.trans h.path, h'.blocked.trans h.blocked, h.calls.trans h'.calls, text ++ text', ?_,
    fun hcalls hactive => ?_⟩
  · rw [hout', hout, String.append_assoc]
  · obtain ⟨htext, hactive', -⟩ := hgood (fun x hx => hcalls x (h'.calls.subset hx)) hactive
    obtain ⟨htext', hactive'', hfault⟩ := hgood' hcalls hactive'
    exact ⟨D.append htext htext', hactive'', hfault⟩

theorem Conducted.caught {s' : Server (Traced σ)} {e : Option Fault} (h : Conducted D s e s') :
    Conducted D s none s' := by
  obtain ⟨text, hout, hgood⟩ := h.wrote
  refine ⟨h.path, h.blocked, h.calls, text, hout, fun hcalls hactive => ?_⟩
  obtain ⟨htext, hactive', -⟩ := hgood hcalls hactive
  exact ⟨htext, hactive', by simp⟩

def Admits (D : Standard) (path : String) (words : List String) : Prop :=
  ∀ op : Operation, (∀ name ∈ op.names, name ∈ words ∨ name = path) → ∀ t ∈ op.errors, D.text t

theorem execute_conducted (husage : D.text usage) (hwords : Admits D s.scratch.path words) :
    Conducted D s none (execute E.traced words s).2 := by
  have hexecuted := execute_executed E words s
  generalize execute E.traced words s = result at hexecuted ⊢
  cases hexecuted with
  | refused r hs hr => exact hs.conducted
  | exit hs _ => exact hs.conducted
  | blocked hs he => exact hs.conducted
  | @performed t op ht hnames =>
    exact ht.conducted.trans (perform_conducted op (hwords op hnames) t).caught
  | @helped t ht =>
    refine ht.conducted.trans ⟨rfl, rfl, List.prefix_rfl, usage, rfl, fun _ hactive => ?_⟩
    exact ⟨husage, hactive, by simp⟩
  | adjusted hs => exact hs.conducted

end Server

end CodeSense
