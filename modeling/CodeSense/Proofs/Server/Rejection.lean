import CodeSense.Proofs.Server.Loop
import CodeSense.Proofs.Server.Reading

/-!
# Rejected commands

Which commands are rejected is a matter of their words: `Rejected`. One that is rejected leaves
everything as it was, and so does an exit: `rejected_without_effect`.
-/

namespace CodeSense

/-! ## Arguments -/

def Integer.Unread (word : String) : Prop := ¬ ∃ n : Nat, parse? word = some (n : Int)

inductive Unfit : Verb → List String → Prop
  | count {v : Verb} {args : List String}
    (h : args.length < v.arity.1 ∨ v.arity.2 < args.length) : Unfit v args
  | completePlace {file line column : String} (h : Integer.Unread line ∨ Integer.Unread column) :
    Unfit .complete [file, line, column]
  | typePlace {line column : String} (h : Integer.Unread line ∨ Integer.Unread column) :
    Unfit .getType [line, column]
  | style {typed name : String} (h : ∀ style : MatchStyle, style.name ≠ Text.lower name) :
    Unfit .candidates [typed, name]
  | switch {value : String} (hon : Text.lower value ≠ "on") (hoff : Text.lower value ≠ "off") :
    Unfit .setDebug [value]

inductive Rejected : List String → Prop
  | empty : Rejected []
  | verb {verb : String} {rest : List String} (h : ∀ v : Verb, v.name ≠ verb) :
    Rejected (verb :: rest)
  | arguments {v : Verb} {rest : List String} (h : Unfit v (Words.splitFlags rest).1) :
    Rejected (v.name :: rest)

/-! ## Reading -/

theorem Integer.parseNat_error_iff (what word : String) :
    (∃ r, parseNat what word = .error r) ↔ Unread word := by
  unfold parseNat Unread
  cases parse? word with
  | none => simp
  | some n =>
    by_cases h : n < 0
    · simp only [h, if_true, Except.error.injEq, exists_eq', true_iff, not_exists]
      intro m hm
      cases hm
      omega
    · simp only [h, if_false, reduceCtorEq, exists_false, false_iff, not_not]
      exact ⟨n.toNat, by rw [Int.toNat_of_nonneg (by omega)]⟩

namespace Task

theorem place_error_iff {line column : String} {f : Nat → Nat → Task} :
    (∃ r, (do
      let line ← Integer.parseNat "Line" line
      let column ← Integer.parseNat "Column" column
      return f line column : Except Refusal Task) = .error r) ↔
      Integer.Unread line ∨ Integer.Unread column := by
  rw [← Integer.parseNat_error_iff "Line" line, ← Integer.parseNat_error_iff "Column" column]
  cases Integer.parseNat "Line" line with
  | error r => simp [bind, Except.bind]
  | ok n =>
    cases Integer.parseNat "Column" column with
    | error r => simp [bind, Except.bind]
    | ok m => simp [bind, Except.bind, pure, Except.pure]

theorem styleNamed_error_iff {name : String} :
    (∃ r, styleNamed name = .error r) ↔ ∀ style : MatchStyle, style.name ≠ Text.lower name := by
  have hnone : MatchStyle.parse? name = none ↔
      ∀ style : MatchStyle, style.name ≠ Text.lower name := by
    unfold MatchStyle.parse?
    rw [List.find?_eq_none]
    constructor
    · intro h style
      simpa using h style (by cases style <;> simp)
    · intro h style _
      simpa using h style
  rw [← hnone]
  unfold styleNamed
  cases MatchStyle.parse? name <;> simp

theorem switch_error_iff {value : String} :
    (∃ r, switch value = .error r) ↔ Text.lower value ≠ "on" ∧ Text.lower value ≠ "off" := by
  unfold switch
  by_cases hon : Text.lower value = "on"
  · simp [hon]
  · by_cases hoff : Text.lower value = "off" <;> simp [hon, hoff]

variable {path : String} {flags args : List String} {v : Verb} {r : Refusal}

theorem unfit_of_error (hfits : Fits v args) (h : ofArguments path flags v args = .error r) :
    Unfit v args := by
  cases hfits with
  | complete file line column => exact .completePlace (place_error_iff.mp ⟨r, h⟩)
  | getType line column => exact .typePlace (place_error_iff.mp ⟨r, h⟩)
  | candidatesStyled typed name =>
    rcases error_of_bind h with hstyle | ⟨_, -, hread⟩
    · exact .style (styleNamed_error_iff.mp ⟨r, hstyle⟩)
    · cases hread
  | setDebug value =>
    rcases error_of_bind h with hswitch | ⟨_, -, hread⟩
    · obtain ⟨hon, hoff⟩ := switch_error_iff.mp ⟨r, hswitch⟩
      exact .switch hon hoff
    · cases hread
  | _ => cases h

theorem error_of_unfit (hfits : v.checkArity args = .ok ()) (h : Unfit v args) :
    ∃ r, ofArguments path flags v args = .error r := by
  cases h with
  | count h =>
    rw [Verb.checkArity, if_pos h] at hfits
    cases hfits
  | completePlace h => exact place_error_iff.mpr h
  | typePlace h => exact place_error_iff.mpr h
  | style h =>
    obtain ⟨r, hr⟩ := styleNamed_error_iff.mpr h
    exact ⟨r, by simp [ofArguments, hr, bind, Except.bind]⟩
  | switch hon hoff =>
    obtain ⟨r, hr⟩ := switch_error_iff.mpr ⟨hon, hoff⟩
    exact ⟨r, by simp [ofArguments, hr, bind, Except.bind]⟩

theorem ofWords_error_iff {words : List String} :
    (∃ r, ofWords path words = .error r) ↔ Rejected words := by
  constructor
  · rintro ⟨r, hr⟩
    cases words with
    | nil => exact .empty
    | cons verb rest =>
      by_cases hverb : ∃ v : Verb, v.name = verb
      · obtain ⟨v, rfl⟩ := hverb
        rw [ofWords_name] at hr
        refine .arguments ?_
        rcases error_of_bind hr with hcount | ⟨_, hcount, hr⟩
        · exact .count (Verb.arity_of_checkArity hcount).1
        · exact unfit_of_error (fits_of_checkArity hcount) hr
      · exact .verb fun v hv => hverb ⟨v, hv⟩
  · intro h
    cases h with
    | empty => exact ⟨_, rfl⟩
    | verb hverb => exact ⟨_, ofWords_unknown hverb _⟩
    | @arguments v rest h =>
      rw [ofWords_name]
      cases hcount : v.checkArity (Words.splitFlags rest).1 with
      | error r => exact ⟨r, rfl⟩
      | ok _ => exact error_of_unfit hcount h

/-- No command that passes the check of its arity lacks an argument. -/
theorem ofWords_wrongArity {words : List String} {name : String} {count : Nat}
    (h : ofWords path words = .error (.wrongArity name count)) :
    ∃ (v : Verb) (rest : List String), words = v.name :: rest ∧
      count = (Words.splitFlags rest).1.length ∧ (count < v.arity.1 ∨ v.arity.2 < count) := by
  cases words with
  | nil => cases h
  | cons verb rest =>
    by_cases hverb : ∃ v : Verb, v.name = verb
    · obtain ⟨v, rfl⟩ := hverb
      rw [ofWords_name] at h
      rcases error_of_bind h with hcount | ⟨_, hcount, hr⟩
      · obtain ⟨harity, heq⟩ := Verb.arity_of_checkArity hcount
        cases heq
        exact ⟨v, rest, rfl, rfl, harity⟩
      · cases ofArguments_error (fits_of_checkArity hcount) hr
    · rw [ofWords_unknown fun v hv => hverb ⟨v, hv⟩] at h
      cases h

end Task

/-! ## Executing -/

theorem Fault.isSome_status? {e : Fault} (h : e.isRefusal = true ∨ e = .exit) :
    e.status?.isSome = true := by
  cases e <;> simp_all [Fault.isRefusal, Fault.status?]

def Scratch.Usable (s : Scratch) : Prop := s.isOpen = true ∨ s.blocked = none

namespace Server

variable {σ : Type} {E : Engine σ} {s t : Server (Traced σ)}

theorem Undisturbed.untouched {calls : List Call} (h : Undisturbed s calls) (ht : Untouched s t) :
    Undisturbed t calls := by
  refine ⟨h.calls, ?_, ?_⟩
  · rw [ht.completion]
    exact h.entries
  · rw [ht.scratch.blocked]
    exact h.scratch

theorem Undisturbed.perform_breaks {op : Operation} {e : Fault}
    (h : Undisturbed s (perform E.traced op s).2.calls) (he : (perform E.traced op s).1 = .error e) :
    e.status? = none := by
  have hconducted : Conducted breaking s _ _ :=
    perform_conducted (E := E) op (fun _ _ => trivial) s
  rw [he] at hconducted
  obtain ⟨text, -, hgood⟩ := hconducted.wrote
  obtain ⟨-, -, hfault⟩ := hgood (fun x hx => breaking_answer (h.calls x hx)) h.active
  exact hfault e rfl

/-- What returns was refused by its words, or is an exit, and nothing was done. -/
theorem Follows.returns {reading : Except Refusal Task} {e : Fault}
    (h : Follows E.traced s reading (.error e, t)) (hs : Undisturbed s t.calls)
    (he : e.status?.isSome = true) :
    Untouched s t ∧ (e = .exit ∨ ∃ r, e = .refused r ∧ reading = .error r) := by
  generalize hresult : (Except.error e, t) = result at h
  cases h with
  | refused hs hreading =>
    cases hresult
    exact ⟨hs, .inr ⟨_, rfl, hreading⟩⟩
  | @carried t₀ task ht hreading =>
    cases task with
    | usage => cases hresult
    | leave =>
      cases hresult
      exact ⟨ht, .inl rfl⟩
    | verbosity on => cases hresult
    | operation op =>
      have hperform : perform E.traced op t₀ = (.error e, t) := hresult.symm
      have hundisturbed : Undisturbed t₀ (perform E.traced op t₀).2.calls := by
        rw [hperform]
        exact hs.untouched ht
      rw [hundisturbed.perform_breaks (by rw [hperform])] at he
      cases he
  | barred _ _ hblocked =>
    cases hresult
    rw [hs.scratch e hblocked] at he
    cases he

theorem Follows.refuses {reading : Except Refusal Task} {result : Except Fault Unit × Server (Traced σ)}
    {r : Refusal} (h : Follows E.traced s reading result) (hs : s.scratch.Usable)
    (hreading : reading = .error r) : result.1 = .error (.refused r) := by
  cases h with
  | refused _ hreading' =>
    rw [hreading] at hreading'
    cases hreading'
    rfl
  | carried _ hreading' =>
    rw [hreading] at hreading'
    cases hreading'
  | barred _ hclosed hblocked =>
    rcases hs with hopen | hfree
    · rw [hclosed] at hopen
      cases hopen
    · rw [hblocked] at hfree
      cases hfree

/-- **Rejected commands.** Unless the engine or the scratch file interferes, a command is rejected
for its words alone, and then, or if it is an exit, nothing was done. No argument is missing once
their number was checked. -/
theorem rejected_without_effect (E : Engine σ) (words : List String) (s : Server (Traced σ))
    (hs : Undisturbed s (execute E.traced words s).2.calls) :
    (s.scratch.Usable →
      ((∃ e, (execute E.traced words s).1 = .error e ∧ e.isRefusal = true) ↔ Rejected words)) ∧
    (∀ e, (execute E.traced words s).1 = .error e → e.isRefusal = true → Rejected words) ∧
    (∀ e, (execute E.traced words s).1 = .error e → e.isRefusal = true ∨ e = .exit →
      Untouched s (execute E.traced words s).2) ∧
    ∀ name count,
      (execute E.traced words s).1 = .error (.refused (.wrongArity name count)) →
      ∃ (v : Verb) (rest : List String), words = v.name :: rest ∧
        count = (Words.splitFlags rest).1.length ∧ (count < v.arity.1 ∨ v.arity.2 < count) := by
  have hfollows := execute_follows E.traced words s
  have hreturns : ∀ e, (execute E.traced words s).1 = .error e → e.isRefusal = true ∨ e = .exit →
      Untouched s (execute E.traced words s).2 ∧
        (e = .exit ∨ ∃ r, e = .refused r ∧ Task.ofWords s.scratch.path words = .error r) := by
    intro e he hreturn
    have hresult : execute E.traced words s = (.error e, (execute E.traced words s).2) :=
      Act.run_eq he
    rw [hresult] at hfollows
    exact hfollows.returns hs (Fault.isSome_status? hreturn)
  have hrejected : ∀ e, (execute E.traced words s).1 = .error e → e.isRefusal = true →
      Rejected words := by
    intro e he hrefusal
    rcases (hreturns e he (.inl hrefusal)).2 with rfl | ⟨r, -, hread⟩
    · cases hrefusal
    · exact Task.ofWords_error_iff.mp ⟨r, hread⟩
  refine ⟨fun husable => ⟨?_, fun h => ?_⟩, hrejected,
    fun e he hreturn => (hreturns e he hreturn).1, fun name count h => ?_⟩
  · rintro ⟨e, he, hrefusal⟩
    exact hrejected e he hrefusal
  · obtain ⟨r, hread⟩ := Task.ofWords_error_iff.mpr h
    exact ⟨.refused r, hfollows.refuses husable hread, rfl⟩
  · rcases (hreturns _ h (.inl rfl)).2 with hexit | ⟨r, hr, hread⟩
    · cases hexit
    · cases hr
      exact Task.ofWords_wrongArity hread

/-- The scratch file is made before the column turns out to be negative. -/
theorem rejected_without_effect_negative :
    let session : Session (Traced Script) :=
      .run Script.engine.traced (.opened {} {} {}) [({}, .parse "a" [])]
    let s : Server (Traced Script) := ⟨session, { path := "s" }⟩
    let words := ["complete", "-", "0x1f", "-3", "--", "-x", "--"]
    let result := execute Script.engine.traced words s
    Undisturbed s result.2.calls ∧ Rejected words ∧ result.2.scratch.isOpen = true ∧
      session.activeParse = some 0 ∧ Untouched s result.2 := by
  intro session s words result
  have hs : Undisturbed s result.2.calls := by
    refine ⟨by decide +kernel, fun set hset => ?_, fun e he => by cases he⟩
    have hnone : s.session.activeCompletion.isNone = true := by decide +kernel
    rw [hset] at hnone
    cases hnone
  have hrefused : result.1 = .error (.refused (.negative "Column" "-3")) := by decide +kernel
  obtain ⟨-, hrejected, huntouched, -⟩ := rejected_without_effect Script.engine words s hs
  exact ⟨hs, hrejected _ hrefused rfl, by decide +kernel, by decide +kernel,
    huntouched _ hrefused (.inl rfl)⟩

end Server

end CodeSense
