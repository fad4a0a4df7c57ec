import Mathlib.Algebra.Group.Int.Defs
import CodeSense.Proofs.Pool.Client

/-!
# Which unit a request gets

A request is served by a kept unit exactly when the last request for its file succeeded with
the same flags; in all other cases the engine parses anew. The unit handed out was parsed for
that file with those flags.
-/

namespace CodeSense

theorem Settings.compilerArguments_inj (settings : Settings) {a b : List String}
    (h : settings.compilerArguments a = settings.compilerArguments b) : a = b := by
  unfold compilerArguments at h
  rw [List.cons_append, List.cons_append, List.cons.injEq] at h
  exact List.append_cancel_right h.2

namespace Pool

variable {σ : Type} {E : Engine σ} {settings : Settings} {p q : Pool (Traced σ)}
  {held : List UnitRef} {u : UnitRef} {file : String} {flags : List String}
  {overlays : List Overlay}

open Act

theorem Grows.parseCount_le {K : Request → Prop} {p p' : Pool (Traced σ)} (h : Grows K p p') :
    Trace.parseCount p.calls ≤ Trace.parseCount p'.calls := by
  obtain ⟨new, hnew, -⟩ := h
  rw [hnew, Trace.parseCount_append]
  exact Nat.le_add_right ..

theorem Grows.parseCount_eq {p p' : Pool (Traced σ)} (h : Grows (fun r => r.kind ≠ .parse) p p') :
    Trace.parseCount p'.calls = Trace.parseCount p.calls := by
  obtain ⟨new, hnew, hkind⟩ := h
  have hzero : Trace.parseCount new = 0 := List.countP_eq_zero.mpr (by simpa using hkind)
  rw [hnew, Trace.parseCount_append, hzero]
  rfl

theorem Grows.answered {K : Request → Prop} {p p' : Pool (Traced σ)} (h : Grows K p p')
    (ha : Trace.Answered p'.calls) : Trace.Answered p.calls := by
  obtain ⟨new, hnew, -⟩ := h
  rw [hnew, Trace.answered_append] at ha
  exact ha.1

def Parses (p p' : Pool (Traced σ)) : Prop :=
  Trace.parseCount p.calls < Trace.parseCount p'.calls

theorem Grows.parses_iff {K : Request → Prop} {p p' : Pool (Traced σ)} (h : Grows K p p') :
    Parses p p' ↔ ∃ x ∈ p'.calls.drop p.calls.length, x.request.kind = .parse := by
  obtain ⟨new, hnew, -⟩ := h
  unfold Parses
  rw [hnew, Trace.parseCount_append, List.drop_left, Nat.lt_add_right_iff_pos]
  unfold Trace.parseCount
  simp [List.countP_pos_iff]

/-! ## Hits and misses -/

theorem Found.not_keeps (h : Found file flags p (.ok none) q) (u : UnitRef) :
    ¬ Keeps p.cache file flags u := by
  rintro ⟨hu, r, hr, -, hflags⟩
  generalize ho : (.ok none : Except Fault (Option UnitRef)) = o at h
  cases h with
  | kept => cases ho
  | missing hk =>
    rw [hk] at hu
    cases hu
  | evicted hk hother =>
    cases hk.symm.trans hu
    exact hother r hr hflags

theorem Tried.parses {left : Nat} {o : Except Fault (Int × Option Handle)}
    (h : Tried E settings file flags overlays left p o q) (hleft : left ≠ 0)
    (ha : Trace.Answered q.calls) : Parses p q := by
  obtain ⟨new, hcalls, -, htries, -⟩ := h.calls
  rw [hcalls, Trace.answered_append] at ha
  have hcount := htries.parseCount ha.2 hleft
  unfold Parses
  rw [hcalls, Trace.parseCount_append]
  omega

section
variable (hs : 1 ≤ settings.parseAttempts) (hb : Balanced p.cache p.calls held)
include hs hb

theorem Located.parses_iff {o : Except Fault UnitRef}
    (h : Located E settings file flags overlays p o q) (ha : Trace.Answered q.calls) :
    Parses p q ↔ ∀ u, ¬ Keeps p.cache file flags u := by
  have hmiss {q₁ : Pool (Traced σ)} (hfound : Found file flags p (.ok none) q₁)
      (hq : Parses q₁ q) : Parses p q ↔ ∀ u, ¬ Keeps p.cache file flags u := by
    have hgrows : Grows (fun _ => True) p q₁ := hfound.grows fun _ => trivial
    exact iff_of_true (Nat.lt_of_le_of_lt hgrows.parseCount_le hq) hfound.not_keeps
  have hattempts : settings.parseAttempts.toNat ≠ 0 := by omega
  cases h with
  | hit hk hr hflags =>
    subst hflags
    exact iff_of_false (Nat.lt_irrefl _) fun hno => hno _ (keeps_of_kept hb hk hr)
  | stuck h =>
    have hbreaks := (h.balanced hb).2.2 _ rfl
    exact absurd ha (Trace.not_answered_of_failed hbreaks.failed)
  | missed h ht ho => exact hmiss h (ht.parses hattempts ha)
  | added h ht ho hk => exact hmiss h (ht.parses hattempts ha)

theorem Parsed.parses_iff {o : Except Fault UnitRef}
    (h : Parsed E settings file flags overlays p o q) (ha : Trace.Answered q.calls) :
    Parses p q ↔ ∀ u, ¬ Keeps p.cache file flags u := by
  have hthen {u : UnitRef} {o : Except Fault Unit} {p₁ p₂ : Pool (Traced σ)}
      (h : Located E settings file flags overlays p (.ok u) p₁)
      (hr : Refreshed E file overlays u p₁ o p₂) (hq : q.calls = p₂.calls) :
      Parses p q ↔ ∀ u, ¬ Keeps p.cache file flags u := by
    have hgrows : Grows (fun r => r.kind ≠ .parse) p₁ p₂ :=
      hr.grows (by simp [Request.kind]) (by simp [Request.kind])
    rw [hq] at ha
    rw [← h.parses_iff hs hb (hgrows.answered ha)]
    unfold Parses
    rw [hq, hgrows.parseCount_eq]
  cases h with
  | unlocated h => exact h.parses_iff hs hb ha
  | stale h hr => exact hthen h hr rfl
  | fresh h hr => exact hthen h hr rfl

/-- **Hits and misses.** An engine that answers is asked to parse exactly when no unit is kept
for the file and its flags. -/
theorem serve_parses_iff (demand : Demand)
    (ha : Trace.Answered (serve E.traced settings demand file flags overlays p).2.calls) :
    Parses p (serve E.traced settings demand file flags overlays p).2 ↔
      ∀ u, ¬ Keeps p.cache file (settings.compilerArguments flags) u := by
  obtain ⟨u, r, hk, hr, hflags, hserve⟩ | hparsed :=
    serve_cases E settings demand file flags overlays p
  · rw [hserve, ← hflags]
    exact iff_of_false (Nat.lt_irrefl _) fun hno => hno u (keeps_of_kept hb hk hr)
  · exact hparsed.parses_iff hs hb ha

end

end Pool

/-! ## Histories -/

def Errand.Done.flagsFor? (d : Errand.Done) (file : String) : Option (List String) :=
  match d.errand with
  | .request _ f flags _ => if f = file then some flags else none
  | .giveBack _ => none

namespace Client

variable {σ : Type}

def lastFor (past : List Errand.Done) (file : String) :
    Option (List String × Except Fault (Option UnitRef)) :=
  past.reverse.findSome? fun d => (d.flagsFor? file).map (·, d.outcome)

theorem lastFor_snoc (past : List Errand.Done) (d : Errand.Done) (file : String) :
    lastFor (past ++ [d]) file =
      ((d.flagsFor? file).map (·, d.outcome)).or (lastFor past file) := by
  unfold lastFor
  rw [List.reverse_append, List.reverse_singleton, List.singleton_append, List.findSome?_cons]
  cases d.flagsFor? file <;> rfl

def Failed (outcome : Except Fault (Option UnitRef)) : Prop :=
  ∃ e f, outcome = .error e ∧ e.failure? = some f

/-- There was no request for the file, or the last one failed or had other flags. -/
def Due (past : List Errand.Done) (file : String) (flags : List String) : Prop :=
  lastFor past file = none ∨
    ∃ before outcome, lastFor past file = some (before, outcome) ∧
      (Failed outcome ∨ before ≠ flags)

def KeptAfter (settings : Settings) (c : Cache) (file : String) :
    Option (List String × Except Fault (Option UnitRef)) → Prop
  | some (flags, outcome) =>
    Failed outcome ∧ c.kept.get? file = none ∨
      ¬ Failed outcome ∧ ∃ u, Pool.Keeps c file (settings.compilerArguments flags) u
  | none => c.kept.get? file = none

structure Coherent (settings : Settings) (c : Client (Traced σ)) : Prop where
  sound : c.Sound
  kept : Trace.Answered c.pool.calls →
    ∀ file, KeptAfter settings c.pool.cache file (lastFor c.past file)
  handed : ∀ d ∈ c.past, ∀ file flags u, d.flagsFor? file = some flags →
    d.outcome = .ok (some u) →
      ∃ handle, c.pool.cache.origins[u]? = some (file, settings.compilerArguments flags, handle)

theorem keeps_iff {c : Cache} {file : String} {flags : List String} {u : UnitRef} :
    Pool.Keeps c file flags u ↔
      c.kept.get? file = some u ∧ ∃ handle, c.origins[u]? = some (file, flags, handle) := by
  unfold Pool.Keeps Cache.origins
  rw [List.getElem?_map]
  refine and_congr_right fun _ => ⟨?_, ?_⟩
  · intro hrecord
    obtain ⟨r, hr, rfl, rfl⟩ := hrecord
    exact ⟨r.handle, by rw [show c.records[u]? = some r from hr]; rfl⟩
  · intro horigin
    obtain ⟨handle, h⟩ := horigin
    obtain ⟨r, hr, ho⟩ := Option.map_eq_some_iff.mp h
    cases ho
    exact ⟨r, hr, rfl, rfl⟩

theorem getElem?_of_prefix {α : Type} {l l' : List α} {i : Nat} {a : α} (h : l <+: l')
    (ha : l[i]? = some a) : l'[i]? = some a := by
  obtain ⟨more, rfl⟩ := h
  rw [List.getElem?_append_left (List.getElem?_eq_some_iff.mp ha).1, ha]

theorem KeptAfter.mono {settings : Settings} {c c' : Cache} {file : String}
    {last : Option (List String × Except Fault (Option UnitRef))}
    (h : KeptAfter settings c file last) (hk : c'.kept.get? file = c.kept.get? file)
    (ho : c.origins <+: c'.origins) : KeptAfter settings c' file last := by
  unfold KeptAfter at *
  split
  · refine h.imp (fun h => ⟨h.1, hk.trans h.2⟩) fun h => ⟨h.1, ?_⟩
    obtain ⟨u, hu⟩ := h.2
    obtain ⟨hku, handle, hhandle⟩ := keeps_iff.mp hu
    exact ⟨u, keeps_iff.mpr ⟨hk.trans hku, handle, getElem?_of_prefix ho hhandle⟩⟩
  · exact hk.trans h

theorem origins_prefix {c c' : Cache} {calls new : List Call} {held held' : List UnitRef}
    (h : Balanced c calls held) (h' : Balanced c' (calls ++ new) held') :
    c.origins <+: c'.origins := by
  rw [← h.parsed, ← h'.parsed, Trace.parsed_append]
  exact List.prefix_append ..

variable (E : Engine σ) (settings : Settings) {c : Client (Traced σ)}

theorem coherent_opened (state : σ) (journal : Journal) :
    (opened state journal).Coherent settings where
  sound := sound_opened state journal
  kept _ _ := rfl
  handed := by simp [opened]

theorem request_beside (hb : Balanced c.pool.cache c.pool.calls c.held) (demand : Demand)
    (file : String) (flags : List String) (overlays : List Overlay) :
    Pool.SameBeside file c.pool.cache
      (perform E.traced settings (.request demand file flags overlays) c).2.pool.cache := by
  refine Act.Ends.state (P := fun c' : Client (Traced σ) =>
    Pool.SameBeside file c.pool.cache c'.pool.cache) ?_
  refine (ends_request E settings hb demand file flags overlays).mono ?_ ?_
  · intro _ c' hend
    obtain ⟨u, -, -, hg⟩ := hend
    exact hg.beside
  · intro e c' hend
    obtain ⟨-, hd⟩ := hend
    exact hd.beside

theorem request_keptAfter (hb : Balanced c.pool.cache c.pool.calls c.held) (demand : Demand)
    (file : String) (flags : List String) (overlays : List Overlay)
    (ha : Trace.Answered
      (perform E.traced settings (.request demand file flags overlays) c).2.pool.calls) :
    KeptAfter settings
      (perform E.traced settings (.request demand file flags overlays) c).2.pool.cache file
      (some (flags, (perform E.traced settings (.request demand file flags overlays) c).1)) := by
  have hends := ends_request E settings hb demand file flags overlays
  rcases ho : (perform E.traced settings (.request demand file flags overlays) c).1 with e | o
  · obtain ⟨-, hd⟩ := hends.of_error ho
    rcases hd.cause with hbreaks | ⟨⟨f, hf, -⟩, hnone⟩ | ⟨rfl, hkeeps⟩
    · exact absurd ha (Trace.not_answered_of_failed hbreaks.failed)
    · exact .inl ⟨⟨e, f, rfl, hf⟩, hnone⟩
    · refine .inr ⟨?_, hkeeps⟩
      rintro ⟨e, f, he, hf⟩
      cases he
      cases hf
  · obtain ⟨u, -, -, hg⟩ := hends.of_ok ho
    refine .inr ⟨?_, u, hg.keeps⟩
    rintro ⟨e, f, he, -⟩
    cases he

theorem giveBack_kept (hb : Balanced c.pool.cache c.pool.calls c.held) (u : UnitRef) :
    (perform E.traced settings (.giveBack u) c).2.pool.cache.kept = c.pool.cache.kept := by
  refine Act.Ends.state (P := fun c' : Client (Traced σ) =>
    c'.pool.cache.kept = c.pool.cache.kept) ?_
  exact (ends_giveBack E settings hb u).mono (fun _ _ h => h.2.2) fun _ _ h => h.2.1

theorem request_handed (hb : Balanced c.pool.cache c.pool.calls c.held) {demand : Demand}
    {file : String} {flags : List String} {overlays : List Overlay} {u : UnitRef}
    (hu : (perform E.traced settings (.request demand file flags overlays) c).1 = .ok (some u)) :
    ∃ handle,
      (perform E.traced settings (.request demand file flags overlays) c).2.pool.cache.origins[u]? =
        some (file, settings.compilerArguments flags, handle) := by
  obtain ⟨v, hv, -, hg⟩ := (ends_request E settings hb demand file flags overlays).of_ok hu
  cases hv
  exact (keeps_iff.mp hg.keeps).2

theorem coherent_step (h : c.Coherent settings) (e : Errand) :
    (step E.traced settings c e).Coherent settings := by
  have hb := h.sound.balanced
  have hsound := sound_step E settings h.sound e
  obtain ⟨new, hcalls, -⟩ := perform_grows E settings c e
  have ho : c.pool.cache.origins <+: (step E.traced settings c e).pool.cache.origins := by
    have hb' := hsound.balanced
    rw [step_pool, hcalls] at hb'
    exact origins_prefix hb hb'
  have hpast : (step E.traced settings c e).past =
      c.past ++ [⟨e, (perform E.traced settings e c).1⟩] := rfl
  refine ⟨hsound, fun ha file => ?_, fun d hd file flags u hf hu => ?_⟩
  · have hold : KeptAfter settings c.pool.cache file (lastFor c.past file) := by
      rw [step_pool, hcalls, Trace.answered_append] at ha
      exact h.kept ha.1 file
    rw [hpast, lastFor_snoc]
    cases e with
    | request demand f flags overlays =>
      by_cases hf : f = file
      · subst hf
        simp only [Errand.Done.flagsFor?, if_true, Option.map_some, Option.some_or]
        exact request_keptAfter E settings hb demand f flags overlays ha
      · simp only [Errand.Done.flagsFor?, hf, if_false, Option.map_none, Option.none_or]
        exact hold.mono (request_beside E settings hb demand f flags overlays file (Ne.symm hf)) ho
    | giveBack u =>
      simp only [Errand.Done.flagsFor?, Option.map_none, Option.none_or]
      exact hold.mono (by rw [step_pool, giveBack_kept E settings hb u]) ho
  · rw [hpast] at hd
    rcases List.mem_append.mp hd with hd | hd
    · obtain ⟨handle, hh⟩ := h.handed d hd file flags u hf hu
      exact ⟨handle, getElem?_of_prefix ho hh⟩
    · cases List.mem_singleton.mp hd
      cases e with
      | request demand f fl overlays =>
        simp only [Errand.Done.flagsFor?] at hf
        split at hf
        · rename_i hfile
          cases hf
          subst hfile
          exact request_handed E settings hb hu
        · cases hf
      | giveBack v => cases hf

theorem coherent_run (h : c.Coherent settings) (errands : List Errand) :
    (run E.traced settings c errands).Coherent settings := by
  induction errands generalizing c with
  | nil => exact h
  | cons e errands ih => exact ih (coherent_step E settings h e)

theorem due_iff (h : c.Coherent settings) (ha : Trace.Answered c.pool.calls) (file : String)
    (flags : List String) :
    (∀ u, ¬ Pool.Keeps c.pool.cache file (settings.compilerArguments flags) u) ↔
      Due c.past file flags := by
  have hkept := h.kept ha file
  unfold Due
  rcases hlast : lastFor c.past file with _ | ⟨before, outcome⟩
  · rw [hlast] at hkept
    refine ⟨fun _ => .inl rfl, fun _ u hu => ?_⟩
    rw [KeptAfter, hu.1] at hkept
    cases hkept
  · rw [hlast] at hkept
    rcases hkept with ⟨hfailed, hnone⟩ | ⟨hok, v, hv⟩
    · refine ⟨fun _ => .inr ⟨before, outcome, rfl, .inl hfailed⟩, fun _ u hu => ?_⟩
      rw [hu.1] at hnone
      cases hnone
    · constructor
      · intro hmiss
        refine .inr ⟨before, outcome, rfl, .inr fun hsame => ?_⟩
        exact hmiss v (hsame ▸ hv)
      · rintro (hd | ⟨_, _, hd, hdue⟩) u hu
        · cases hd
        · cases hd
          obtain ⟨hku, hu, hou⟩ := keeps_iff.mp hu
          obtain ⟨hkv, hv, hov⟩ := keeps_iff.mp hv
          cases hku.symm.trans hkv
          have hsame := Option.some.inj (hov.symm.trans hou)
          exact hdue.resolve_left hok
            (settings.compilerArguments_inj (Prod.mk.inj (Prod.mk.inj hsame).2).1)

/-- **Units go with their flags.** After any history over an engine that answers, a request
makes the engine parse exactly when it is due, and what it hands out was parsed for its file
with its flags, and was never handed out for other ones. -/
theorem flags_coherent (hs : 1 ≤ settings.parseAttempts) (state : σ) (journal : Journal)
    (errands : List Errand) (demand : Demand) (file : String) (flags : List String)
    (overlays : List Overlay) :
    let c := run E.traced settings (opened state journal) errands
    let request := perform E.traced settings (.request demand file flags overlays) c
    let calls := request.2.pool.calls
    Trace.Answered calls →
      ((∃ x ∈ calls.drop c.pool.calls.length, x.request.kind = .parse) ↔ Due c.past file flags) ∧
      ∀ u, request.1 = .ok (some u) →
        (∃ r, request.2.pool.cache.get? u = some r ∧ r.file = file ∧
          r.flags = settings.compilerArguments flags ∧
          (file, settings.compilerArguments flags, r.handle) ∈ Trace.parsed calls ∧
          ((Trace.unitsMade calls).Nodup → ∀ f args, (f, args, r.handle) ∈ Trace.parsed calls →
            f = file ∧ args = settings.compilerArguments flags)) ∧
        ∀ d ∈ c.past, ∀ f fl, d.flagsFor? f = some fl → d.outcome = .ok (some u) →
          f = file ∧ fl = flags := by
  intro c request calls ha
  have hc : c.Coherent settings :=
    coherent_run E settings (coherent_opened settings state journal) errands
  have hb := hc.sound.balanced
  have hgrows := perform_grows E settings c (.request demand file flags overlays)
  refine ⟨?_, fun u hu => ⟨?_, fun d hd f fl hf hout => ?_⟩⟩
  · have hserve : request.2.pool =
        (Pool.serve E.traced settings demand file flags overlays c.pool).2 :=
      request_pool E settings c demand file flags overlays
    rw [← hgrows.parses_iff, ← due_iff settings hc (hgrows.answered ha), hserve]
    refine Pool.serve_parses_iff hs hb demand ?_
    rw [← hserve]
    exact ha
  · obtain ⟨v, hv, -, hg⟩ := (ends_request E settings hb demand file flags overlays).of_ok hu
    cases hv
    obtain ⟨-, r, hr, hfile, hflags⟩ := hg.keeps
    have hmem : (file, settings.compilerArguments flags, r.handle) ∈ Trace.parsed calls := by
      rw [← hfile, ← hflags, hg.balanced.parsed]
      exact List.mem_map_of_mem (f := UnitRecord.origin) (List.mem_of_getElem? hr)
    refine ⟨r, hr, hfile, hflags, hmem, fun hn f args hf => ?_⟩
    have hsame := List.inj_on_of_nodup_map hn hf hmem rfl
    exact ⟨(Prod.mk.inj hsame).1, (Prod.mk.inj (Prod.mk.inj hsame).2).1⟩
  · have hc' := coherent_step E settings hc (.request demand file flags overlays)
    obtain ⟨h₁, ho₁⟩ := hc'.handed d (List.mem_append_left _ hd) f fl u hf hout
    obtain ⟨h₂, ho₂⟩ := request_handed E settings hb hu
    have hsame := Option.some.inj (ho₁.symm.trans ho₂)
    exact ⟨(Prod.mk.inj hsame).1,
      settings.compilerArguments_inj (Prod.mk.inj (Prod.mk.inj hsame).2).1⟩

/-- A unit is parsed, parsed again for other flags, and asked for with the first flags. -/
theorem flags_coherent_changed :
    let c := run Script.engine.traced {} (opened {} {})
      [.request .parse "a" ["-x"] [], .request .obtain "a" ["-y"] [], .giveBack 0]
    let request := perform Script.engine.traced {} (.request .parse "a" ["-x"] []) c
    let calls := request.2.pool.calls
    (∃ x ∈ calls.drop c.pool.calls.length, x.request.kind = .parse) ∧ Due c.past "a" ["-x"] ∧
      ∃ r, request.2.pool.cache.get? 2 = some r ∧ r.flags = ["clang", "-x"] := by
  intro c request calls
  have h := flags_coherent Script.engine {} (by decide) {} {}
    [.request .parse "a" ["-x"] [], .request .obtain "a" ["-y"] [], .giveBack 0]
    .parse "a" ["-x"] [] (by decide)
  have hdue : Due c.past "a" ["-x"] := .inr ⟨["-y"], .ok (some 1), rfl, .inr (by decide)⟩
  obtain ⟨⟨r, hr, -, hflags, -⟩, -⟩ := h.2 2 rfl
  exact ⟨h.1.mpr hdue, hdue, r, hr, hflags⟩

/-- A code that cannot be written keeps the failure from being reported as one. The engine is asked
again all the same. -/
theorem unreported_parsed_again :
    let c := run Script.engine.traced {} (opened { parses := [(10 ^ 4300, false)] } {})
      [.request .parse "a" [] []]
    let request := perform Script.engine.traced {} (.request .parse "a" [] []) c
    Trace.Answered request.2.pool.calls ∧
      lastFor c.past "a" =
        some ([], .error (.unreported { file := "a", code := 10 ^ 4300 })) ∧
      (∃ x ∈ request.2.pool.calls.drop c.pool.calls.length, x.request.kind = .parse) := by
  decide +kernel

end Client

end CodeSense
