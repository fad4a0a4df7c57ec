import CodeSense.Proofs.Pool.Balance
import CodeSense.Proofs.Pool.Requests

/-!
# What the operations of a pool do to its books

Each operation ends with balanced books, whatever the engine answers. Where it stops, a call
failed, there is no unit, or the log refused to say so.
-/

namespace CodeSense.Pool

variable {σ : Type} {E : Engine σ} {settings : Settings} {p p' q : Pool (Traced σ)}
  {held : List UnitRef} {u : UnitRef} {file : String} {flags : List String}
  {overlays : List Overlay} {e : Fault}

def Keeps (c : Cache) (file : String) (flags : List String) (u : UnitRef) : Prop :=
  c.kept.get? file = some u ∧ ∃ r, c.get? u = some r ∧ r.file = file ∧ r.flags = flags

theorem keeps_of_kept {r : UnitRecord} (hb : Balanced p.cache p.calls held)
    (hk : p.cache.kept.get? file = some u) (hr : p.cache.get? u = some r) :
    Keeps p.cache file r.flags u := by
  obtain ⟨r', hr', hfile⟩ := hb.filed.file _ _ (Keyed.mem_of_get? hk)
  cases hr.symm.trans hr'
  exact ⟨hk, r, hr, hfile, rfl⟩

/-! ## Giving back -/

section
variable {o : Except Fault Unit}

theorem Released.kept (h : Released u p o p') : p'.cache.kept = p.cache.kept := by
  rw [h.cache]
  rfl

theorem Released.balanced (h : Released u p o p') (hb : Balanced p.cache p.calls (u :: held)) :
    Balanced p'.cache p'.calls held := by
  obtain ⟨new, hcalls, hout, -⟩ := h.calls
  rw [h.cache, hcalls]
  exact hb.giveBack hout

theorem Released.breaks (h : Released u p (.error e) p')
    (hb : Balanced p.cache p.calls (u :: held)) : Breaks p p' e := by
  obtain ⟨new, hcalls, -, he⟩ := h.calls
  refine ⟨new, hcalls, (he e rfl).resolve_right fun hnone => ?_⟩
  obtain ⟨r, hr, hcount⟩ := hnone
  have hpos := hb.counted.count u r hr
  rw [List.cons_append, List.count_cons_self] at hpos
  omega

theorem Dropped.balanced (h : Dropped file p o p') (hb : Balanced p.cache p.calls held) :
    Balanced p'.cache p'.calls held := by
  cases h with
  | nothing => exact hb
  | unit hk h => exact h.balanced (hb.forget hk)

theorem Dropped.breaks (h : Dropped file p (.error e) p') (hb : Balanced p.cache p.calls held) :
    Breaks p p' e := by
  cases h with
  | unit hk h => exact h.breaks (p := { p with cache := p.cache.forget file }) (hb.forget hk)

theorem Dropped.kept (h : Dropped file p o p') : p'.cache.kept = p.cache.kept.erase file := by
  cases h with
  | nothing hk => exact (Keyed.erase_of_get?_none hk).symm
  | unit hk h => exact h.kept

end

/-- Giving back a reference that is not the last one asks nothing of the engine. -/
theorem ends_release_shared (hb : Balanced p.cache p.calls (u :: held))
    (hu : u ∈ held ++ p.cache.keptRefs) :
    (release E.traced u).Ends p
      (fun _ p' => Balanced p'.cache p'.calls held ∧ p'.cache = p.cache.retain u (-1) ∧
        p'.calls = p.calls)
      (fun _ _ => False) := by
  obtain ⟨r, hr⟩ := hb.counted.get (List.mem_cons_self ..)
  have hshared : r.refCount ≠ 1 := by
    have hcount := hb.counted.count u r hr
    have hpos := List.count_pos_iff.mpr hu
    rw [List.cons_append, List.count_cons_self] at hcount
    omega
  have hout : p.cache.lastOut u = [] := by
    simp only [Cache.lastOut, hr]
    exact if_neg fun hone => hshared hone.1
  have hcache : p.cache.retain u (-1) = p.cache.giveBack u :=
    Cache.retain_eq_giveBack fun r' hr' => .inr (by cases hr.symm.trans hr'; exact hshared)
  have hcalls {o : Except Fault Unit} {p' : Pool (Traced σ)} (h : Released u p o p') :
      p'.calls = p.calls := by
    obtain ⟨new, hcalls, hnew, -⟩ := h.calls
    rw [hcalls, List.map_eq_nil_iff.mp (hnew.trans hout), List.append_nil]
  refine (release_released u p).mono
    (fun _ p' h => ⟨h.balanced hb, h.cache.trans hcache.symm, hcalls h⟩) ?_
  intro e p' h
  obtain ⟨new, hnew, c, hc, -⟩ := h.breaks hb
  rw [hcalls h, List.self_eq_append_right] at hnew
  rw [hnew] at hc
  cases hc

theorem ends_release (hb : Balanced p.cache p.calls (u :: held)) :
    (release E.traced u).Ends p
      (fun _ p' => Balanced p'.cache p'.calls held ∧ p'.cache.kept = p.cache.kept)
      (fun e p' => Balanced p'.cache p'.calls held ∧ p'.cache.kept = p.cache.kept ∧
        Breaks p p' e) :=
  (release_released u p).mono (fun _ _ h => ⟨h.balanced hb, h.kept⟩) fun _ _ h =>
    ⟨h.balanced hb, h.kept, h.breaks hb⟩

/-! ## Files -/

def SameBeside (file : String) (c c' : Cache) : Prop :=
  ∀ g, g ≠ file → c'.kept.get? g = c.kept.get? g

theorem sameBeside_of_erase {c c' : Cache} (h : c'.kept = c.kept.erase file) :
    SameBeside file c c' ∧ c'.kept.get? file = none := by
  refine ⟨fun g hg => ?_, ?_⟩
  · rw [h, Keyed.get?_erase, if_neg hg]
  · rw [h, Keyed.get?_erase, if_pos rfl]

theorem SameBeside.trans {a b c : Cache} (hab : SameBeside file a b) (hbc : SameBeside file b c) :
    SameBeside file a c := fun g hg => (hbc g hg).trans (hab g hg)

section
variable {o : Except Fault (Option UnitRef)}

theorem Evicted.balanced {o : Except Fault Unit} (h : Evicted file u p o q)
    (hb : Balanced p.cache p.calls held) (hk : p.cache.kept.get? file = some u) :
    Balanced q.cache q.calls held ∧ SameBeside file p.cache q.cache ∧
      ∀ e, o = .error e → Breaks p q e := by
  have hb' : Balanced (p.cache.forget file).countEviction p.calls (u :: held) :=
    (hb.forget hk).congr rfl rfl rfl
  refine ⟨Released.balanced h hb', (sameBeside_of_erase (Released.kept h)).1, fun e he => ?_⟩
  subst he
  exact Released.breaks (p := { p with cache := (p.cache.forget file).countEviction }) h hb'

theorem Found.balanced (h : Found file flags p o q) (hb : Balanced p.cache p.calls held) :
    Balanced q.cache q.calls held ∧ SameBeside file p.cache q.cache ∧
      ∀ e, o = .error e → Breaks p q e := by
  cases h with
  | kept => exact ⟨hb, fun _ _ => rfl, by simp⟩
  | missing => exact ⟨hb, fun _ _ => rfl, by simp⟩
  | @evicted u o q hk hflags h =>
    obtain ⟨hb', hsame, hbreaks⟩ := h.balanced hb hk
    refine ⟨hb', hsame, fun e he => ?_⟩
    cases o with
    | error e' =>
      cases he
      exact hbreaks _ rfl
    | ok _ => cases he

end

/-! ## Parsing -/

theorem Attempts.unit?_none {refuses : Bool} {left : Nat} {calls : List Call}
    {o : Except Fault (Int × Option Handle)}
    (h : Attempts settings file flags overlays refuses left calls o) :
    ∀ x ∈ calls, x.request.unit? = none ∧ x.request ≠ .close := by
  intro x hx
  rcases h.mem x hx with hx | hx <;> rw [hx] <;> exact ⟨rfl, nofun⟩

section
variable {left : Nat} {o : Except Fault (Int × Option Handle)}

theorem Tried.balanced (h : Tried E settings file flags overlays left p o p')
    (hb : Balanced p.cache p.calls held) (ho : decided file o = .error e) :
    Balanced p'.cache p'.calls held ∧
      (Breaks p p' e ∨ ∃ code, e.failure? = some { file, code }) := by
  obtain ⟨new, hcalls, -, htries, hcache⟩ := h.calls
  refine ⟨?_, (htries.cause ho).imp (fun hf => ⟨new, hcalls, hf⟩) id⟩
  rw [hcalls, hcache]
  refine Balanced.congr (hb.append (Attempts.unit?_none htries) ?_) rfl rfl rfl
  rw [htries.parsed, ho]
  rfl

theorem Tried.insert {handle : Handle} (h : Tried E settings file flags overlays left p o p')
    (hb : Balanced p.cache p.calls held) (ho : decided file o = .ok handle)
    (hk : p'.cache.kept.get? file = none) :
    Balanced (p'.cache.insert { file, flags, handle }) p'.calls held := by
  obtain ⟨new, hcalls, -, htries, hcache⟩ := h.calls
  have hb' : Balanced p'.cache p.calls held := by
    rw [hcache]
    exact hb.congr rfl rfl rfl
  rw [hcalls]
  refine hb'.insert hk (Attempts.unit?_none htries) ?_
  rw [htries.parsed, ho]
  rfl

end

structure Granted (file : String) (flags : List String) (held : List UnitRef)
    (p : Pool (Traced σ)) (u : UnitRef) (p' : Pool (Traced σ)) : Prop where
  balanced : Balanced p'.cache p'.calls (u :: held)
  beside : SameBeside file p.cache p'.cache
  keeps : Keeps p'.cache file flags u

/-- A request that started from `p` stopped: a call failed, the engine has no unit for the file, or
the log refused to say that one could not be brought up to date. -/
structure Denied (file : String) (flags : List String) (held : List UnitRef)
    (p : Pool (Traced σ)) (e : Fault) (p' : Pool (Traced σ)) : Prop where
  balanced : Balanced p'.cache p'.calls held
  beside : SameBeside file p.cache p'.cache
  cause : Breaks p p' e ∨
    (∃ f, e.failure? = some f ∧ (f.reason = "parse" ∨ f.reason = "reparse")) ∧
      p'.cache.kept.get? file = none ∨
    e = .tooManyDigits ∧ ∃ u, Keeps p'.cache file flags u

theorem granted_retain {p₀ : Pool (Traced σ)} (hb : Balanced p.cache p.calls held)
    (hk : Keeps p.cache file flags u) (hs : SameBeside file p₀.cache p.cache) :
    Granted file flags held p₀ u { p with cache := p.cache.retain u 1 } where
  balanced := hb.retain (Balanced.mem_refs_of_kept hk.1)
  beside := hs
  keeps := by
    obtain ⟨hk, r, hr, hfile, hflags⟩ := hk
    refine ⟨hk, ?_⟩
    rw [Cache.get?_retain hr]
    exact ⟨_, rfl, hfile, hflags⟩

/-- The file's unit was found or made. -/
theorem Located.granted (h : Located E settings file flags overlays p (.ok u) q)
    (hb : Balanced p.cache p.calls held) :
    Balanced q.cache q.calls held ∧ SameBeside file p.cache q.cache ∧
      Keeps q.cache file flags u := by
  cases h with
  | hit hk hr hflags =>
    subst hflags
    have hkeeps : Keeps p.cache file _ u := keeps_of_kept hb hk hr
    exact ⟨hb.congr rfl rfl rfl, fun _ _ => rfl, hkeeps⟩
  | @added q p' o handle hfound ht ho hk =>
    obtain ⟨hb', hsame, -⟩ := hfound.balanced hb
    refine ⟨ht.insert (hb'.congr rfl rfl rfl) ho hk, fun g hg => ?_, Cache.get?_kept_insert hk,
      { file, flags, handle }, ?_, rfl, rfl⟩
    · rw [Cache.kept_insert hk, Keyed.get?_append, Keyed.get?_cons, if_neg (Ne.symm hg), ht.kept]
      exact (Option.or_none ..).trans (hsame g hg)
    · rw [Cache.get?_insert, if_pos rfl]

theorem Located.denied (h : Located E settings file flags overlays p (.error e) p')
    (hb : Balanced p.cache p.calls held) : Denied file flags held p e p' := by
  cases h with
  | stuck h =>
    obtain ⟨hb', hsame, hbreaks⟩ := h.balanced hb
    exact ⟨hb', hsame, .inl (hbreaks e rfl)⟩
  | @missed q _ o _ hfound ht ho =>
    obtain ⟨hb', hsame, -⟩ := hfound.balanced hb
    obtain ⟨hb'', hcause⟩ := ht.balanced (hb'.congr rfl rfl rfl) ho
    refine ⟨hb'', fun g hg => ?_, ?_⟩
    · rw [ht.kept]
      exact hsame g hg
    · rcases hcause with hbreaks | ⟨code, hfailure⟩
      · exact .inl ((hfound.grows fun _ => trivial).breaks (K := fun _ => True) hbreaks)
      · refine .inr (.inl ⟨⟨_, hfailure, .inl rfl⟩, ?_⟩)
        rw [ht.kept]
        exact hfound.free

theorem Refreshed.balanced_of_ok (h : Refreshed E file overlays u p (.ok ()) p')
    (hb : Balanced p.cache p.calls held) (hk : p.cache.kept.get? file = some u) :
    Balanced p'.cache p'.calls held := by
  generalize ho : (.ok () : Except Fault Unit) = o at h
  cases h with
  | absent => exact hb
  | current hr h hc =>
    rw [hc.cache, hc.calls]
    exact hb.snoc_of_unit hr (Balanced.mem_refs_of_kept hk) rfl rfl rfl
  | broken => cases ho
  | unlogged => cases ho
  | @dropped _ _ _ _ _ o => cases o <;> cases ho

theorem Refreshed.denied (h : Refreshed E file overlays u p (.error e) p')
    (hb : Balanced p.cache p.calls held) (hk : Keeps p.cache file flags u) :
    Denied file flags held p e p' := by
  generalize ho : (.error e : Except Fault Unit) = o at h
  have hreparse {r : UnitRecord} {reply : Reply Int} {q : Pool (Traced σ)}
      (hr : p.cache.get? u = some r) (hc : Called E ⟨.reparse r.handle overlays, reply⟩ p q) :
      Balanced q.cache q.calls held := by
    rw [hc.cache, hc.calls]
    exact hb.snoc_of_unit hr (Balanced.mem_refs_of_kept hk.1) rfl rfl rfl
  cases h with
  | absent => cases ho
  | current => cases ho
  | broken hr h hc =>
    cases ho
    exact ⟨hreparse hr hc, fun _ _ => by rw [hc.cache], .inl (breaks_snoc hc.calls h)⟩
  | unlogged hr h hcode hlong hrefuses hc =>
    cases ho
    refine ⟨hreparse hr hc, fun _ _ => by rw [hc.cache], .inr (.inr ⟨rfl, u, ?_⟩)⟩
    rw [hc.cache]
    exact hk
  | @dropped _ _ code q _ o hr h hcode hc hd =>
    have hb' := hreparse hr hc
    obtain ⟨hsame, hgone⟩ := sameBeside_of_erase hd.kept
    rw [hc.cache] at hsame
    refine ⟨hd.balanced hb', hsame, ?_⟩
    cases o with
    | error e' =>
      cases ho
      exact .inl ((grows_snoc hc.calls trivial).breaks (K := fun _ => True) (hd.breaks hb'))
    | ok _ =>
      cases ho
      exact .inr (.inl ⟨⟨_, Fault.failure?_ofFailure _, .inr rfl⟩, hgone⟩)

/-! ## Requests -/

theorem Denied.since {p₀ : Pool (Traced σ)} (h : Denied file flags held p e p')
    (hg : Grows (fun _ => True) p₀ p) (hs : SameBeside file p₀.cache p.cache) :
    Denied file flags held p₀ e p' :=
  ⟨h.balanced, hs.trans h.beside, h.cause.imp hg.breaks id⟩

/-- **Parse requests.** On success the caller holds one reference more; on failure nothing has
changed hands. -/
theorem ends_parse (hb : Balanced p.cache p.calls held) :
    (parse E.traced settings file flags overlays).Ends p
      (Granted file (settings.compilerArguments flags) held p)
      (Denied file (settings.compilerArguments flags) held p) := by
  refine (parse_parsed p).mono (fun u p' h => ?_) fun e p' h => ?_
  · cases h with
    | fresh h hr =>
      obtain ⟨hb₁, hsame, hkeeps⟩ := h.granted hb
      have hc := hr.cache_of_ok
      exact granted_retain (hr.balanced_of_ok hb₁ hkeeps.1) (hc ▸ hkeeps) (hc ▸ hsame)
  · cases h with
    | unlocated h => exact h.denied hb
    | stale h hr =>
      obtain ⟨hb₁, hsame, hkeeps⟩ := h.granted hb
      exact (hr.denied hb₁ hkeeps).since h.grows hsame

theorem ends_obtain (hb : Balanced p.cache p.calls held) :
    (obtain E.traced settings file flags overlays).Ends p
      (Granted file (settings.compilerArguments flags) held p)
      (Denied file (settings.compilerArguments flags) held p) := by
  obtain ⟨u, r, hk, hr, hflags, hobtain⟩ | ⟨-, hobtain⟩ :=
    obtain_cases E settings file flags overlays p
  · refine Act.Ends.of_eq (y := Pure.pure u) ?_ hobtain
    have hkeeps := keeps_of_kept hb hk hr
    rw [hflags] at hkeeps
    exact granted_retain (p := { p with cache := p.cache.countHit }) (hb.congr rfl rfl rfl) hkeeps
      fun _ _ => rfl
  · exact (ends_parse hb).of_eq hobtain

/-! ## Long numbers -/

/-- Between `p` and `p'` there was a number that cannot be written. -/
def Overlong (settings : Settings) (p p' : Pool (Traced σ)) : Prop :=
  p.journal.refuses .info = true ∧ Text.isWritable settings.parseAttempts = false ∨
    ∃ new, p'.calls = p.calls ++ new ∧ Trace.HasTooLong new

theorem Overlong.since {p₀ : Pool (Traced σ)} (h : Overlong settings p p')
    (hg : Grows (fun _ => True) p₀ p) (hj : p.journal.refuses = p₀.journal.refuses) :
    Overlong settings p₀ p' := by
  rcases h with ⟨hrefuses, hlong⟩ | ⟨new, hcalls, c, hc, hlong⟩
  · exact .inl ⟨hj ▸ hrefuses, hlong⟩
  · obtain ⟨before, hbefore, -⟩ := hg
    refine .inr ⟨before ++ new, ?_, c, List.mem_append_right _ hc, hlong⟩
    rw [hcalls, hbefore, List.append_assoc]

theorem Found.refuses {o : Except Fault (Option UnitRef)} (h : Found file flags p o q) :
    q.journal.refuses = p.journal.refuses := by
  cases h with
  | kept => rfl
  | missing => rfl
  | evicted _ _ h => exact h.refuses

theorem Located.refuses {o : Except Fault UnitRef}
    (h : Located E settings file flags overlays p o q) :
    q.journal.refuses = p.journal.refuses := by
  cases h with
  | hit => rfl
  | stuck h => exact h.refuses
  | missed h ht _ => exact ht.refuses.trans h.refuses
  | added h ht _ _ => exact ht.refuses.trans h.refuses

theorem Located.overlong (h : Located E settings file flags overlays p (.error e) p')
    (hb : Balanced p.cache p.calls held) :
    Breaks p p' e ∨ (∃ f, e = .parseFailed f) ∨ e.isLength = true ∧ Overlong settings p p' := by
  cases h with
  | stuck h => exact .inl ((h.balanced hb).2.2 e rfl)
  | @missed q _ o _ hfound ht ho =>
    have hg : Grows (fun _ => True) p q := hfound.grows fun _ => trivial
    obtain ⟨new, hcalls, -, htries, -⟩ := ht.calls
    rcases htries.tooLong ho with hf | hfailed | ⟨hlength, hlog | hlong⟩
    · exact .inl (hg.breaks ⟨new, hcalls, hf⟩)
    · exact .inr (.inl hfailed)
    · exact .inr (.inr ⟨hlength, .inl ⟨hfound.refuses ▸ hlog.1, hlog.2⟩⟩)
    · exact .inr (.inr ⟨hlength, Overlong.since (.inr ⟨new, hcalls, hlong⟩) hg hfound.refuses⟩)

theorem Refreshed.overlong (h : Refreshed E file overlays u p (.error e) p')
    (hb : Balanced p.cache p.calls held) (hk : p.cache.kept.get? file = some u) :
    Breaks p p' e ∨ (∃ f, e = .parseFailed f) ∨
      e.isLength = true ∧ ∃ new, p'.calls = p.calls ++ new ∧ Trace.HasTooLong new := by
  generalize ho : (.error e : Except Fault Unit) = o at h
  cases h with
  | absent => cases ho
  | current => cases ho
  | broken hr h hc =>
    cases ho
    exact .inl (breaks_snoc hc.calls h)
  | @unlogged r reply code _ hr h hcode hlong hrefuses hc =>
    cases ho
    refine .inr (.inr ⟨rfl, _, hc.calls, _, List.mem_singleton.mpr rfl, code, h, ?_⟩)
    simp [Request.tooLong, hlong]
  | @dropped r reply code q _ o hr h hcode hc hd =>
    have hb' : Balanced q.cache q.calls held := by
      rw [hc.cache, hc.calls]
      exact hb.snoc_of_unit hr (Balanced.mem_refs_of_kept hk) rfl rfl rfl
    have hg : Grows (fun _ => True) p q := grows_snoc hc.calls trivial
    cases o with
    | error e' =>
      cases ho
      exact .inl (hg.breaks (hd.breaks hb'))
    | ok _ =>
      cases ho
      rcases Fault.ofFailure_cases { file, code, reason := "reparse" } with hf | ⟨hlength, hlong⟩
      · exact .inr (.inl ⟨_, hf⟩)
      · obtain ⟨new, hnew, -⟩ := hd.grows (K := fun _ => True) fun _ => trivial
        refine .inr (.inr ⟨hlength, ⟨.reparse r.handle overlays, reply⟩ :: new, ?_, _,
          List.mem_cons_self .., code, h, ?_⟩)
        · rw [hnew, hc.calls, List.append_assoc]
          rfl
        · simp [Request.tooLong, hlong]

/-- What stops a request without saying that there is no unit. -/
theorem ends_parse_overlong (hb : Balanced p.cache p.calls held) :
    (parse E.traced settings file flags overlays).Ends p (fun _ _ => True)
      (fun e p' => Breaks p p' e ∨ (∃ f, e = .parseFailed f) ∨
        e.isLength = true ∧ Overlong settings p p') := by
  refine (parse_parsed p).mono (fun _ _ _ => trivial) fun e p' h => ?_
  cases h with
  | unlocated h => exact h.overlong hb
  | stale h hr =>
    obtain ⟨hb₁, -, hkeeps⟩ := h.granted hb
    refine (hr.overlong hb₁ hkeeps.1).imp h.grows.breaks (.imp id (.imp id fun hlong => ?_))
    exact Overlong.since (.inr hlong) h.grows h.refuses

theorem ends_obtain_overlong (hb : Balanced p.cache p.calls held) :
    (obtain E.traced settings file flags overlays).Ends p (fun _ _ => True)
      (fun e p' => Breaks p p' e ∨ (∃ f, e = .parseFailed f) ∨
        e.isLength = true ∧ Overlong settings p p') := by
  obtain ⟨u, r, -, -, -, hobtain⟩ | ⟨-, hobtain⟩ := obtain_cases E settings file flags overlays p
  · exact Act.Ends.of_eq (y := Pure.pure u) trivial hobtain
  · exact (ends_parse_overlong hb).of_eq hobtain

end CodeSense.Pool
