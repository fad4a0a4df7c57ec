import CodeSense.Proofs.Pool.Requests

/-!
# What requests leave alone

A request for a file changes no record but the one kept for that file and one that it makes itself,
leaves the other files in their order, and tells the engine of no other unit. That holds in every
state, whatever the engine answers, and also where it breaks the request off: `Pool.Served`.
-/

namespace CodeSense

/-! ## Caches -/

namespace Cache

variable {c c' c₁ : Cache} {file : String} {u v : UnitRef} {r : UnitRecord}

def unitOf? (c : Cache) (file : String) : Option Handle :=
  ((c.kept.get? file).bind c.get?).map (·.handle)

theorem unitOf?_eq_some {unit : Handle} (h : c.unitOf? file = some unit) :
    ∃ u r, c.kept.get? file = some u ∧ c.get? u = some r ∧ r.handle = unit := by
  obtain ⟨r, hr, hunit⟩ := Option.map_eq_some_iff.mp h
  obtain ⟨u, hk, hr⟩ := Option.bind_eq_some_iff.mp hr
  exact ⟨u, r, hk, hr, hunit⟩

theorem unitOf?_of_get? (hk : c.kept.get? file = some u) (hr : c.get? u = some r) :
    c.unitOf? file = some r.handle := by
  simp [unitOf?, hk, hr]

/-- The record is kept for the file, or was not made yet. -/
def Own (c : Cache) (file : String) (u : UnitRef) : Prop :=
  c.kept.get? file = some u ∨ c.records.length ≤ u

/-- From `c` to `c'` no records changed but the file's own, and all other files stayed in place. -/
structure Spared (file : String) (c c' : Cache) : Prop where
  records : ∀ v, ¬ c.Own file v → c'.get? v = c.get? v
  origins : c.origins <+: c'.origins
  order : c'.kept.erase file = c.kept.erase file
  own : ∀ v, c'.Own file v → c.Own file v

theorem spared_frame (file : String) : Act.Frame (Spared file) where
  refl _ := ⟨fun _ _ => rfl, List.prefix_rfl, rfl, fun _ => id⟩
  trans h h' :=
    { records := fun v hv => (h'.records v fun hv' => hv (h.own v hv')).trans (h.records v hv)
      origins := h.origins.trans h'.origins
      order := h'.order.trans h.order
      own := fun v hv => h.own v (h'.own v hv) }

theorem Spared.beside {g : String} (h : c.Spared file c') (hg : g ≠ file) :
    c'.kept.get? g = c.kept.get? g := by
  have hget := congrArg (Keyed.get? · g) h.order
  simpa only [Keyed.get?_erase, if_neg hg] using hget

theorem get?_of_records (h : c'.records = c.records) (v : UnitRef) : c'.get? v = c.get? v := by
  unfold get?
  rw [h]

theorem origins_of_records (h : c'.records = c.records) : c'.origins = c.origins := by
  unfold Cache.origins
  rw [h]

theorem length_of_origins (h : c'.origins = c.origins) : c'.records.length = c.records.length := by
  simpa [Cache.origins] using congrArg List.length h

/-- One of the file's own records may change, and the file may be dropped. -/
theorem spared_of_own (hu : c.Own file u) (hr : ∀ v, v ≠ u → c'.get? v = c.get? v)
    (ho : c'.origins = c.origins) (hk : c'.kept = c.kept ∨ c'.kept = c.kept.erase file) :
    c.Spared file c' where
  records v hv := hr v fun e => hv (e ▸ hu)
  origins := ho ▸ List.prefix_rfl
  order := by
    rcases hk with hk | hk
    · rw [hk]
    · rw [hk]
      exact Keyed.erase_of_get?_none (by simp [Keyed.get?_erase])
  own v hv := by
    unfold Own at *
    rw [length_of_origins ho] at hv
    rcases hk with hk | hk
    · rwa [hk] at hv
    · simp only [hk, Keyed.get?_erase, if_true, reduceCtorEq, false_or] at hv
      exact .inr hv

theorem spared_of_same (hr : c'.records = c.records) (hk : c'.kept = c.kept) :
    c.Spared file c' :=
  spared_of_own (.inr (Nat.le_refl _)) (fun v _ => get?_of_records hr v) (origins_of_records hr)
    (.inl hk)

theorem Spared.origin (h : c.Spared file c') (hr : c.get? v = some r) :
    ∃ r', c'.get? v = some r' ∧ r'.origin = r.origin :=
  origin_of_prefix h.origins hr

theorem Spared.handle (h : c.Spared file c') (hr : c'.get? v = some r)
    (hv : v < c.records.length) : ∃ r₀, c.get? v = some r₀ ∧ r₀.handle = r.handle := by
  have hold : c.get? v = some c.records[v] := List.getElem?_eq_getElem hv
  obtain ⟨r', hr', horigin⟩ := h.origin hold
  cases hr.symm.trans hr'
  exact ⟨_, hold, congrArg (·.2.2) horigin.symm⟩

theorem spared_retain (hu : c.Own file u) (n : Int) : c.Spared file (c.retain u n) := by
  refine spared_of_own hu (fun v hv => ?_) (origins_retain c u n) (.inl rfl)
  rw [retain, get?_update, if_neg (Ne.symm hv)]

/-- The file's record goes, with the cache's reference to it. -/
theorem spared_giveBack (hk : c.kept.get? file = some u) (hr : c₁.records = c.records)
    (hk₁ : c₁.kept = c.kept.erase file) : c.Spared file (c₁.giveBack u) := by
  refine spared_of_own (.inl hk) (fun v hv => ?_) ?_ (.inr hk₁)
  · rw [giveBack, get?_update, if_neg (Ne.symm hv), get?_of_records hr]
  · rw [origins_giveBack, origins_of_records hr]

theorem spared_insert (hk : c.kept.get? r.file = none) : c.Spared r.file (c.insert r) where
  records v hv := by
    have hlt : v ≠ c.records.length := fun e => hv (.inr (Nat.le_of_eq e.symm))
    rw [get?_insert, if_neg hlt]
  origins := by
    rw [origins_insert]
    exact List.prefix_append ..
  order := by
    rw [kept_insert hk]
    simp [Keyed.erase]
  own v hv := by
    right
    rcases hv with hv | hv
    · rw [get?_kept_insert hk] at hv
      cases hv
      exact Nat.le_refl _
    · simp only [insert, List.length_append, List.length_singleton] at hv
      omega

end Cache

namespace Pool

open Act

variable {σ : Type} {E : Engine σ} {settings : Settings} {p p' q : Pool (Traced σ)} {file : String}
  {flags : List String} {overlays : List Overlay} {u : UnitRef}

/-! ## Frames -/

def Brings (p p' : Pool (Traced σ)) (unit : Handle) : Prop :=
  ∃ new, p'.calls = p.calls ++ new ∧ unit ∈ Trace.unitsMade new

theorem Grows.brings_after {K : Request → Prop} {unit : Handle} (h : Grows K p q)
    (hunit : Brings q p' unit) : Brings p p' unit := by
  obtain ⟨new, hq, -⟩ := h
  obtain ⟨new', hp', hunit⟩ := hunit
  refine ⟨new ++ new', by rw [hp', hq, List.append_assoc], ?_⟩
  rw [Trace.unitsMade_append]
  exact List.mem_append_right _ hunit

theorem Grows.brings_before {K : Request → Prop} {unit : Handle} (h : Grows K q p')
    (hunit : Brings p q unit) : Brings p p' unit := by
  obtain ⟨new', hp', -⟩ := h
  obtain ⟨new, hq, hunit⟩ := hunit
  refine ⟨new ++ new', by rw [hp', hq, List.append_assoc], ?_⟩
  rw [Trace.unitsMade_append]
  exact List.mem_append_left _ hunit

/-- The request names no unit but the file's own and those that came since, and no result set. -/
def About (file : String) (p p' : Pool (Traced σ)) (r : Request) : Prop :=
  r.set? = none ∧
    ∀ unit, r.unit? = some unit → p.cache.unitOf? file = some unit ∨ Brings p p' unit

structure Spares (file : String) (p p' : Pool (Traced σ)) : Prop where
  cache : p.cache.Spared file p'.cache
  calls : Grows (About file p p') p p'
  fresh : ∀ v r, p'.cache.get? v = some r → p.cache.records.length ≤ v → Brings p p' r.handle

theorem Spares.unitOf? {unit : Handle} (h : Spares file p q)
    (hunit : q.cache.unitOf? file = some unit) :
    p.cache.unitOf? file = some unit ∨ Brings p q unit := by
  obtain ⟨u, r, hk, hr, rfl⟩ := Cache.unitOf?_eq_some hunit
  rcases Nat.lt_or_ge u p.cache.records.length with hu | hu
  · obtain ⟨r₀, hr₀, hsame⟩ := h.cache.handle hr hu
    have hk₀ : p.cache.kept.get? file = some u :=
      (h.cache.own u (.inl hk)).resolve_right (Nat.not_le_of_lt hu)
    rw [← hsame]
    exact .inl (Cache.unitOf?_of_get? hk₀ hr₀)
  · exact .inr (h.fresh u r hr hu)

theorem spares_frame (file : String) : Frame (Spares file (σ := σ)) where
  refl p :=
    { cache := (Cache.spared_frame file).refl _
      calls := grows_frame.refl p
      fresh := fun v r hr hv => absurd (List.getElem?_eq_some_iff.mp hr).1 (Nat.not_lt_of_le hv) }
  trans := by
    intro p q t h h'
    refine ⟨(Cache.spared_frame file).trans h.cache h'.cache, ?_, fun v r hr hv => ?_⟩
    · have hbefore : Grows (About file p t) p q :=
        h.calls.mono fun r hr => ⟨hr.1, fun unit hunit =>
          (hr.2 unit hunit).imp id h'.calls.brings_before⟩
      have hafter : Grows (About file p t) q t := by
        refine h'.calls.mono fun r hr => ⟨hr.1, fun unit hunit => ?_⟩
        -- what is the file's own in `q` was so in `p`, or came in between
        rcases hr.2 unit hunit with hown | hnew
        · exact (h.unitOf? hown).imp id h'.calls.brings_before
        · exact .inr (h.calls.brings_after hnew)
      exact grows_frame.trans hbefore hafter
    · rcases Nat.lt_or_ge v q.cache.records.length with hlt | hge
      · obtain ⟨r₀, hr₀, hsame⟩ := h'.cache.handle hr hlt
        rw [← hsame]
        exact h'.calls.brings_before (h.fresh v r₀ hr₀ hv)
      · exact h.calls.brings_after (h'.fresh v r hr hge)

structure Quiet (file : String) (p p' : Pool (Traced σ)) : Prop extends Spares file p p' where
  length : p'.cache.records.length = p.cache.records.length
  evictions : p'.cache.stats.evictions = p.cache.stats.evictions

theorem quiet_frame (file : String) : Frame (Quiet file (σ := σ)) where
  refl p := ⟨(spares_frame file).refl p, rfl, rfl⟩
  trans h h' := ⟨(spares_frame file).trans h.toSpares h'.toSpares, h'.length.trans h.length,
    h'.evictions.trans h.evictions⟩

theorem spares_of_length (hcache : p.cache.Spared file p'.cache)
    (hlength : p'.cache.records.length = p.cache.records.length)
    (hcalls : Grows (About file p p') p p') : Spares file p p' :=
  ⟨hcache, hcalls, fun _ _ hr hv =>
    absurd (List.getElem?_eq_some_iff.mp hr).1 (Nat.not_lt_of_le (hlength ▸ hv))⟩

theorem quiet_of_same (hr : p'.cache.records = p.cache.records)
    (hk : p'.cache.kept = p.cache.kept)
    (he : p'.cache.stats.evictions = p.cache.stats.evictions)
    (hcalls : Grows (About file p p') p p') : Quiet file p p' :=
  ⟨spares_of_length (Cache.spared_of_same hr hk) (by rw [hr]) hcalls, by rw [hr], he⟩

theorem about_of_unit?_none {r : Request} (hset : r.set? = none) (hunit : r.unit? = none) :
    About file p p' r :=
  ⟨hset, by simp [hunit]⟩

theorem about_of_kept {r : Request} {x : UnitRecord} (hk : p.cache.kept.get? file = some u)
    (hx : p.cache.get? u = some x) (hset : r.set? = none) (hunit : r.unit? = some x.handle) :
    About file p p' r := by
  refine ⟨hset, fun unit h => .inl ?_⟩
  cases hunit.symm.trans h
  exact Cache.unitOf?_of_get? hk hx

theorem quiet_of_called {x : Call} (hc : Called E x p p') (hx : About file p p' x.request) :
    Quiet file p p' :=
  quiet_of_same (by rw [hc.cache]) (by rw [hc.cache]) (by rw [hc.cache]) (grows_snoc hc.calls hx)

/-- The file's unit was dropped in `q`, and then the reference to it was given back. -/
theorem Released.spares {o : Except Fault Unit} (h : Released u q o p') (hk : p.cache.kept.get? file = some u)
    (hr : q.cache.records = p.cache.records) (hkept : q.cache.kept = p.cache.kept.erase file)
    (hcalls : q.calls = p.calls) : Spares file p p' := by
  obtain ⟨new, hnew, hrequests, -⟩ := h.calls
  refine spares_of_length ?_ ?_ ⟨new, by rw [hnew, hcalls], fun x hx => ?_⟩
  · rw [h.cache]
    exact Cache.spared_giveBack hk hr hkept
  · rw [h.cache, Cache.length_giveBack, hr]
  · have hx := hrequests ▸ List.mem_map_of_mem (f := Call.request) hx
    unfold Cache.lastOut at hx
    rw [Cache.get?_of_records hr] at hx
    split at hx
    · cases hx
    · rename_i r hget
      split at hx
      · rw [List.mem_singleton.mp hx]
        exact about_of_kept hk hget rfl rfl
      · cases hx

/-! ## Operations -/

theorem Dropped.quiet {o : Except Fault Unit} (h : Dropped file p o p') : Quiet file p p' := by
  cases h with
  | nothing => exact (quiet_frame file).refl p
  | unit hk h =>
    refine ⟨h.spares hk rfl rfl rfl, ?_, ?_⟩
    · rw [h.cache, Cache.length_giveBack]
      rfl
    · rw [h.cache]
      rfl

theorem Refreshed.quiet {o : Except Fault Unit} (h : Refreshed E file overlays u p o p')
    (hk : p.cache.kept.get? file = some u) : Quiet file p p' := by
  have hreparse {r : UnitRecord} {reply : Reply Int} {q : Pool (Traced σ)}
      (hr : p.cache.get? u = some r) (hc : Called E ⟨.reparse r.handle overlays, reply⟩ p q) :
      Quiet file p q :=
    quiet_of_called hc (about_of_kept hk hr rfl rfl)
  cases h with
  | absent => exact (quiet_frame file).refl p
  | current hr _ hc => exact hreparse hr hc
  | broken hr _ hc => exact hreparse hr hc
  | unlogged hr _ _ _ _ hc => exact hreparse hr hc
  | dropped hr _ _ hc hd => exact (quiet_frame file).trans (hreparse hr hc) hd.quiet

/-- Attempts to parse only find out what they hand on. -/
theorem Tried.quiet {left : Nat} {o : Except Fault (Int × Option Handle)}
    (h : Tried E settings file flags overlays left p o p') :
    Quiet file p p' ∧ ∀ handle, decided file o = .ok handle → Brings p p' handle := by
  obtain ⟨new, hcalls, -, htries, hcache⟩ := h.calls
  refine ⟨?_, fun handle ho => ⟨new, hcalls, ?_⟩⟩
  · refine quiet_of_same (by rw [hcache]; rfl) (by rw [hcache]; rfl) (by rw [hcache]; rfl)
      ⟨new, hcalls, fun x hx => ?_⟩
    rcases htries.mem x hx with hx | hx <;> rw [hx] <;> exact about_of_unit?_none rfl rfl
  · rw [Trace.unitsMade, htries.parsed, ho]
    exact List.mem_singleton.mpr rfl

/-! ## Requests -/

/-- A request was served, or not: it made at most one record, and evicted nothing if nothing was
kept. -/
structure Served (file : String) (p p' : Pool (Traced σ)) : Prop extends Spares file p p' where
  length : p'.cache.records.length ≤ p.cache.records.length + 1
  evictions : p.cache.kept.get? file = none →
    p'.cache.stats.evictions = p.cache.stats.evictions

theorem Quiet.served (h : Quiet file p p') : Served file p p' :=
  ⟨h.toSpares, h.length ▸ Nat.le_succ _, fun _ => h.evictions⟩

theorem Served.trans_quiet (h : Served file p q) (h' : Quiet file q p') : Served file p p' :=
  ⟨(spares_frame file).trans h.toSpares h'.toSpares, h'.length ▸ h.length,
    fun hk => h'.evictions.trans (h.evictions hk)⟩

theorem Found.served {o : Except Fault (Option UnitRef)} (h : Found file flags p o q)
    (h' : Served file q p') : Served file p p' := by
  cases h with
  | kept => exact h'
  | missing => exact h'
  | evicted hk _ h =>
    refine ⟨(spares_frame file).trans (Released.spares h hk rfl rfl rfl) h'.toSpares, ?_,
      fun hnone => ?_⟩
    · refine Nat.le_trans h'.length (Nat.le_of_eq ?_)
      rw [h.cache, Cache.length_giveBack]
      rfl
    · rw [hk] at hnone
      cases hnone

theorem served_insert {handle : Handle} (h : Quiet file p q) (hunit : Brings p q handle)
    (hk : q.cache.kept.get? file = none) :
    Served file p { q with cache := q.cache.insert { file, flags, handle } } where
  cache := (Cache.spared_frame file).trans h.cache
    (Cache.spared_insert (r := { file, flags, handle }) hk)
  calls := h.calls
  fresh v r hr hv := by
    rw [Cache.get?_insert] at hr
    split at hr
    · cases hr
      exact hunit
    · exact h.fresh v r hr hv
  length := by simp [Cache.insert, h.length]
  evictions _ := h.evictions

theorem quiet_countHit (p : Pool (Traced σ)) :
    Quiet file p { p with cache := p.cache.countHit } :=
  quiet_of_same rfl rfl rfl (grows_of_calls_eq rfl)

theorem quiet_retain (hk : p.cache.kept.get? file = some u) (n : Int) :
    Quiet file p { p with cache := p.cache.retain u n } :=
  ⟨spares_of_length (Cache.spared_retain (.inl hk) n) (List.length_modify ..)
    (grows_of_calls_eq rfl), List.length_modify .., rfl⟩

/-- A kept unit was taken, or the lookup found nothing and the rest went on from there. -/
theorem Located.found {o : Except Fault UnitRef}
    (h : Located E settings file flags overlays p o p') :
    (∃ u r, o = .ok u ∧ p.cache.kept.get? file = some u ∧ p.cache.get? u = some r ∧
      r.flags = flags ∧ p' = { p with cache := p.cache.countHit }) ∨
    ∃ o' q, Found file flags p o' q ∧ Served file q p' ∧
      ∀ u, o = .ok u → p'.cache.kept.get? file = some u := by
  have hmiss (q : Pool (Traced σ)) : Quiet file q { q with cache := q.cache.countMiss } :=
    quiet_of_same rfl rfl rfl (grows_of_calls_eq rfl)
  cases h with
  | hit hk hr hflags => exact .inl ⟨_, _, rfl, hk, hr, hflags, rfl⟩
  | stuck h => exact .inr ⟨_, _, h, ((quiet_frame file).refl _).served, nofun⟩
  | @missed q _ _ _ h ht ho =>
    exact .inr ⟨_, _, h, ((quiet_frame file).trans (hmiss q) ht.quiet.1).served, nofun⟩
  | @added q p₁ _ handle h ht ho hk =>
    have hquiet := (quiet_frame file).trans (hmiss q) ht.quiet.1
    have hbrings : Brings q p₁ handle := ht.quiet.2 handle ho
    refine .inr ⟨_, _, h, served_insert hquiet hbrings hk, fun u hu => ?_⟩
    cases hu
    exact Cache.get?_kept_insert hk

theorem Located.served {o : Except Fault UnitRef}
    (h : Located E settings file flags overlays p o p') :
    Served file p p' ∧ ∀ u, o = .ok u → p'.cache.kept.get? file = some u := by
  rcases h.found with ⟨u, r, rfl, hk, -, -, rfl⟩ | ⟨o', q, hfound, hserved, hkept⟩
  · refine ⟨(quiet_countHit p).served, fun v hv => ?_⟩
    cases hv
    exact hk
  · exact ⟨hfound.served hserved, hkept⟩

/-- What a request does to its file's unit once that is found. -/
theorem Parsed.located {o : Except Fault UnitRef}
    (h : Parsed E settings file flags overlays p o p') :
    ∃ o' q, Located E settings file flags overlays p o' q ∧ Quiet file q p' := by
  cases h with
  | unlocated h => exact ⟨_, _, h, (quiet_frame file).refl _⟩
  | stale h hr => exact ⟨_, _, h, hr.quiet (h.served.2 _ rfl)⟩
  | fresh h hr =>
    have hkept := h.served.2 _ rfl
    refine ⟨_, _, h, (quiet_frame file).trans (hr.quiet hkept) (quiet_retain ?_ 1)⟩
    rw [hr.cache_of_ok]
    exact hkept

theorem Parsed.served {o : Except Fault UnitRef}
    (h : Parsed E settings file flags overlays p o p') : Served file p p' := by
  obtain ⟨o', q, hlocated, hquiet⟩ := h.located
  exact hlocated.served.1.trans_quiet hquiet

theorem parse_served : Moves (Served file) (parse E.traced settings file flags overlays) := by
  refine .of_ends fun p => ?_
  exact (parse_parsed p).mono (fun _ _ h => h.served) fun _ _ h => h.served

theorem obtain_served : Moves (Served file) (obtain E.traced settings file flags overlays) := by
  intro p
  obtain ⟨u, r, hk, hr, hflags, hobtain⟩ | ⟨-, hobtain⟩ :=
    obtain_cases E settings file flags overlays p
  · rw [hobtain]
    exact (quiet_countHit p).served.trans_quiet
      (quiet_retain (p := { p with cache := p.cache.countHit }) hk 1)
  · rw [hobtain]
    exact parse_served p

end Pool

end CodeSense
