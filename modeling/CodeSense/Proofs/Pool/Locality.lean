import CodeSense.Proofs.Pool.Client
import CodeSense.Proofs.Pool.Footprint

/-!
# Local requests

After any history a request stays within the footprint of its file. If there is no unit to be had,
nothing is left behind: `requests_local`.
-/

namespace CodeSense

theorem Pool.serve_served {σ : Type} {E : Engine σ} {settings : Settings} {file : String}
    {flags : List String} {overlays : List Overlay} (demand : Demand) :
    Act.Moves (Served file) (serve E.traced settings demand file flags overlays) := by
  cases demand with
  | parse => exact parse_served
  | obtain => exact obtain_served

namespace Client

variable {σ : Type} {c c' : Cache} {calls new : List Call} {held held' : List UnitRef}
  {file : String} {u : UnitRef} {r : UnitRecord}

/-- Beside the file `c'` is like `c`, and the calls `new` name no unit but the file's own one and
the one that they brought. -/
structure Local (file : String) (c c' : Cache) (new : List Call) : Prop where
  records : ∀ u r, c.get? u = some r → c.kept.get? file ≠ some u →
    c'.get? u = some r ∧ ∀ g, c'.kept.get? g = some u ↔ c.kept.get? g = some u
  order : c'.kept.erase file = c.kept.erase file
  sets : ∀ x ∈ new, x.request.set? = none
  units : ∀ x ∈ new, ∀ unit, x.request.unit? = some unit →
    c.unitOf? file = some unit ∨ unit ∈ Trace.unitsMade new
  oneUnit : (Trace.unitsMade new).length ≤ 1

/-- Nothing is left of the file: the cache gave back its reference to the old record, and what the
calls `new` brought was disposed of. -/
structure Cleared (file : String) (c c' : Cache) (new : List Call) : Prop where
  gone : c'.kept.get? file = none
  lost : ∀ u r, c.kept.get? file = some u → c.get? u = some r →
    c'.get? u = some { r with refCount := r.refCount - 1, released := r.refCount = 1 }
  disposed : ∀ unit ∈ Trace.unitsMade new, unit ∈ Trace.unitsDisposed new

theorem length_unitsMade (hb : Balanced c calls held) (hb' : Balanced c' (calls ++ new) held') :
    c'.records.length = c.records.length + (Trace.unitsMade new).length := by
  have hmade := congrArg List.length hb'.unitsMade_eq
  rw [Trace.unitsMade_append, hb.unitsMade_eq] at hmade
  simpa using hmade.symm

theorem local_of_served {p p' : Pool (Traced σ)} (h : Pool.Served file p p')
    (hcalls : p'.calls = p.calls ++ new) (hb : Balanced p.cache p.calls held)
    (hb' : Balanced p'.cache p'.calls held') : Local file p.cache p'.cache new := by
  have habout : ∀ x ∈ new, Pool.About file p p' x.request := by
    obtain ⟨new', hnew', habout⟩ := h.calls
    rwa [List.append_cancel_left (hcalls.symm.trans hnew')]
  refine ⟨fun v r hr hv => ?_, h.cache.order, fun x hx => (habout x hx).1,
    fun x hx unit hunit => ((habout x hx).2 unit hunit).imp id ?_, ?_⟩
  · have hlt : v < p.cache.records.length := (List.getElem?_eq_some_iff.mp hr).1
    have hown : ¬ p.cache.Own file v := not_or.mpr ⟨hv, Nat.not_le_of_lt hlt⟩
    refine ⟨(h.cache.records v hown).trans hr, fun g => ?_⟩
    by_cases hg : g = file
    · subst hg
      exact ⟨fun hk => absurd (h.cache.own v (.inl hk)) hown, fun hk => absurd hk hv⟩
    · rw [h.cache.beside hg]
  · intro hbrings
    obtain ⟨new', hnew', hunit⟩ := hbrings
    rwa [List.append_cancel_left (hcalls.symm.trans hnew')]
  · have hlength := h.length
    rw [length_unitsMade hb (hcalls ▸ hb')] at hlength
    omega

/-- Two caches with the same holders, of which only the first keeps the record for the file. -/
theorem lost_of_gone (hb : Balanced c calls held) (hb' : Balanced c' (calls ++ new) held)
    (hs : c.Spared file c') (hgone : c'.kept.get? file = none)
    (hk : c.kept.get? file = some u) (hr : c.get? u = some r) :
    c'.get? u = some { r with refCount := r.refCount - 1, released := r.refCount = 1 } := by
  obtain ⟨r', hr', horigin⟩ := hs.origin hr
  have hfile : r.file = file := by
    obtain ⟨r₀, hr₀, hfile⟩ := hb.filed.file file u (Keyed.mem_of_get? hk)
    cases hr.symm.trans hr₀
    exact hfile
  have hfile' : r'.file = file := (congrArg Prod.fst horigin).trans hfile
  have hcount := hb.refCount_eq hr
  have hcount' := hb'.refCount_eq hr'
  rw [hfile, if_pos hk] at hcount
  rw [hfile', hgone, if_neg (by simp)] at hcount'
  have hrefs : r'.refCount = r.refCount - 1 := by omega
  have hreleased : r'.released = decide (r.refCount = 1) := by
    rw [Bool.eq_iff_iff, hb'.counted.released u r' hr', decide_eq_true_iff]
    omega
  exact hr'.trans (congrArg some (UnitRecord.eq_of_origin horigin hrefs hreleased))

/-- A record made since is out of use if nobody got a reference to it and the cache has none. -/
theorem disposed_of_gone (hb : Balanced c calls held) (hb' : Balanced c' (calls ++ new) held)
    (hs : c.Spared file c') (hgone : c'.kept.get? file = none)
    (hn : (Trace.unitsMade (calls ++ new)).Nodup) {unit : Handle}
    (hunit : unit ∈ Trace.unitsMade new) : unit ∈ Trace.unitsDisposed new := by
  have hmade : c'.records.map (·.handle) = c.records.map (·.handle) ++ Trace.unitsMade new := by
    rw [← hb'.unitsMade_eq, Trace.unitsMade_append, hb.unitsMade_eq]
  obtain ⟨v, r, hv, hr, rfl⟩ : ∃ v r, c.records.length ≤ v ∧ c'.get? v = some r ∧
      r.handle = unit := by
    obtain ⟨i, hi⟩ := List.mem_iff_getElem?.mp hunit
    have hrecord : (c'.records.map (·.handle))[c.records.length + i]? = some unit := by
      rw [hmade, List.getElem?_append_right (by simp)]
      simpa using hi
    rw [List.getElem?_map] at hrecord
    obtain ⟨r, hr, hhandle⟩ := Option.map_eq_some_iff.mp hrecord
    exact ⟨_, r, Nat.le_add_right .., hr, hhandle⟩
  have hold : v ∉ held ++ c.keptRefs := fun hm =>
    Nat.not_lt_of_le hv (hb.counted.valid v hm)
  have hkept : c'.kept.get? r.file ≠ some v := by
    intro hk
    by_cases hfile : r.file = file
    · rw [hfile, hgone] at hk
      cases hk
    · rw [hs.beside hfile] at hk
      exact hold (List.mem_append_right _ (Cache.mem_keptRefs hk))
  have hzero : r.refCount = 0 := by
    have hheld : held.count v = 0 :=
      List.count_eq_zero.mpr fun hm => hold (List.mem_append_left _ hm)
    rw [hb'.refCount_eq hr, hheld, if_neg hkept]
    rfl
  have hdisposed : r.handle ∈ Trace.unitsDisposed (calls ++ new) := by
    by_contra hout
    have hlive : Trace.LiveUnit (calls ++ new) r.handle :=
      ⟨Trace.unitsMade_append .. ▸ List.mem_append_right _ hunit, hout⟩
    rw [hb'.liveUnit_iff hn hr, ((hb'.counted.released v r hr).mpr hzero)] at hlive
    cases hlive
  rw [Trace.unitsDisposed_append] at hdisposed
  refine (List.mem_append.mp hdisposed).resolve_left fun hbefore => ?_
  -- the calls before disposed only of units that they had brought
  rw [Trace.unitsMade_append] at hn
  refine List.disjoint_of_nodup_append hn ?_ hunit
  rw [hb.disposed.mem_iff] at hbefore
  obtain ⟨r₀, hr₀, hhandle⟩ := List.mem_filterMap.mp hbefore
  rw [hb.unitsMade_eq]
  split at hhandle
  · exact List.mem_map.mpr ⟨r₀, hr₀, Option.some.inj hhandle⟩
  · cases hhandle

variable (E : Engine σ) (settings : Settings)

/-- **Requests are local, and fail cleanly.** After any history a request leaves all records alone
but the one kept for its file. If the engine answers and never hands out a handle twice, a request
for which there is no unit leaves nothing behind. -/
theorem requests_local (state : σ) (journal : Journal) (errands : List Errand) (demand : Demand)
    (file : String) (flags : List String) (overlays : List Overlay) :
    let c := run E.traced settings (opened state journal) errands
    let request := perform E.traced settings (.request demand file flags overlays) c
    ∃ new, request.2.pool.calls = c.pool.calls ++ new ∧
      Local file c.pool.cache request.2.pool.cache new ∧
      (Trace.Answered request.2.pool.calls → (Trace.unitsMade request.2.pool.calls).Nodup →
        ∀ f, request.1 = .error (.parseFailed f) →
          Cleared file c.pool.cache request.2.pool.cache new) := by
  intro c request
  have hsound : c.Sound := sound_run E settings (sound_opened state journal) errands
  have hb := hsound.balanced
  have hends := ends_request E settings hb demand file flags overlays
  have hpool : request.2.pool =
      (Pool.serve E.traced settings demand file flags overlays c.pool).2 :=
    request_pool E settings c demand file flags overlays
  have hserved : Pool.Served file c.pool request.2.pool := by
    rw [hpool]
    exact Pool.serve_served demand c.pool
  have hb' : Balanced request.2.pool.cache request.2.pool.calls request.2.held :=
    (sound_step E settings hsound (.request demand file flags overlays)).balanced
  obtain ⟨new, hcalls, -⟩ := hserved.calls
  refine ⟨new, hcalls, local_of_served hserved hcalls hb hb', fun ha hn f hf => ?_⟩
  obtain ⟨-, hdenied⟩ := hends.of_error hf
  have hgone : request.2.pool.cache.kept.get? file = none := by
    rcases hdenied.cause with hbreaks | ⟨-, hgone⟩ | ⟨hlost, -⟩
    · exact absurd ha (Trace.not_answered_of_failed hbreaks.failed)
    · exact hgone
    · cases hlost
  have hbalanced := hdenied.balanced
  rw [hcalls] at hbalanced hn
  exact ⟨hgone, fun u r => lost_of_gone hb hbalanced hserved.cache hgone,
    fun unit => disposed_of_gone hb hbalanced hserved.cache hgone hn⟩

/-- A unit that is still held is evicted, and there is no other to be had for the new flags. -/
theorem requests_local_failed :
    let c := run Script.engine.traced {} (opened { reparses := [0, 0, 4] } {})
      [.request .parse "a" [] [], .request .parse "b" [] []]
    let request := perform Script.engine.traced {} (.request .obtain "a" ["-x"] []) c
    request.2.pool.cache.records.map (·.refCount) = [1, 2, 0] ∧
      ∃ new, request.2.pool.calls = c.pool.calls ++ new ∧
        Local "a" c.pool.cache request.2.pool.cache new ∧
        Cleared "a" c.pool.cache request.2.pool.cache new := by
  intro c request
  obtain ⟨new, hcalls, hlocal, hcleared⟩ := requests_local Script.engine {}
    { reparses := [0, 0, 4] } {} [.request .parse "a" [] [], .request .parse "b" [] []] .obtain "a"
    ["-x"] []
  exact ⟨by decide +kernel, new, hcalls, hlocal, hcleared (by decide +kernel) (by decide +kernel)
    { file := "a", code := 4, reason := "reparse" } (by decide +kernel)⟩

end Client

end CodeSense
