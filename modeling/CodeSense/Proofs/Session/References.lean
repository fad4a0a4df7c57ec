import CodeSense.Engine.Script
import CodeSense.Proofs.Session.Sound

/-!
# The references of a session

After any operations, whatever calls the engine broke off, the units that are out are those in
the cache, and each has the cache's reference and at most the session's own:
`references_exact`.
-/

namespace CodeSense.Session

variable {σ : Type} {E : Engine σ} {s : Session (Traced σ)} {u : UnitRef} {r : UnitRecord}

theorem Sound.mem_keptRefs (h : s.Sound) (hu : u ∈ s.activeParse.toList ++ s.pool.cache.keptRefs) :
    u ∈ s.pool.cache.keptRefs := by
  rcases List.mem_append.mp hu with hu | hu
  · exact h.kept u (Option.mem_toList.mp hu)
  · exact hu

theorem Sound.kept_iff (h : s.Sound) (hr : s.pool.cache.get? u = some r) :
    s.pool.cache.kept.get? r.file = some u ↔ r.released = false := by
  constructor
  · intro hk
    exact h.balanced.counted.not_released hr (Balanced.mem_refs_of_kept hk)
  · intro hrel
    have hpos : (s.activeParse.toList ++ s.pool.cache.keptRefs).count u ≠ 0 := by
      intro hzero
      have hcount := h.balanced.counted.count u r hr
      rw [hzero] at hcount
      rw [(h.balanced.counted.released u r hr).mpr hcount] at hrel
      cases hrel
    have hmem := h.mem_keptRefs (List.count_pos_iff.mp (Nat.pos_of_ne_zero hpos))
    obtain ⟨⟨file, v⟩, hk, rfl⟩ := List.mem_map.mp hmem
    obtain ⟨r', hr', rfl⟩ := h.balanced.filed.file file v hk
    rw [show r' = r from Option.some.inj (hr'.symm.trans hr)] at hk
    exact (Keyed.get?_eq_some_iff h.balanced.filed.keys).mpr hk

theorem Sound.refCount (h : s.Sound) (hr : s.pool.cache.get? u = some r)
    (hk : s.pool.cache.kept.get? r.file = some u) :
    r.refCount = 1 + if s.activeParse = some u then 1 else 0 := by
  rw [h.balanced.counted.count u r hr, List.count_append,
    Cache.count_keptRefs h.balanced.filed hr, if_pos hk]
  cases hactive : s.activeParse with
  | none => rfl
  | some v =>
    by_cases hv : v = u
    · simp [hv]
    · simp [hv]

theorem Sound.liveUnit_iff (h : s.Sound) (hn : (Trace.unitsMade s.calls).Nodup)
    (hr : s.pool.cache.get? u = some r) :
    Trace.LiveUnit s.calls r.handle ↔ s.pool.cache.kept.get? r.file = some u :=
  (h.balanced.liveUnit_iff hn hr).trans (h.kept_iff hr).symm

theorem Sound.liveUnit_iff_mem_units (h : s.Sound) (hn : (Trace.unitsMade s.calls).Nodup)
    (unit : Handle) :
    Trace.LiveUnit s.calls unit ↔ unit ∈ s.pool.cache.units.map (·.handle) := by
  constructor
  · intro hl
    obtain ⟨origin, ho, rfl⟩ := List.mem_map.mp hl.1
    obtain ⟨u, r, hr, rfl⟩ := h.balanced.exists_record ho
    have hk := (h.liveUnit_iff hn hr).mp hl
    exact List.mem_map.mpr ⟨r, List.mem_filterMap.mpr ⟨_, Keyed.mem_of_get? hk, hr⟩, rfl⟩
  · intro hu
    obtain ⟨r, hmem, rfl⟩ := List.mem_map.mp hu
    obtain ⟨⟨file, u⟩, hk, hr⟩ := List.mem_filterMap.mp hmem
    have hk := (Keyed.get?_eq_some_iff h.balanced.filed.keys).mpr hk
    refine (h.balanced.liveUnit_iff hn hr).mpr ?_
    exact h.balanced.counted.not_released hr (Balanced.mem_refs_of_kept hk)

structure Referenced (s : Session (Traced σ)) : Prop where
  cached : ∀ file u, (file, u) ∈ s.pool.cache.kept → ∃ r, s.pool.cache.get? u = some r ∧
    r.file = file ∧ r.released = false ∧ r.refCount = 1 + if s.activeParse = some u then 1 else 0
  cachedOnce : (s.pool.cache.kept.map Prod.fst).Nodup
  active : ∀ u, s.activeParse = some u → ∃ r, s.pool.cache.get? u = some r ∧
    s.pool.cache.kept.get? r.file = some u
  exclusive : s.activeParse = none ∨ s.activeCompletion = none
  live : ∀ unit, Trace.LiveUnit s.calls unit ↔ unit ∈ s.pool.cache.units.map (·.handle)
  liveOnce : ∀ file flags flags' unit unit', (file, flags, unit) ∈ Trace.parsed s.calls →
    (file, flags', unit') ∈ Trace.parsed s.calls →
    Trace.LiveUnit s.calls unit → Trace.LiveUnit s.calls unit' → unit = unit'

theorem Sound.referenced (h : s.Sound) (hn : (Trace.unitsMade s.calls).Nodup) : s.Referenced where
  cached file u hu := by
    obtain ⟨r, hr, rfl⟩ := h.balanced.filed.file file u hu
    have hk := (Keyed.get?_eq_some_iff h.balanced.filed.keys).mpr hu
    exact ⟨r, hr, rfl, (h.kept_iff hr).mp hk, h.refCount hr hk⟩
  cachedOnce := h.balanced.filed.keys
  active u hu := by
    obtain ⟨⟨file, v⟩, hk, rfl⟩ := List.mem_map.mp (h.kept u hu)
    obtain ⟨r, hr, rfl⟩ := h.balanced.filed.file file v hk
    exact ⟨r, hr, (Keyed.get?_eq_some_iff h.balanced.filed.keys).mpr hk⟩
  exclusive := h.exclusive
  live := h.liveUnit_iff_mem_units hn
  liveOnce file flags flags' unit unit' ho ho' hl hl' := by
    obtain ⟨u, r, hr, horigin⟩ := h.balanced.exists_record ho
    obtain ⟨u', r', hr', horigin'⟩ := h.balanced.exists_record ho'
    cases horigin
    obtain ⟨hfile, -, rfl⟩ : r'.file = r.file ∧ r'.flags = flags' ∧ r'.handle = unit' := by
      simpa [UnitRecord.origin] using horigin'
    -- both records are the one that is kept for the file
    have hk := (h.liveUnit_iff hn hr).mp hl
    have hk' := (h.liveUnit_iff hn hr').mp hl'
    rw [hfile, hk] at hk'
    cases hk'
    rw [hr] at hr'
    cases hr'
    rfl

/-- **References are exact.** After any operations over an engine that breaks off any calls with
any faults, and never hands out a handle twice. What stops the next operation is no miscount
either, unless the engine came up with it in this operation or with the results at hand. -/
theorem references_exact (state : σ) (settings : Settings) (journal : Journal)
    (moves : List (FileSystem × Operation))
    (hn : (Trace.unitsMade (run E.traced (opened state settings journal) moves).calls).Nodup) :
    (run E.traced (opened state settings journal) moves).Referenced ∧
      ∀ files op e,
        (perform E.traced op { run E.traced (opened state settings journal) moves with files }).1 =
          .error e → e.isMiscount = true →
        Raises (run E.traced (opened state settings journal) moves)
          (step E.traced (run E.traced (opened state settings journal) moves) (files, op)) e := by
  have hs := sound_run (E := E) (sound_opened state settings journal) moves
  refine ⟨hs.referenced hn, fun files op e he hm => ?_⟩
  refine ((ends_perform (hs.withFiles files) op).of_error he).raises ?_
  cases e <;> first | rfl | cases hm

/-- The engine breaks off an eviction, a completion and the disposal of a result set. -/
theorem references_exact_broken_off :
    let s := run Script.engine.traced (opened
        { traps := [(.disposeUnit, { fault := .engine .runtime "lost" }),
            (.codeComplete, { fault := .engine .system "busy" }),
            (.disposeCompletion, { fault := .engine .value "stale" })] } {} {})
      [({}, .parse "a" []), ({}, .parse "a" ["-x"]), ({}, .complete "b" 1 1 []),
        ({}, .complete "a" 2 1 ["-x"]), ({}, .parse "b" []), ({}, .parse "b" [])]
    s.Referenced ∧ s.activeParse = some 1 ∧ s.pool.cache.units.map (·.refCount) = [2, 1] :=
  ⟨(references_exact _ _ _ _ (by decide +kernel)).1, by decide +kernel, by decide +kernel⟩

end CodeSense.Session
