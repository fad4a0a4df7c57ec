import CodeSense.Engine.Script
import CodeSense.Proofs.Pool.Footprint

/-!
# Obtaining and parsing

Where no fitting unit is kept, `obtain` looks the file up and goes on with `parse`, which looks it
up again. The first lookup leaves nothing to be found, so the second one changes nothing, and the
two operations are the same. A unit that does fit is handed out as it is: `obtain_against_parse`.
-/

namespace CodeSense

theorem Request.unit?_of_unitDisposed? {r : Request} {unit : Handle}
    (h : r.unitDisposed? = some unit) : r.unit? = some unit := by
  cases r with
  | disposeUnit => exact h
  | _ => cases h

theorem Trace.unitsDisposed_eq (calls : List Call) :
    unitsDisposed calls = (calls.map (·.request)).filterMap Request.unitDisposed? := by
  rw [List.filterMap_map]
  rfl

namespace Pool

open Act

variable {σ : Type} {E : Engine σ} {settings : Settings} {p p' q : Pool (Traced σ)} {file : String}
  {flags : List String} {overlays : List Overlay} {u : UnitRef} {r : UnitRecord}

/-! ## Misses -/

structure EvictedOnce (u : UnitRef) (r : UnitRecord) (p p' : Pool (Traced σ)) : Prop where
  counted : p'.cache.stats.evictions = p.cache.stats.evictions + 1
  lost : p'.cache.get? u =
    some { r with refCount := r.refCount - 1, released := r.released || r.refCount == 1 }
  disposed : ∃ new, p'.calls = p.calls ++ new ∧ (r.handle ∉ Trace.unitsMade new →
    (Trace.unitsDisposed new).count r.handle =
      if r.refCount = 1 ∧ r.released = false then 1 else 0)

/-- What the engine gets back from a request for a file of which nothing is kept came during it. -/
theorem Served.disposed {new : List Call} {unit : Handle} (h : Served file p p')
    (hk : p.cache.kept.get? file = none) (hcalls : p'.calls = p.calls ++ new)
    (hunit : unit ∈ Trace.unitsDisposed new) : unit ∈ Trace.unitsMade new := by
  obtain ⟨x, hx, hdisposed⟩ := List.mem_filterMap.mp hunit
  obtain ⟨new', hnew', habout⟩ := h.calls
  cases List.append_cancel_left (hcalls.symm.trans hnew')
  rcases (habout x hx).2 unit (Request.unit?_of_unitDisposed? hdisposed) with hown | hbrings
  · obtain ⟨v, -, hv, -⟩ := Cache.unitOf?_eq_some hown
    rw [hk] at hv
    cases hv
  · obtain ⟨new', hnew', hmade⟩ := hbrings
    rwa [List.append_cancel_left (hcalls.symm.trans hnew')]

theorem Evicted.once {o : Except Fault Unit} (h : Evicted file u p o q) (hr : p.cache.get? u = some r)
    (h' : Served file q p') : EvictedOnce u r p p' where
  counted := by
    rw [h'.evictions (Evicted.kept h), h.cache]
    rfl
  lost := by
    have hlt : u < q.cache.records.length := by
      rw [h.cache, Cache.length_giveBack]
      exact (List.getElem?_eq_some_iff.mp hr).1
    have hown : ¬ q.cache.Own file u := by
      refine not_or.mpr ⟨?_, Nat.not_le_of_lt hlt⟩
      rw [Evicted.kept h]
      simp
    rw [h'.cache.records u hown, h.cache, Cache.giveBack, Cache.get?_update, if_pos rfl]
    exact congrArg (Option.map _) hr
  disposed := by
    obtain ⟨evicting, hevicting, hrequests, -⟩ := h.calls
    obtain ⟨new, hnew, -⟩ := h'.calls
    refine ⟨evicting ++ new, by rw [hnew, hevicting, List.append_assoc], fun hmade => ?_⟩
    rw [Trace.unitsMade_append] at hmade
    have hrest : (Trace.unitsDisposed new).count r.handle = 0 :=
      List.count_eq_zero.mpr fun hdisposed =>
        hmade (List.mem_append_right _ (h'.disposed (Evicted.kept h) hnew hdisposed))
    have hrecord : ((p.cache.forget file).countEviction).get? u = some r := hr
    rw [Trace.unitsDisposed_append, List.count_append, hrest, Trace.unitsDisposed_eq, hrequests,
      Cache.lastOut, hrecord]
    dsimp only
    split <;> simp [Request.unitDisposed?]

theorem Located.evictedOnce {o : Except Fault UnitRef}
    (h : Located E settings file flags overlays p o q) (h' : Quiet file q p')
    (hk : p.cache.kept.get? file = some u) (hr : p.cache.get? u = some r)
    (hother : r.flags ≠ flags) : EvictedOnce u r p p' := by
  rcases h.found with ⟨v, r', -, hk', hr', hflags, -⟩ | ⟨o', q', hfound, hserved, -⟩
  · cases hk.symm.trans hk'
    cases hr.symm.trans hr'
    exact absurd hflags hother
  · cases hfound with
    | kept hk' hr' hflags =>
      cases hk.symm.trans hk'
      cases hr.symm.trans hr'
      exact absurd hflags hother
    | missing hnone =>
      rw [hk] at hnone
      cases hnone
    | evicted hk' _ h =>
      cases hk.symm.trans hk'
      exact Evicted.once h hr (hserved.trans_quiet h')

/-! ## Hits -/

section
variable (hk : p.cache.kept.get? file = some u) (hr : p.cache.get? u = some r)
include hk hr

theorem Found.of_fitting {o : Except Fault (Option UnitRef)} (hflags : r.flags = flags)
    (h : Found file flags p o q) : o = .ok (some u) := by
  cases h with
  | kept hk' => rw [hk.symm.trans hk' |> Option.some.inj]
  | missing hnone =>
    rw [hk] at hnone
    cases hnone
  | evicted hk' hother =>
    cases hk.symm.trans hk'
    exact absurd hflags (hother r hr)

theorem Located.of_fitting {o : Except Fault UnitRef} (hflags : r.flags = flags)
    (h : Located E settings file flags overlays p o q) :
    o = .ok u ∧ q = { p with cache := p.cache.countHit } := by
  cases h with
  | hit hk' =>
    cases hk.symm.trans hk'
    exact ⟨rfl, rfl⟩
  | stuck h => cases h.of_fitting hk hr hflags
  | missed h => cases h.of_fitting hk hr hflags
  | added h => cases h.of_fitting hk hr hflags

theorem Parsed.of_fitting {o : Except Fault UnitRef} (hflags : r.flags = flags)
    (hreparse : (E.call (.reparse r.handle overlays) p.engine.state).1.result =
      .ok ErrorCode.success)
    (h : Parsed E settings file flags overlays p o p') :
    o = .ok u ∧ p'.cache = p.cache.countHit.retain u 1 := by
  have hfresh {o : Except Fault Unit} {q : Pool (Traced σ)}
      (h : Refreshed E file overlays u { p with cache := p.cache.countHit } o q) : o = .ok () := by
    have hcode {r' : UnitRecord} {reply : Reply Int} {q : Pool (Traced σ)}
        (hr' : p.cache.get? u = some r')
        (hc : Called E ⟨.reparse r'.handle overlays, reply⟩
          { p with cache := p.cache.countHit } q) : reply.result = .ok ErrorCode.success := by
      cases hr.symm.trans hr'
      rw [show reply = _ from hc.answers.1]
      exact hreparse
    cases h with
    | absent => rfl
    | current => rfl
    | broken hr' h hc => cases (hcode hr' hc).symm.trans h
    | unlogged hr' h hne _ _ hc => exact absurd (Except.ok.inj ((hcode hr' hc).symm.trans h)).symm hne
    | dropped hr' h hne hc => exact absurd (Except.ok.inj ((hcode hr' hc).symm.trans h)).symm hne
  cases h with
  | unlocated h => cases (h.of_fitting hk hr hflags).1
  | stale h hrefreshed =>
    obtain ⟨hu, rfl⟩ := h.of_fitting hk hr hflags
    cases hu
    cases hfresh hrefreshed
  | fresh h hrefreshed =>
    obtain ⟨hu, rfl⟩ := h.of_fitting hk hr hflags
    cases hu
    exact ⟨rfl, by rw [hrefreshed.cache_of_ok]⟩

end

/-- **Obtaining against parsing.** In every state and over every engine, also one that fails: where
no fitting unit is kept the two operations are the same, and another unit of the file is evicted
once. Where one is kept, obtaining it makes no call, and comes to the same as parsing if the unit
can be brought up to date. -/
theorem obtain_against_parse (E : Engine σ) (settings : Settings) (p : Pool (Traced σ))
    (file : String) (flags : List String) (overlays : List Overlay) :
    let args := settings.compilerArguments flags
    let obtained := obtain E.traced settings file flags overlays p
    let parsed := parse E.traced settings file flags overlays p
    ((∀ u r, p.cache.kept.get? file = some u → p.cache.get? u = some r → r.flags ≠ args) →
      obtained = parsed ∧
      ∀ u r, p.cache.kept.get? file = some u → p.cache.get? u = some r →
        EvictedOnce u r p parsed.2) ∧
    ∀ u r, p.cache.kept.get? file = some u → p.cache.get? u = some r → r.flags = args →
      obtained.1 = .ok u ∧ obtained.2.engine = p.engine ∧
      ((E.call (.reparse r.handle overlays) p.engine.state).1.result = .ok ErrorCode.success →
        parsed.1 = .ok u ∧ parsed.2.cache = obtained.2.cache) := by
  intro args obtained parsed
  obtain ⟨v, r', hv, hr', hflags', hobtained⟩ | ⟨hother, hobtained⟩ :=
    obtain_cases E settings file flags overlays p
  · refine ⟨fun hmiss => absurd hflags' (hmiss v r' hv hr'), fun u r hk hr hflags => ?_⟩
    cases hv.symm.trans hk
    have hhit : obtained = (.ok v, { p with cache := p.cache.countHit.retain v 1 }) := hobtained
    refine ⟨by rw [hhit], by rw [hhit], fun hreparse => ?_⟩
    rw [hhit]
    exact (parse_parsed p).result.of_fitting hk hr hflags hreparse
  · refine ⟨fun _ => ⟨hobtained, fun u r hk hr => ?_⟩,
      fun u r hk hr hflags => absurd hflags (hother u r hk hr)⟩
    have hparsed : Parsed E settings file args overlays p parsed.1 parsed.2 :=
      (parse_parsed p).result
    obtain ⟨o, q, hlocated, hquiet⟩ := hparsed.located
    exact hlocated.evictedOnce hquiet hk hr (hother u r hk hr)

/-- A unit is evicted and cannot be disposed of. -/
theorem obtain_against_parse_evicted :
    let p : Pool (Traced Script) :=
      { engine := { state := { traps := [(.disposeUnit, { fault := .engine .system "busy" })] } }
        cache := { records := [{ file := "a", flags := ["clang"], handle := 7 }],
                   kept := [("a", 0)] } }
    let obtained := obtain Script.engine.traced {} "a" ["-x"] [] p
    obtained = parse Script.engine.traced {} "a" ["-x"] [] p ∧
      obtained.1 = .error (.engine .system "busy") ∧
      Trace.unitsDisposed obtained.2.calls = [7] := by
  intro p obtained
  have h := obtain_against_parse Script.engine {} p "a" ["-x"] []
  have hmiss : ∀ u r, p.cache.kept.get? "a" = some u → p.cache.get? u = some r →
      r.flags ≠ ["clang", "-x"] := by
    intro u r hu hr
    cases hu
    cases hr
    decide
  exact ⟨(h.1 hmiss).1, by rfl, by decide⟩

end Pool

end CodeSense
