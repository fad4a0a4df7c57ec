import CodeSense.Proofs.Native.Tables
import CodeSense.Proofs.Session.Sound
import CodeSense.Proofs.Session.Readings
import CodeSense.Proofs.Session.References

/-!
# A session over the native engine

A session names units while they are out, and the native engine serves whoever does; so neither ever
gets out of step with the other. After any operations the tables of the engine hold the units of
the cache and the active result set, and nothing else: `handles_agree`.
-/

namespace CodeSense

namespace Trace

variable {calls : List Call}

/-- The client reads what is out as long as the engine answers, and the engine answers as long as
the client names what is out. -/
theorem known_of_live (hknown : Throughout (fun before c => NamesOut before c → c.Known) calls)
    (hunits : Throughout NamesLiveUnit calls) (hreads : ReadsLive calls)
    (hn : (setsMade calls).Nodup) : ∀ c ∈ calls, c.Known := by
  induction calls using List.reverseRecOn with
  | nil => simp
  | append_singleton calls c ih =>
    obtain ⟨hknown, hc⟩ := throughout_snoc.mp hknown
    obtain ⟨hunits, hunit⟩ := throughout_snoc.mp hunits
    obtain ⟨hreads, hread⟩ := throughout_snoc.mp hreads
    rw [setsMade_append] at hn
    have hn := (List.nodup_append.mp hn).1
    have hbefore := ih hknown hunits hreads hn
    -- all calls before were answered, which is what the client's side of the bargain needs
    have hanswered : Answered calls := fun d hd => (hbefore d hd).answered
    intro d hd
    rcases List.mem_append.mp hd with hd | hd
    · exact hbefore d hd
    · rw [List.mem_singleton.mp hd]
      refine hc ⟨fun unit hu => (Traffic.live_units.mpr (hunit unit hu)).out, fun set hset => ?_⟩
      exact (Traffic.live_sets.mpr (hread hanswered hn set hset)).out

end Trace

namespace Session

variable {s : Session (Traced Native.State)}

structure Matched (s : Session (Traced Native.State)) : Prop where
  sound : s.Sound
  reads : s.ReadsLive
  kept : Native.Kept s.pool.engine

theorem matched_opened (library : Native.Library) (path : Option String) (settings : Settings)
    (journal : Journal) : (opened (Native.start library path) settings journal).Matched :=
  ⟨sound_opened _ _ _, Trace.throughout_nil _, Native.kept_start library path⟩

theorem Matched.step (h : s.Matched) (move : FileSystem × Operation) :
    (step Native.engine.traced s move).Matched := by
  refine ⟨sound_step h.sound move, reads_run h.sound h.reads [move], ?_⟩
  have hkept := covers_engine (E := Native.engine.traced) (K := (· ≠ .close)) (I := Native.Kept)
    fun _ _ hr hkept => hkept.call hr
  refine perform_moves hkept move.2 (fun r hr hclose => ?_) { s with files := move.1 } h.kept
  rw [hclose] at hr
  cases hop : move.2 <;> simp [hop, Operation.kinds, Request.kind] at hr

theorem Matched.run (h : s.Matched) (moves : List (FileSystem × Operation)) :
    (run Native.engine.traced s moves).Matched := by
  induction moves generalizing s with
  | nil => exact h
  | cons move moves ih => exact ih (h.step move)

theorem Matched.unitsOnce (h : s.Matched) : (Trace.unitsMade s.calls).Nodup :=
  Traffic.handed_units s.calls ▸ h.kept.units.once

theorem Matched.setsOnce (h : s.Matched) : (Trace.setsMade s.calls).Nodup :=
  Traffic.handed_sets s.calls ▸ h.kept.sets.once

theorem Matched.known (h : s.Matched) : ∀ c ∈ s.calls, c.Known :=
  Trace.known_of_live h.kept.known (h.sound.balanced.live h.unitsOnce) h.reads h.setsOnce

theorem Matched.mem_units_iff (h : s.Matched) (unit : Handle) :
    unit ∈ s.pool.engine.state.units.map Prod.fst ↔ unit ∈ s.pool.cache.units.map (·.handle) :=
  calc unit ∈ s.pool.engine.state.units.map Prod.fst
    _ ↔ Traffic.units.Out s.calls unit := h.kept.units.keys unit
    _ ↔ Trace.LiveUnit s.calls unit :=
      Traffic.out_iff (fun _ _ => Traffic.live_units) h.kept.units.once
        (h.sound.balanced.live h.unitsOnce)
    _ ↔ unit ∈ s.pool.cache.units.map (·.handle) :=
      h.sound.liveUnit_iff_mem_units h.unitsOnce unit

theorem Matched.mem_sets_iff (h : s.Matched) (set : Handle) :
    set ∈ s.pool.engine.state.sets.map Prod.fst ↔ s.activeCompletion.map (·.handle) = some set := by
  have hanswered : Trace.Answered s.calls := fun c hc => (h.known c hc).answered
  have hfits := h.sound.sets.fits hanswered h.setsOnce
  calc set ∈ s.pool.engine.state.sets.map Prod.fst
    _ ↔ Traffic.sets.Out s.calls set := h.kept.sets.keys set
    _ ↔ Trace.LiveSet s.calls set :=
      Traffic.out_iff (fun _ _ => Traffic.live_sets) h.kept.sets.once fun before c after hc =>
        (hfits before c after hc).1
    _ ↔ set ∈ (s.activeCompletion.map (·.handle)).toList :=
      h.sound.sets.liveSet_iff hanswered h.setsOnce
    _ ↔ s.activeCompletion.map (·.handle) = some set := Option.mem_toList

/-- **Handles agree.** After any operations over the native engine and any library, what the engine
has in its tables is what the session has, and the next operation meets no unknown handle. -/
theorem handles_agree (library : Native.Library) (path : Option String) (settings : Settings)
    (journal : Journal) (moves : List (FileSystem × Operation)) :
    let s := run Native.engine.traced (opened (Native.start library path) settings journal) moves
    (∀ h, h ∈ s.pool.engine.state.units.map Prod.fst ↔ h ∈ s.pool.cache.units.map (·.handle)) ∧
      (∀ h, h ∈ s.pool.engine.state.sets.map Prod.fst ↔
        s.activeCompletion.map (·.handle) = some h) ∧
      ∀ files op h, (perform Native.engine.traced op { s with files }).1 ≠
        .error (.unknownHandle h) := by
  intro s
  have hs : s.Matched := (matched_opened library path settings journal).run moves
  refine ⟨hs.mem_units_iff, hs.mem_sets_iff, fun files op h hfault => ?_⟩
  have hsound := hs.sound.withFiles files
  have hraises := ((ends_perform hsound op).of_error hfault).raises rfl
  obtain ⟨c, hc, hunknown⟩ := hraises.raised hsound (perform_adds op _)
  exact ((hs.step (files, op)).known c hc).found h hunknown

/-- An eviction, and a completion on the new unit: units and result sets are numbered together. -/
example :
    let s := run Native.engine.traced (opened (Native.start {} none) {} {})
      [({}, .parse "a" []), ({}, .parse "b" []), ({}, .complete "a" 1 1 ["-x"])]
    s.pool.engine.state.units.map Prod.fst = [2, 3] ∧
      s.pool.engine.state.sets.map Prod.fst = [4] := by
  decide +kernel

end Session

end CodeSense
