import CodeSense.Proofs.Engine
import CodeSense.Proofs.Native.Tables

/-!
# The native engine and its clients

A client of the native engine may give back what it never got, give back twice, or name a result set
where a unit is asked for. The engine still knows at every time which handles are out, and it
tells everybody else that it knows no such handle: `handles_sturdy`.
-/

namespace CodeSense

def Call.handle? (c : Call) : Option Handle := (Traffic.units.made c).or (Traffic.sets.made c)

namespace Trace

def handles (calls : List Call) : List Handle := calls.filterMap (·.handle?)

structure Rising (next : Handle) (calls : List Call) : Prop where
  sorted : (handles calls).Pairwise (· < ·)
  below : ∀ h ∈ handles calls, h < next

theorem rising_nil (next : Handle) : Rising next [] := ⟨.nil, by simp [handles]⟩

variable {next next' : Handle} {calls : List Call} {c : Call}

theorem Rising.snoc_none (h : Rising next calls) (hc : c.handle? = none) (hnext : next ≤ next') :
    Rising next' (calls ++ [c]) := by
  have hhandles : handles (calls ++ [c]) = handles calls := by simp [handles, hc]
  constructor
  · rw [hhandles]
    exact h.sorted
  · intro id hid
    rw [hhandles] at hid
    exact Int.lt_of_lt_of_le (h.below id hid) hnext

theorem Rising.snoc_some (h : Rising next calls) (hc : c.handle? = some next)
    (hnext : next < next') : Rising next' (calls ++ [c]) := by
  have hhandles : handles (calls ++ [c]) = handles calls ++ [next] := by simp [handles, hc]
  constructor
  · rw [hhandles, List.pairwise_append]
    refine ⟨h.sorted, List.pairwise_singleton _ _, fun a ha b hb => ?_⟩
    rw [List.mem_singleton.mp hb]
    exact h.below a ha
  · intro id hid
    rw [hhandles, List.mem_append, List.mem_singleton] at hid
    rcases hid with hid | rfl
    · exact Int.lt_trans (h.below id hid) hnext
    · exact hnext

end Trace

namespace Native

variable {s : State} {r : Request} {h : Handle}

/-- The two tables share a counter, and no call takes from it twice. -/
theorem Effect.rising {out : Reply r.Answer × State} {calls : List CodeSense.Call}
    (heffect : Effect r s out) (hrising : Trace.Rising s.nextId calls) :
    Trace.Rising out.2.nextId (calls ++ [⟨r, out.1⟩]) := by
  have hsets : ∀ {made : Option Handle}, Traffic.units.made ⟨r, out.1⟩ = none →
      Traffic.sets.made ⟨r, out.1⟩ = made → CodeSense.Call.handle? ⟨r, out.1⟩ = made := by
    intro made hunits hsets
    simp [CodeSense.Call.handle?, hunits, hsets]
  have hnone : Traffic.units.made ⟨r, out.1⟩ = none →
      Trace.Rising out.2.nextId (calls ++ [⟨r, out.1⟩]) := by
    intro hunits
    cases heffect.sets with
    | none hmade _ _ hnext => exact hrising.snoc_none (hsets hunits hmade) hnext
    | hand hmade _ _ hnext => exact hrising.snoc_some (hsets hunits hmade) hnext
    | take _ hmade _ _ hnext => exact hrising.snoc_none (hsets hunits hmade) hnext
  cases heffect.units with
  | none hmade _ _ _ => exact hnone hmade
  | take _ hmade _ _ _ => exact hnone hmade
  | hand hmade _ _ hnext => exact hrising.snoc_some (by simp [CodeSense.Call.handle?, hmade]) hnext

/-! ## Looking up -/

/-- The request finds the handle that it names just if that is `there`. If not, it says so, and
changes nothing. -/
structure Looks (s : State) (r : Request) (h : Handle) (there : Prop) : Prop where
  found : CodeSense.Call.Known ⟨r, (call r s).1⟩ ↔ there
  missed : ¬ there → CodeSense.Call.faults ⟨r, (call r s).1⟩ = [.unknownHandle h] ∧ (call r s).2 = s

theorem looks_of_known {there : Prop}
    (hknown : there → CodeSense.Call.Known ⟨r, (call r s).1⟩)
    (hmissed : ¬ there →
      CodeSense.Call.faults ⟨r, (call r s).1⟩ = [.unknownHandle h] ∧ (call r s).2 = s) :
    Looks s r h there := by
  refine ⟨⟨fun hk => ?_, hknown⟩, hmissed⟩
  by_contra hnot
  refine hk.found h ?_
  rw [(hmissed hnot).1]
  exact List.mem_singleton.mpr rfl

theorem get?_missed {α : Type} {table : Keyed Handle α} (hh : h ∉ table.map Prod.fst) :
    table.get? h = none := by
  by_contra hsome
  exact hh (Keyed.mem_keys_iff.mpr (Option.ne_none_iff_exists'.mp hsome))

theorem withHandle_missed {α β : Type} {table : Keyed Handle α} (hh : h ∉ table.map Prod.fst)
    (f : α → Reply β × State) : withHandle table h s f = (.fault (.unknownHandle h), s) := by
  simp [withHandle, get?_missed hh]

theorem missed_of_fault (hcall : call r s = (.fault (.unknownHandle h), s)) :
    CodeSense.Call.faults ⟨r, (call r s).1⟩ = [.unknownHandle h] ∧ (call r s).2 = s := by
  rw [hcall]
  cases r <;> exact ⟨rfl, rfl⟩

inductive Filed (s : State) : Traffic → List Handle → Prop
  | units : Filed s .units (s.units.map Prod.fst)
  | sets : Filed s .sets (s.sets.map Prod.fst)

theorem Filed.serves {T : Traffic} {keys : List Handle} (hT : Filed s T keys)
    (hopen : s.isOpen = true) (hr : T.read r = some h) (hh : h ∈ keys) : Serves s r := by
  refine ⟨hopen, fun unit hunit => ?_, fun set hset => ?_⟩
  · cases hT <;> cases r <;> cases hr <;> cases hunit <;> exact hh
  · cases hT <;> cases r <;> cases hr <;> cases hset <;> exact hh

theorem Filed.missed {T : Traffic} {keys : List Handle} (hT : Filed s T keys)
    (hr : T.read r = some h) (hh : h ∉ keys) :
    CodeSense.Call.faults ⟨r, (call r s).1⟩ = [.unknownHandle h] ∧ (call r s).2 = s := by
  cases hT with
  | units =>
    cases r with
    | diagnostics unit =>
      -- the answer is a list that breaks off before its first item
      cases hr
      simp [call, get?_missed hh, Reply.answer, CodeSense.Call.faults]
    | _ => cases hr <;> exact missed_of_fault (withHandle_missed hh _)
  | sets => cases r <;> cases hr <;> exact missed_of_fault (withHandle_missed hh _)

theorem Filed.looks {T : Traffic} {keys : List Handle} (hT : Filed s T keys)
    (hopen : s.isOpen = true) (hr : T.read r = some h) : Looks s r h (h ∈ keys) := by
  refine looks_of_known (fun hh => (call_effect ?_).known (hT.serves hopen hr hh)) (hT.missed hr)
  rintro rfl
  cases hT <;> cases hr

/-! ## Giving back -/

structure Lost {α : Type} (h : Handle) (table table' : Keyed Handle α) : Prop where
  gone : table'.get? h = none
  others : ∀ h' ≠ h, table'.get? h' = table.get? h'

theorem lost_erase {α : Type} (h : Handle) (table : Keyed Handle α) :
    Lost h table (table.erase h) where
  gone := by rw [Keyed.get?_erase, if_pos rfl]
  others h' hne := by rw [Keyed.get?_erase, if_neg hne]

theorem erase_erase {α : Type} (h : Handle) (table : Keyed Handle α) :
    (table.erase h).erase h = table.erase h :=
  Keyed.erase_of_get?_none (lost_erase h table).gone

/-! ## Parsing -/

/-- The parse asks the library once. It brings a handle just if the library made a unit, and an error
if it did not. -/
def Parses (s : State) (file : String) (flags : List String) (overlays : List Overlay)
    (options : Int) : Prop :=
  ∃ native hasUnit code handle,
    (call (.parse file flags overlays options) s).2.library.calls = s.library.calls ++
      [.parse file (flags.map terminated) (overlays.map .ofOverlay) options native hasUnit] ∧
    (call (.parse file flags overlays options) s).1.result = .ok (code, handle) ∧
    (handle.isSome = true ↔ hasUnit = true) ∧ (code, handle) ≠ (ErrorCode.success, none)

theorem Library.parse_calls (l : Library) (file : String) (arguments : List String)
    (unsaved : List Unsaved) (options : Int) :
    (l.parse file arguments unsaved options).2.calls = l.calls ++
      [.parse file arguments unsaved options (l.parse file arguments unsaved options).1.1
        (l.parse file arguments unsaved options).1.2.isSome] := by
  unfold Library.parse
  cases l.parses.headD (ErrorCode.success, true) with
  | mk code hasUnit => cases hasUnit <;> rfl

theorem parses_of_isOpen (hopen : s.isOpen = true) (file : String) (flags : List String)
    (overlays : List Overlay) (options : Int) : Parses s file flags overlays options := by
  have hcalls := s.library.parse_calls file (flags.map terminated) (overlays.map .ofOverlay) options
  unfold Parses
  simp only [call, hopen, not_true_eq_false, if_false]
  rcases hparse : s.library.parse file (flags.map terminated) (overlays.map .ofOverlay) options with
    ⟨⟨code, _ | unit⟩, library⟩
  · rw [hparse] at hcalls
    refine ⟨code, false, _, none, hcalls, rfl, by simp, fun h => ?_⟩
    -- a success without a unit is passed on as a failure
    split at h <;> simp_all [ErrorCode.success, ErrorCode.failure]
  · rw [hparse] at hcalls
    exact ⟨code, true, code, some s.nextId, hcalls, rfl, by simp, by simp⟩

/-! ## Any client -/

structure Sturdy (t : Traced State) : Prop where
  rising : (Trace.handles t.calls).Pairwise (· < ·)
  units : ∀ r h, r.unitRead? = some h → Looks t.state r h (Traffic.units.Out t.calls h)
  sets : ∀ r h, r.setRead? = some h → Looks t.state r h (Traffic.sets.Out t.calls h)
  /-- To give back a unit costs nothing else, and to give it back again nothing at all. -/
  disposeUnit : ∀ h, ∃ units, call (.disposeUnit h) t.state = (.answer (), { t.state with units }) ∧
    Lost h t.state.units units ∧
    call (.disposeUnit h) { t.state with units } = (.answer (), { t.state with units })
  disposeSet : ∀ h, ∃ sets,
    call (.disposeCompletion h) t.state = (.answer (), { t.state with sets }) ∧
    Lost h t.state.sets sets ∧
    call (.disposeCompletion h) { t.state with sets } = (.answer (), { t.state with sets })
  parse : ∀ file flags overlays options, Parses t.state file flags overlays options

theorem Kept.sturdy {t : Traced State} (hkept : Kept t)
    (hrising : Trace.Rising t.state.nextId t.calls) : Sturdy t where
  rising := hrising.sorted
  units r h hr := by
    have hlooks := Filed.units.looks hkept.isOpen hr
    rwa [hkept.units.keys h] at hlooks
  sets r h hr := by
    have hlooks := Filed.sets.looks hkept.isOpen hr
    rwa [hkept.sets.keys h] at hlooks
  disposeUnit h := by
    refine ⟨t.state.units.erase h, rfl, lost_erase h _, ?_⟩
    simp only [Native.call, erase_erase]
  disposeSet h := by
    refine ⟨t.state.sets.erase h, rfl, lost_erase h _, ?_⟩
    simp only [Native.call, erase_erase]
  parse := parses_of_isOpen hkept.isOpen

theorem after_kept {t : Traced State} (hkept : Kept t)
    (hrising : Trace.Rising t.state.nextId t.calls) {requests : List Request}
    (hopen : Request.close ∉ requests) :
    Kept (engine.traced.after requests t) ∧
      Trace.Rising (engine.traced.after requests t).state.nextId
        (engine.traced.after requests t).calls := by
  induction requests generalizing t with
  | nil => exact ⟨hkept, hrising⟩
  | cons r requests ih =>
    rw [List.mem_cons, not_or] at hopen
    have hr : r ≠ .close := Ne.symm hopen.1
    exact ih (hkept.call hr) ((call_effect hr).rising hrising) hopen.2

/-- **Any client.** Whatever a client asks before it closes the engine, the handles that the engine
gives out rise, a request finds the unit or the result set that it names just while that is out, and
nothing that is given back, rightly or not, affects any other. -/
theorem handles_sturdy (library : Library) (path : Option String) (requests : List Request)
    (hopen : Request.close ∉ requests) :
    Sturdy (engine.traced.after requests { state := start library path }) := by
  obtain ⟨hkept, hrising⟩ :=
    after_kept (kept_start library path) (Trace.rising_nil _) hopen
  exact hkept.sturdy hrising

/-- A result set given back as a unit, a unit given back before it was handed out and twice
afterwards, and a parse that the library calls a success but that makes no unit. -/
theorem handles_sturdy_misused :
    let requests : List Request := [.disposeUnit 3, .parse "a" [] [] 0, .codeComplete 1 "a" 1 1 [],
      .disposeUnit 2, .parse "b" [] [] 0, .reparse 2 [], .disposeUnit 1, .disposeUnit 1,
      .parse "c" [] [] 0]
    let t := engine.traced.after requests
      { state := start { parses := [(0, true), (2, true), (0, false)] } none }
    Request.close ∉ requests ∧ Sturdy t ∧ Trace.handles t.calls = [1, 2, 3] ∧
      t.state.units.map Prod.fst = [3] ∧ t.state.sets.map Prod.fst = [2] :=
  ⟨by decide, handles_sturdy _ _ _ (by decide), by decide +kernel, by decide +kernel,
    by decide +kernel⟩

end Native

end CodeSense
