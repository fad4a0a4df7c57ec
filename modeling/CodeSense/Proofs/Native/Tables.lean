import CodeSense.Native.Engine
import CodeSense.Proofs.Keyed
import CodeSense.Proofs.Trace
import Mathlib.Data.List.Nodup

/-!
# The tables of the native engine

Whatever its clients ask before they close it, in each of its tables the native engine has the
handles that it gave out and did not get back since, and it gives out none twice: `Kept.call`. All
that a call can do to the tables is in `call_effect`.
-/

namespace CodeSense

/-- The call was answered, and nobody who reads the answer meets an unknown handle. -/
structure Call.Known (c : Call) : Prop where
  answered : c.Answered
  found : ∀ h, Fault.unknownHandle h ∉ c.faults

theorem Call.Known.of_faults {c : Call} (ha : c.Answered) (hf : c.faults = []) : c.Known :=
  ⟨ha, fun _ h => by rw [hf] at h; cases h⟩

def Request.unitRead? : Request → Option Handle
  | reparse unit _ | codeComplete unit .. | diagnostics unit | typeAt unit .. => some unit
  | _ => none

/-- How the handles of one kind come and go. -/
structure Traffic where
  made : Call → Option Handle
  named : Request → Option Handle
  read : Request → Option Handle
  disposed : Request → Option Handle
  named_of_disposed : ∀ {r h}, disposed r = some h → named r = some h

namespace Traffic

def units : Traffic where
  made c := c.parsed?.map (·.2.2)
  named := (·.unit?)
  read := (·.unitRead?)
  disposed := (·.unitDisposed?)
  named_of_disposed {r _} h := by
    cases r <;> first | exact h | cases h

def sets : Traffic where
  made c := c.computed?.map (·.2)
  named := (·.set?)
  read := (·.setRead?)
  disposed := (·.setDisposed?)
  named_of_disposed {r _} h := by
    cases r <;> first | exact h | cases h

variable (T : Traffic)

def handed (calls : List Call) : List Handle := calls.filterMap T.made

def returned (calls : List Call) : List Handle := calls.filterMap fun c => T.disposed c.request

/-- The handle came with a call and went back with none of the later ones. -/
def Out (calls : List Call) (h : Handle) : Prop :=
  ∃ before c after, calls = before ++ c :: after ∧ T.made c = some h ∧ h ∉ T.returned after

/-- The handle came with a call and went back with none at all. -/
def Live (calls : List Call) (h : Handle) : Prop := h ∈ T.handed calls ∧ h ∉ T.returned calls

theorem handed_units (calls : List Call) : units.handed calls = Trace.unitsMade calls := by
  simp [handed, units, Trace.unitsMade, Trace.parsed, List.map_filterMap]

theorem handed_sets (calls : List Call) : sets.handed calls = Trace.setsMade calls := by
  simp [handed, sets, Trace.setsMade, Trace.computed, List.map_filterMap]

variable {T} {calls : List Call} {c : Call} {h : Handle}

theorem live_units : units.Live calls h ↔ Trace.LiveUnit calls h := by
  rw [Live, handed_units]
  rfl

theorem live_sets : sets.Live calls h ↔ Trace.LiveSet calls h := by
  rw [Live, handed_sets]
  rfl

theorem Out.handed (ho : T.Out calls h) : h ∈ T.handed calls := by
  obtain ⟨before, c, after, rfl, hmade, -⟩ := ho
  exact List.mem_filterMap.mpr ⟨c, by simp, hmade⟩

theorem out_snoc : T.Out (calls ++ [c]) h ↔
    T.made c = some h ∨ T.Out calls h ∧ T.disposed c.request ≠ some h := by
  constructor
  · rintro ⟨before, d, after, hcalls, hmade, hback⟩
    rcases List.eq_nil_or_concat after with rfl | ⟨after, d', rfl⟩
    · obtain ⟨rfl, hlast⟩ := List.append_inj' hcalls rfl
      cases hlast
      exact .inl hmade
    · rw [List.concat_eq_append, ← List.cons_append, ← List.append_assoc] at hcalls
      obtain ⟨rfl, hlast⟩ := List.append_inj' hcalls rfl
      cases hlast
      rw [List.concat_eq_append, returned, List.filterMap_append, List.mem_append, not_or] at hback
      refine .inr ⟨⟨before, d, after, rfl, hmade, hback.1⟩, fun hd => hback.2 ?_⟩
      simp [hd]
  · rintro (hmade | ⟨⟨before, d, after, rfl, hmade, hback⟩, hd⟩)
    · exact ⟨calls, c, [], rfl, hmade, by simp [returned]⟩
    · refine ⟨before, d, after ++ [c], by simp, hmade, ?_⟩
      rw [returned, List.filterMap_append, List.mem_append, not_or]
      refine ⟨hback, fun hc => hd ?_⟩
      obtain ⟨c', hc', hreturned⟩ := List.mem_filterMap.mp hc
      rwa [List.mem_singleton.mp hc'] at hreturned

theorem Live.out (hl : T.Live calls h) : T.Out calls h := by
  obtain ⟨hhanded, hback⟩ := hl
  obtain ⟨c, hc, hmade⟩ := List.mem_filterMap.mp hhanded
  obtain ⟨before, after, hsplit⟩ := List.append_of_mem hc
  refine ⟨before, c, after, hsplit, hmade, fun hafter => hback ?_⟩
  obtain ⟨d, hmem, hd⟩ := List.mem_filterMap.mp hafter
  exact List.mem_filterMap.mpr ⟨d, by simp [hsplit, hmem], hd⟩

/-- No handle comes twice, and each is named only while it is out: then what went back stays
back. -/
theorem out_iff {P : List Call → Handle → Prop} (hP : ∀ calls h, T.Live calls h ↔ P calls h)
    (hn : (T.handed calls).Nodup)
    (hlive : Trace.Throughout (fun before c => ∀ h, T.named c.request = some h → P before h) calls) :
    T.Out calls h ↔ P calls h := by
  have hd (before : List Call) (c : Call) (after : List Call) (hc : calls = before ++ c :: after)
      (h : Handle) (hh : T.disposed c.request = some h) : T.Live before h :=
    (hP before h).mpr (hlive before c after hc h (T.named_of_disposed hh))
  refine Iff.trans ⟨fun ho => ⟨ho.handed, fun hreturned => ?_⟩, Live.out⟩ (hP calls h)
  obtain ⟨before, c, after, rfl, hmade, hnot⟩ := ho
  obtain ⟨d, hmem, hback⟩ := List.mem_filterMap.mp hreturned
  have hbefore : h ∉ T.handed before := by
    intro hm
    rw [Traffic.handed, List.filterMap_append] at hn
    exact List.disjoint_of_nodup_append hn hm (List.mem_filterMap.mpr ⟨c, by simp, hmade⟩)
  -- had it gone back before `c`, or with it, it would have come twice
  rcases List.mem_append.mp hmem with hmem | hmem
  · obtain ⟨first, rest, hsplit⟩ := List.append_of_mem hmem
    have hfirst := (hd first d (rest ++ c :: after) (by simp [hsplit]) h hback).1
    refine hbefore ?_
    rw [hsplit, Traffic.handed, List.filterMap_append]
    exact List.mem_append_left _ hfirst
  rcases List.mem_cons.mp hmem with rfl | hmem
  · exact hbefore (hd before d after rfl h hback).1
  · exact hnot (List.mem_filterMap.mpr ⟨d, hmem, hback⟩)

/-! ## Tables -/

/-- What a call does to the keys of a table and to the next handle. -/
inductive Change (T : Traffic) (c : Call) (next next' : Handle) (keys keys' : List Handle) : Prop
  | none (hmade : T.made c = none) (hdisposed : T.disposed c.request = none)
    (hkeys : keys' = keys) (hnext : next ≤ next')
  | hand (hmade : T.made c = some next) (hdisposed : T.disposed c.request = none)
    (hkeys : ∀ h, h ∈ keys' ↔ h = next ∨ h ∈ keys) (hnext : next < next')
  | take (back : Handle) (hmade : T.made c = none) (hdisposed : T.disposed c.request = some back)
    (hkeys : ∀ h, h ∈ keys' ↔ h ≠ back ∧ h ∈ keys) (hnext : next ≤ next')

structure Tracks (T : Traffic) (keys : List Handle) (next : Handle) (calls : List Call) : Prop where
  keys : ∀ h, h ∈ keys ↔ T.Out calls h
  once : (T.handed calls).Nodup
  fresh : ∀ h ∈ T.handed calls, h < next

theorem tracks_nil (next : Handle) : T.Tracks [] next [] where
  keys h := by
    constructor
    · intro hh
      cases hh
    · intro ho
      cases ho.handed
  once := List.nodup_nil
  fresh h hh := by cases hh

theorem Tracks.change {keys keys' : List Handle} {next next' : Handle}
    (ht : T.Tracks keys next calls) (hc : T.Change c next next' keys keys') :
    T.Tracks keys' next' (calls ++ [c]) := by
  have hhanded : T.handed (calls ++ [c]) = T.handed calls ++ (T.made c).toList := by
    cases h : T.made c <;> simp [Traffic.handed, h]
  have hle : next ≤ next' → ∀ h ∈ T.handed calls, h < next' := fun hle h hh =>
    Int.lt_of_lt_of_le (ht.fresh h hh) hle
  cases hc with
  | none hmade hdisposed hkeys hnext =>
    rw [hmade, Option.toList_none, List.append_nil] at hhanded
    refine ⟨fun h => ?_, hhanded ▸ ht.once, hhanded ▸ hle hnext⟩
    simp [out_snoc, hmade, hdisposed, hkeys, ht.keys h]
  | hand hmade hdisposed hkeys hnext =>
    rw [hmade, Option.toList_some] at hhanded
    refine ⟨fun h => ?_, ?_, fun h hh => ?_⟩
    · simp [out_snoc, hmade, hdisposed, hkeys h, ht.keys h, eq_comm]
    · -- the counter is beyond all handles so far
      rw [hhanded, (List.perm_append_singleton _ _).nodup_iff, List.nodup_cons]
      exact ⟨fun hmem => Int.lt_irrefl _ (ht.fresh _ hmem), ht.once⟩
    · rw [hhanded] at hh
      rcases List.mem_append.mp hh with hh | hh
      · exact hle (Int.le_of_lt hnext) h hh
      · rw [List.mem_singleton.mp hh]
        exact hnext
  | take back hmade hdisposed hkeys hnext =>
    rw [hmade, Option.toList_none, List.append_nil] at hhanded
    refine ⟨fun h => ?_, hhanded ▸ ht.once, hhanded ▸ hle hnext⟩
    simp [out_snoc, hmade, hdisposed, hkeys h, ht.keys h, and_comm, eq_comm]

end Traffic

structure Trace.NamesOut (before : List Call) (c : Call) : Prop where
  unit : ∀ unit, c.request.unit? = some unit → Traffic.units.Out before unit
  set : ∀ set, c.request.setRead? = some set → Traffic.sets.Out before set

/-! ## Calls -/

namespace Native

structure Serves (s : State) (r : Request) : Prop where
  isOpen : s.isOpen = true
  unit : ∀ unit, r.unit? = some unit → unit ∈ s.units.map Prod.fst
  set : ∀ set, r.setRead? = some set → set ∈ s.sets.map Prod.fst

structure Effect (r : Request) (s : State) (out : Reply r.Answer × State) : Prop where
  isOpen : out.2.isOpen = s.isOpen
  units : Traffic.units.Change ⟨r, out.1⟩ s.nextId out.2.nextId (s.units.map Prod.fst)
    (out.2.units.map Prod.fst)
  sets : Traffic.sets.Change ⟨r, out.1⟩ s.nextId out.2.nextId (s.sets.map Prod.fst)
    (out.2.sets.map Prod.fst)
  known : Serves s r → CodeSense.Call.Known ⟨r, out.1⟩

variable {s : State} {r : Request}

theorem Effect.still {reply : Reply r.Answer} {library : Library}
    (hdisposed : r.unitDisposed? = none ∧ r.setDisposed? = none)
    (hmade : Traffic.units.made ⟨r, reply⟩ = none ∧ Traffic.sets.made ⟨r, reply⟩ = none)
    (hknown : Serves s r → CodeSense.Call.Known ⟨r, reply⟩) :
    Effect r s (reply, { s with library }) where
  isOpen := rfl
  units := .none hmade.1 hdisposed.1 rfl (Int.le_refl _)
  sets := .none hmade.2 hdisposed.2 rfl (Int.le_refl _)
  known := hknown

theorem effect_withHandle {α : Type} {table : Keyed Handle α} {h : Handle}
    {f : α → Reply r.Answer × State} (hdisposed : r.unitDisposed? = none ∧ r.setDisposed? = none)
    (hmade : Traffic.units.made ⟨r, .fault (.unknownHandle h)⟩ = none ∧
      Traffic.sets.made ⟨r, .fault (.unknownHandle h)⟩ = none)
    (hserves : Serves s r → h ∈ table.map Prod.fst) (hf : ∀ a, Effect r s (f a)) :
    Effect r s (withHandle table h s f) := by
  unfold withHandle
  split
  · exact hf _
  · rename_i hnone
    refine .still hdisposed hmade fun hs => ?_
    obtain ⟨a, ha⟩ := Keyed.mem_keys_iff.mp (hserves hs)
    rw [hnone] at ha
    cases ha

theorem error_of_mapM {α β : Type} {f : α → Except Fault β} {l : List α} {e : Fault}
    (h : l.mapM f = .error e) : ∃ a ∈ l, f a = .error e := by
  induction l with
  | nil => cases h
  | cons a l ih =>
    rw [List.mapM_cons] at h
    rcases ha : f a with e' | b
    · rw [ha] at h
      cases h
      exact ⟨a, List.mem_cons_self .., ha⟩
    · rcases hl : l.mapM f with e' | bs
      · rw [ha, hl] at h
        cases h
        obtain ⟨a', ha', he⟩ := ih hl
        exact ⟨a', List.mem_cons_of_mem _ ha', he⟩
      · rw [ha, hl] at h
        cases h

theorem entry_unreadable {result : Result} {e : Fault} (h : result.entry.unreadable = some e) :
    ∃ key, e = .unknownChunkKind key := by
  unfold Result.entry at h
  dsimp only at h
  split at h
  · cases h
  · rename_i f hchunks
    cases h
    obtain ⟨chunk, -, hchunk⟩ := error_of_mapM hchunks
    unfold chunkOf chunkKindOf at hchunk
    split at hchunk
    · cases hchunk
    · cases hchunk
      exact ⟨_, rfl⟩

theorem call_effect (hr : r ≠ .close) : Effect r s (call r s) := by
  cases r with
  | parse file flags overlays options =>
    simp only [call]
    split
    · rename_i hopen
      exact .still ⟨rfl, rfl⟩ ⟨rfl, rfl⟩ fun h => absurd h.isOpen hopen
    · split
      · exact .still ⟨rfl, rfl⟩ ⟨rfl, rfl⟩ fun _ => .of_faults ⟨_, rfl⟩ rfl
      · refine ⟨rfl, .hand rfl rfl (fun _ => Keyed.mem_keys_put) (Int.lt_succ _), ?_, fun _ => ?_⟩
        · exact .none rfl rfl rfl (Int.le_of_lt (Int.lt_succ _))
        · exact .of_faults ⟨_, rfl⟩ rfl
  | reparse h overlays =>
    refine effect_withHandle ⟨rfl, rfl⟩ ⟨rfl, rfl⟩ (fun hs => hs.unit h rfl) fun unit => ?_
    exact .still ⟨rfl, rfl⟩ ⟨rfl, rfl⟩ fun _ => .of_faults ⟨_, rfl⟩ rfl
  | codeComplete h file line column overlays =>
    refine effect_withHandle ⟨rfl, rfl⟩ ⟨rfl, rfl⟩ (fun hs => hs.unit h rfl) fun unit => ?_
    split
    · exact .still ⟨rfl, rfl⟩ ⟨rfl, rfl⟩ fun _ => .of_faults ⟨_, rfl⟩ rfl
    · refine ⟨rfl, ?_, .hand rfl rfl (fun _ => Keyed.mem_keys_put) (Int.lt_succ _), fun _ => ?_⟩
      · exact .none rfl rfl rfl (Int.le_of_lt (Int.lt_succ _))
      · exact .of_faults ⟨_, rfl⟩ rfl
  | completionResults h =>
    refine effect_withHandle ⟨rfl, rfl⟩ ⟨rfl, rfl⟩ (fun hs => hs.set h rfl) fun set => ?_
    refine .still ⟨rfl, rfl⟩ ⟨rfl, rfl⟩ fun _ => ⟨⟨_, rfl⟩, fun h hfault => ?_⟩
    obtain ⟨entry, hentry, hu⟩ := List.mem_filterMap.mp hfault
    obtain ⟨result, -, rfl⟩ := List.mem_map.mp hentry
    obtain ⟨key, hkey⟩ := entry_unreadable hu
    cases hkey
  | completionDiagnostics h =>
    refine effect_withHandle ⟨rfl, rfl⟩ ⟨rfl, rfl⟩ (fun hs => hs.set h rfl) fun set => ?_
    exact .still ⟨rfl, rfl⟩ ⟨rfl, rfl⟩ fun _ => .of_faults ⟨_, rfl⟩ rfl
  | typeAt h file line column =>
    refine effect_withHandle ⟨rfl, rfl⟩ ⟨rfl, rfl⟩ (fun hs => hs.unit h rfl) fun unit => ?_
    exact .still ⟨rfl, rfl⟩ ⟨rfl, rfl⟩ fun _ => .of_faults ⟨_, rfl⟩ rfl
  | compileCommands buildDir file =>
    simp only [call]
    split
    · exact .still ⟨rfl, rfl⟩ ⟨rfl, rfl⟩ fun _ => .of_faults ⟨_, rfl⟩ rfl
    · exact .still ⟨rfl, rfl⟩ ⟨rfl, rfl⟩ fun _ => .of_faults ⟨_, rfl⟩ rfl
  | close => exact absurd rfl hr
  | disposeUnit h =>
    refine ⟨rfl, .take h rfl rfl (fun _ => Keyed.mem_keys_erase) (Int.le_refl _), ?_, fun _ => ?_⟩
    · exact .none rfl rfl rfl (Int.le_refl _)
    · exact .of_faults ⟨_, rfl⟩ rfl
  | disposeCompletion h =>
    refine ⟨rfl, ?_, .take h rfl rfl (fun _ => Keyed.mem_keys_erase) (Int.le_refl _), fun _ => ?_⟩
    · exact .none rfl rfl rfl (Int.le_refl _)
    · exact .of_faults ⟨_, rfl⟩ rfl
  | diagnostics h =>
    refine .still ⟨rfl, rfl⟩ ⟨rfl, rfl⟩ fun hs => ?_
    obtain ⟨unit, hunit⟩ := Keyed.mem_keys_iff.mp (hs.unit h rfl)
    rw [hunit]
    exact .of_faults ⟨_, rfl⟩ rfl
  | version => exact .still ⟨rfl, rfl⟩ ⟨rfl, rfl⟩ fun _ => .of_faults ⟨_, rfl⟩ rfl
  | pause delay => exact .still ⟨rfl, rfl⟩ ⟨rfl, rfl⟩ fun _ => .of_faults ⟨_, rfl⟩ rfl

/-! ## Runs -/

/-- The tables agree with the calls so far, and every call that named what was out was served. -/
structure Kept (t : Traced State) : Prop where
  isOpen : t.state.isOpen = true
  units : Traffic.units.Tracks (t.state.units.map Prod.fst) t.state.nextId t.calls
  sets : Traffic.sets.Tracks (t.state.sets.map Prod.fst) t.state.nextId t.calls
  known : Trace.Throughout (fun before c => Trace.NamesOut before c → c.Known) t.calls

theorem kept_start (library : Library) (path : Option String) :
    Kept { state := start library path } :=
  ⟨rfl, Traffic.tracks_nil _, Traffic.tracks_nil _, Trace.throughout_nil _⟩

/-- **Tables.** Every call but the one that closes the engine keeps the tables right. -/
theorem Kept.call {t : Traced State} (h : Kept t) (hr : r ≠ .close) :
    Kept (engine.traced.call r t).2 := by
  have heffect := call_effect (s := t.state) hr
  refine ⟨heffect.isOpen.trans h.isOpen, h.units.change heffect.units, h.sets.change heffect.sets, ?_⟩
  refine Trace.throughout_snoc.mpr ⟨h.known, fun hnames => heffect.known ⟨h.isOpen, ?_, ?_⟩⟩
  · exact fun unit hunit => (h.units.keys unit).mpr (hnames.unit unit hunit)
  · exact fun set hset => (h.sets.keys set).mpr (hnames.set set hset)

end Native

end CodeSense
