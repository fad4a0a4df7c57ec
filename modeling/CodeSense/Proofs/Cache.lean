import Mathlib.Data.List.Nodup
import CodeSense.Cache
import CodeSense.Proofs.Keyed

/-!
# Reference counts

A record's count is the number of references to it, whoever holds them. References are
listed: a reference that moves from one holder to another stands elsewhere in the list, and
the counts agree with the list as it is.
-/

namespace CodeSense

def UnitRecord.origin (r : UnitRecord) : String × List String × Handle :=
  (r.file, r.flags, r.handle)

theorem UnitRecord.eq_of_origin {r r' : UnitRecord} (ho : r.origin = r'.origin)
    (hcount : r.refCount = r'.refCount) (hreleased : r.released = r'.released) : r = r' := by
  simp only [UnitRecord.origin, Prod.mk.injEq] at ho
  obtain ⟨hfile, hflags, hhandle⟩ := ho
  cases r
  cases r'
  simp_all

namespace Cache

def keptRefs (c : Cache) : List UnitRef := c.kept.map (·.2)

def origins (c : Cache) : List (String × List String × Handle) := c.records.map UnitRecord.origin

def releasedHandles (c : Cache) : List Handle :=
  c.records.filterMap fun r => if r.released then some r.handle else none

structure Counted (c : Cache) (refs : List UnitRef) : Prop where
  valid : ∀ u ∈ refs, u < c.records.length
  count : ∀ u r, c.get? u = some r → r.refCount = refs.count u
  released : ∀ u r, c.get? u = some r → (r.released = true ↔ r.refCount = 0)

structure Filed (c : Cache) : Prop where
  keys : (c.kept.map Prod.fst).Nodup
  file : ∀ f u, (f, u) ∈ c.kept → ∃ r, c.get? u = some r ∧ r.file = f

variable {c : Cache} {refs refs' : List UnitRef} {u v : UnitRef} {r : UnitRecord}

theorem get?_update (c : Cache) (u v : UnitRef) (f : UnitRecord → UnitRecord) :
    (c.update u f).get? v = if u = v then (c.get? v).map f else c.get? v := by
  unfold update get?
  rw [List.getElem?_modify]
  split <;> simp

theorem update_eq_some (f : UnitRecord → UnitRecord) (h : (c.update u f).get? v = some r) :
    ∃ r₀, c.get? v = some r₀ ∧ r = if u = v then f r₀ else r₀ := by
  rw [get?_update] at h
  split at h
  · rename_i huv
    obtain ⟨r₀, h₀, rfl⟩ := Option.map_eq_some_iff.mp h
    exact ⟨r₀, h₀, by rw [if_pos huv]⟩
  · rename_i huv
    exact ⟨r, h, by rw [if_neg huv]⟩

theorem update_congr {f g : UnitRecord → UnitRecord} (h : ∀ r, c.get? u = some r → f r = g r) :
    c.update u f = c.update u g := by
  unfold update
  congr 1
  apply List.ext_getElem?
  intro i
  rw [List.getElem?_modify, List.getElem?_modify]
  by_cases hi : u = i
  · subst hi
    rcases hr : c.records[u]? with _ | r
    · simp
    · simp [h r hr]
  · simp [hi]

theorem filterMap_modify {α β : Type} {g : α → Option β} {f : α → α} (l : List α) (i : Nat)
    (hf : ∀ a, g (f a) = g a) : (l.modify i f).filterMap g = l.filterMap g := by
  induction l generalizing i with
  | nil => simp
  | cons a l ih =>
    cases i with
    | zero => simp [List.filterMap_cons, hf]
    | succ i => simp [List.filterMap_cons, ih]

theorem origins_update (c : Cache) (u : UnitRef) (f : UnitRecord → UnitRecord)
    (hf : ∀ r, (f r).origin = r.origin) : (c.update u f).origins = c.origins := by
  unfold origins
  simp only [← List.filterMap_eq_map]
  exact filterMap_modify _ _ fun r => congrArg some (hf r)

@[simp] theorem origins_retain (c : Cache) (u : UnitRef) (n : Int) :
    (c.retain u n).origins = c.origins :=
  origins_update c u _ fun _ => rfl

@[simp] theorem origins_markReleased (c : Cache) (u : UnitRef) :
    (c.markReleased u).origins = c.origins :=
  origins_update c u _ fun _ => rfl

@[simp] theorem origins_dropReferences (c : Cache) (u : UnitRef) :
    (c.dropReferences u).origins = c.origins :=
  origins_update c u _ fun _ => rfl

theorem origin_of_prefix {c' : Cache} (ho : c.origins <+: c'.origins) (hr : c.get? u = some r) :
    ∃ r', c'.get? u = some r' ∧ r'.origin = r.origin := by
  have hold : c.origins[u]? = some r.origin := by
    rw [origins, List.getElem?_map, show c.records[u]? = some r from hr]
    rfl
  have hlt : u < c.origins.length := (List.getElem?_eq_some_iff.mp hold).1
  have hnew : c'.origins[u]? = some r.origin := by
    rw [List.prefix_iff_getElem?.mp ho u hlt, ← List.getElem?_eq_getElem hlt, hold]
  rw [origins, List.getElem?_map] at hnew
  exact Option.map_eq_some_iff.mp hnew

theorem Filed.update (h : c.Filed) (u : UnitRef) (f : UnitRecord → UnitRecord)
    (hf : ∀ r, (f r).file = r.file) : (c.update u f).Filed := by
  refine ⟨h.keys, fun file v hv => ?_⟩
  obtain ⟨r, hr, rfl⟩ := h.file file v hv
  rw [get?_update, hr]
  split
  · exact ⟨f r, rfl, hf r⟩
  · exact ⟨r, rfl, rfl⟩

theorem Filed.retain (h : c.Filed) (u : UnitRef) (n : Int) : (c.retain u n).Filed :=
  h.update u _ fun _ => rfl

@[simp] theorem releasedHandles_retain (c : Cache) (u : UnitRef) (n : Int) :
    (c.retain u n).releasedHandles = c.releasedHandles := by
  unfold releasedHandles Cache.retain update
  exact filterMap_modify _ _ fun _ => rfl

@[simp] theorem releasedHandles_dropReferences (c : Cache) (u : UnitRef) :
    (c.dropReferences u).releasedHandles = c.releasedHandles := by
  unfold releasedHandles dropReferences update
  exact filterMap_modify _ _ fun _ => rfl

theorem get?_dropReferences (hr : c.get? u = some r) :
    (c.dropReferences u).get? u = some { r with refCount := 0 } := by
  rw [dropReferences, get?_update, if_pos rfl, hr]
  rfl

theorem dropReferences_last (hr : c.get? u = some r) (hcount : r.refCount = 1) :
    c.dropReferences u = c.retain u (-1) := by
  refine update_congr fun r' hr' => ?_
  cases hr.symm.trans hr'
  simp [hcount]

/-! ## References that come and go -/

theorem Counted.perm (h : c.Counted refs) (hp : refs.Perm refs') : c.Counted refs' where
  valid u hu := h.valid u (hp.mem_iff.mpr hu)
  count u r hr := by rw [h.count u r hr, hp.count_eq]
  released := h.released

theorem Counted.get (h : c.Counted refs) (hu : u ∈ refs) : ∃ r, c.get? u = some r :=
  ⟨_, List.getElem?_eq_getElem (h.valid u hu)⟩

theorem Counted.not_released (h : c.Counted refs) (hr : c.get? u = some r) (hu : u ∈ refs) :
    r.released = false := by
  have hpos := List.count_pos_iff.mpr hu
  have hcount := h.count u r hr
  have : ¬ r.released = true := fun hrel => by
    have := (h.released u r hr).mp hrel
    omega
  simpa using this

/-- One record changes, and the references to it with it. -/
theorem Counted.update (h : c.Counted refs) (hr : c.get? u = some r)
    (f : UnitRecord → UnitRecord) (hothers : ∀ v, v ≠ u → refs'.count v = refs.count v)
    (hcount : (f r).refCount = refs'.count u)
    (hreleased : (f r).released = true ↔ (f r).refCount = 0) : (c.update u f).Counted refs' where
  valid v hv := by
    rw [Cache.update, List.length_modify]
    by_cases huv : v = u
    · subst huv
      exact (List.getElem?_eq_some_iff.mp hr).1
    · have hpos := List.count_pos_iff.mpr hv
      rw [hothers v huv] at hpos
      exact h.valid v (List.count_pos_iff.mp hpos)
  count v r' hr' := by
    obtain ⟨r₀, h₀, rfl⟩ := update_eq_some f hr'
    by_cases huv : u = v
    · subst huv
      cases hr.symm.trans h₀
      rw [if_pos rfl]
      exact hcount
    · rw [if_neg huv, hothers v (Ne.symm huv)]
      exact h.count v r₀ h₀
  released v r' hr' := by
    obtain ⟨r₀, h₀, rfl⟩ := update_eq_some f hr'
    by_cases huv : u = v
    · subst huv
      cases hr.symm.trans h₀
      rw [if_pos rfl]
      exact hreleased
    · rw [if_neg huv]
      exact h.released v r₀ h₀

theorem Counted.retain (h : c.Counted refs) (hu : u ∈ refs) :
    (c.retain u 1).Counted (u :: refs) := by
  obtain ⟨r, hr⟩ := h.get hu
  have hcount := h.count u r hr
  refine h.update hr _ (fun v hv => List.count_cons_of_ne (Ne.symm hv)) ?_ ?_
  · rw [List.count_cons_self, hcount]
    rfl
  · simp only [h.not_released hr hu, Bool.false_eq_true, false_iff]
    omega

theorem markReleased_update (c : Cache) (u : UnitRef) (f : UnitRecord → UnitRecord) :
    (c.update u f).markReleased u = c.update u fun r => { f r with released := true } := by
  unfold markReleased Cache.update
  dsimp only
  rw [List.modify_modify_eq]
  rfl

def giveBack (c : Cache) (u : UnitRef) : Cache :=
  c.update u fun r =>
    { r with refCount := r.refCount - 1, released := r.released || r.refCount == 1 }

def lastOut (c : Cache) (u : UnitRef) : List Request :=
  match c.get? u with
  | none => []
  | some r => if r.refCount = 1 ∧ r.released = false then [.disposeUnit r.handle] else []

theorem retain_eq_giveBack (h : ∀ r, c.get? u = some r → r.released = true ∨ r.refCount ≠ 1) :
    c.retain u (-1) = c.giveBack u := by
  refine update_congr fun r hr => ?_
  rcases h r hr with hrel | hcount
  · simp [hrel, Int.sub_eq_add_neg]
  · simp [hcount, Int.sub_eq_add_neg]

theorem markReleased_eq_giveBack (h : ∀ r, c.get? u = some r → r.refCount = 1) :
    (c.retain u (-1)).markReleased u = c.giveBack u := by
  rw [Cache.retain, markReleased_update]
  refine update_congr fun r hr => ?_
  simp [h r hr]

@[simp] theorem origins_giveBack (c : Cache) (u : UnitRef) : (c.giveBack u).origins = c.origins :=
  origins_update c u _ fun _ => rfl

@[simp] theorem length_giveBack (c : Cache) (u : UnitRef) :
    (c.giveBack u).records.length = c.records.length :=
  List.length_modify ..

theorem get?_retain (hr : c.get? u = some r) (n : Int) :
    (c.retain u n).get? u = some { r with refCount := r.refCount + n } := by
  rw [Cache.retain, get?_update, if_pos rfl, hr]
  rfl

theorem Counted.giveBack (h : c.Counted (u :: refs)) : (c.giveBack u).Counted refs := by
  obtain ⟨r, hr⟩ := h.get (List.mem_cons_self ..)
  have hcount := h.count u r hr
  rw [List.count_cons_self] at hcount
  refine h.update hr _ (fun v hv => (List.count_cons_of_ne (Ne.symm hv)).symm) ?_ ?_
  · dsimp only
    omega
  · simp only [h.not_released hr (List.mem_cons_self ..), Bool.false_or, beq_iff_eq]
    omega

theorem Filed.giveBack (h : c.Filed) (u : UnitRef) : (c.giveBack u).Filed :=
  h.update u _ fun _ => rfl

/-- All references to a record end at once. -/
theorem Counted.settle (h : c.Counted refs) (hu : u ∈ refs) :
    ((c.dropReferences u).markReleased u).Counted (refs.filter (· ≠ u)) := by
  obtain ⟨r, hr⟩ := h.get hu
  rw [dropReferences, markReleased_update]
  refine h.update hr _ (fun v hv => List.count_filter (by simpa using hv)) ?_ (by simp)
  have hnone : u ∉ refs.filter (· ≠ u) := by simp
  rw [List.count_eq_zero.mpr hnone]
  rfl

theorem get?_insert (c : Cache) (record : UnitRecord) (v : UnitRef) :
    (c.insert record).get? v = if v = c.records.length then some record else c.get? v := by
  unfold insert get?
  dsimp only
  split
  · rename_i hv; subst hv; simp
  · rename_i hv
    rcases Nat.lt_or_ge v c.records.length with hlt | hge
    · rw [List.getElem?_append_left hlt]
    · have hgt : c.records.length < v := Nat.lt_of_le_of_ne hge (Ne.symm hv)
      rw [List.getElem?_eq_none (by simpa using Nat.succ_le_of_lt hgt), List.getElem?_eq_none hge]

theorem Counted.insert (h : c.Counted refs) (file : String) (flags : List String)
    (handle : Handle) :
    (c.insert { file, flags, handle }).Counted (c.records.length :: refs) where
  valid v hv := by
    have : v ≤ c.records.length := by
      rcases List.mem_cons.mp hv with rfl | hv
      · exact Nat.le_refl _
      · exact Nat.le_of_lt (h.valid v hv)
    simp only [Cache.insert, List.length_append, List.length_singleton]
    exact Nat.lt_succ_of_le this
  count v r hr := by
    rw [get?_insert] at hr
    split at hr
    · rename_i hv
      cases hr
      have hfresh : v ∉ refs := fun hm => Nat.ne_of_lt (h.valid v hm) hv
      rw [← hv, List.count_cons_self, List.count_eq_zero.mpr hfresh]
      rfl
    · rename_i hv
      rw [List.count_cons_of_ne (Ne.symm hv)]
      exact h.count v r hr
  released v r hr := by
    rw [get?_insert] at hr
    split at hr
    · cases hr; simp
    · exact h.released v r hr

@[simp] theorem releasedHandles_insert (c : Cache) (file : String) (flags : List String)
    (handle : Handle) :
    (c.insert { file, flags, handle }).releasedHandles = c.releasedHandles := by
  simp [releasedHandles, insert]

theorem origins_insert (c : Cache) (record : UnitRecord) :
    (c.insert record).origins = c.origins ++ [record.origin] := by
  simp [origins, insert]

theorem kept_insert {record : UnitRecord} (hk : c.kept.get? record.file = none) :
    (c.insert record).kept = c.kept ++ [(record.file, c.records.length)] :=
  Keyed.put_of_get?_none hk

theorem get?_kept_insert {record : UnitRecord} (hk : c.kept.get? record.file = none) :
    (c.insert record).kept.get? record.file = some c.records.length := by
  rw [kept_insert hk, Keyed.get?_append, hk, Keyed.get?_cons, if_pos rfl]
  rfl

theorem Filed.insert (h : c.Filed) {record : UnitRecord} (hk : c.kept.get? record.file = none) :
    (c.insert record).Filed := by
  refine ⟨?_, fun file v hv => ?_⟩
  · rw [kept_insert hk, List.map_append, List.nodup_append]
    refine ⟨h.keys, by simp, fun f hf f' hf' e => ?_⟩
    obtain ⟨⟨f, v⟩, hv, rfl⟩ := List.mem_map.mp hf
    have hfile : f = record.file := e.trans (List.mem_singleton.mp hf')
    rw [← hfile, (Keyed.get?_eq_some_iff h.keys).mpr hv] at hk
    cases hk
  · rw [kept_insert hk] at hv
    rw [get?_insert]
    rcases List.mem_append.mp hv with hv | hv
    · obtain ⟨r, hr, hf⟩ := h.file file v hv
      have hlt : v < c.records.length := (List.getElem?_eq_some_iff.mp hr).1
      rw [if_neg (Nat.ne_of_lt hlt)]
      exact ⟨r, hr, hf⟩
    · cases List.mem_singleton.mp hv
      exact ⟨record, if_pos rfl, rfl⟩

theorem mem_keptRefs {file : String} (hk : c.kept.get? file = some u) : u ∈ c.keptRefs :=
  List.mem_map.mpr ⟨_, Keyed.mem_of_get? hk, rfl⟩

theorem keptRefs_insert {record : UnitRecord} (hk : c.kept.get? record.file = none) :
    (c.insert record).keptRefs = c.keptRefs ++ [c.records.length] := by
  unfold keptRefs
  rw [kept_insert hk, List.map_append]
  rfl

theorem Filed.forget (h : c.Filed) (file : String) : (c.forget file).Filed :=
  ⟨Keyed.nodup_erase h.keys, fun f v hv => h.file f v (List.mem_filter.mp hv).1⟩

theorem keptRefs_forget (h : c.Filed) {file : String} (hk : c.kept.get? file = some u) :
    c.keptRefs.Perm (u :: (c.forget file).keptRefs) :=
  (Keyed.perm_erase h.keys hk).map Prod.snd

theorem releasedHandles_markReleased (hr : c.get? u = some r) (hrel : r.released = false) :
    (c.markReleased u).releasedHandles.Perm (r.handle :: c.releasedHandles) := by
  unfold get? at hr
  unfold markReleased update releasedHandles
  dsimp only
  generalize c.records = l at hr
  induction l generalizing u with
  | nil => simp at hr
  | cons a l ih =>
    cases u with
    | zero =>
      simp only [List.getElem?_cons_zero, Option.some.injEq] at hr
      subst hr
      simp [hrel]
    | succ u =>
      simp only [List.getElem?_cons_succ] at hr
      simp only [List.modify_succ_cons, List.filterMap_cons]
      split
      · exact ih hr
      · exact ((ih hr).cons _).trans (List.Perm.swap ..)

/-! ## With distinct handles -/

section
variable (hn : (c.records.map (·.handle)).Nodup)
include hn

theorem mem_releasedHandles (hr : c.get? u = some r) :
    r.handle ∈ c.releasedHandles ↔ r.released = true := by
  unfold releasedHandles
  rw [List.mem_filterMap]
  constructor
  · intro hm
    obtain ⟨r', hr', hh⟩ := hm
    split at hh
    · rename_i hrel
      have hsame := List.inj_on_of_nodup_map hn hr' (List.mem_of_getElem? hr) (Option.some.inj hh)
      exact hsame ▸ hrel
    · cases hh
  · intro hrel
    exact ⟨r, List.mem_of_getElem? hr, by simp [hrel]⟩

theorem count_releasedHandles (hr : c.get? u = some r) :
    c.releasedHandles.count r.handle = if r.released then 1 else 0 := by
  have hsub : List.Sublist c.releasedHandles (c.records.map (·.handle)) := by
    unfold releasedHandles
    generalize c.records = l
    induction l with
    | nil => exact .slnil
    | cons a l ih =>
      rw [List.filterMap_cons, List.map_cons]
      split
      · exact ih.cons _
      · rename_i h
        split at h
        · cases h; exact ih.cons_cons _
        · cases h
  rw [(hsub.nodup hn).count]
  simp only [mem_releasedHandles hn hr]

end

/-- The cache has one reference to a record that it keeps for its file, and no other. -/
theorem count_keptRefs (h : c.Filed) (hr : c.get? u = some r) :
    c.keptRefs.count u = if c.kept.get? r.file = some u then 1 else 0 := by
  have hfile : ∀ f, (f, u) ∈ c.kept → f = r.file := by
    intro f hf
    obtain ⟨r', hr', rfl⟩ := h.file f u hf
    rw [hr] at hr'
    cases hr'
    rfl
  split
  · rename_i hk
    have hout : u ∉ (c.forget r.file).keptRefs := by
      intro hm
      obtain ⟨⟨f, v⟩, hv, rfl⟩ := List.mem_map.mp hm
      obtain ⟨hv, hne⟩ := List.mem_filter.mp hv
      simp [hfile f hv] at hne
    rw [(keptRefs_forget h hk).count_eq, List.count_cons_self, List.count_eq_zero.mpr hout]
  · rename_i hk
    rw [List.count_eq_zero]
    intro hm
    obtain ⟨⟨f, v⟩, hv, rfl⟩ := List.mem_map.mp hm
    cases hfile f hv
    exact hk ((Keyed.get?_eq_some_iff h.keys).mpr hv)

end Cache

end CodeSense
