import CodeSense.Keyed

/-!
# Laws of keyed lists
-/

namespace CodeSense.Keyed

variable {κ α : Type} [DecidableEq κ] {m : Keyed κ α} {k k' : κ} {a : α}

theorem get?_cons (k' : κ) (a : α) (m : Keyed κ α) (k : κ) :
    get? ((k', a) :: m) k = if k' = k then some a else m.get? k := by
  unfold get?
  by_cases h : k' = k <;> simp [h]

theorem mem_of_get? (h : m.get? k = some a) : (k, a) ∈ m := by
  unfold get? at h
  obtain ⟨⟨k', a'⟩, hf, rfl⟩ := Option.map_eq_some_iff.mp h
  have hk : k' = k := by simpa using List.find?_some hf
  exact hk ▸ List.mem_of_find?_eq_some hf

theorem get?_eq_some_iff (hn : (m.map Prod.fst).Nodup) : m.get? k = some a ↔ (k, a) ∈ m := by
  refine ⟨mem_of_get?, fun h => ?_⟩
  induction m with
  | nil => cases h
  | cons p m ih =>
    obtain ⟨k', a'⟩ := p
    rw [List.map_cons, List.nodup_cons] at hn
    rw [get?_cons]
    rcases List.mem_cons.mp h with h | h
    · cases h; simp
    · have hne : k' ≠ k := fun e => hn.1 (List.mem_map.mpr ⟨_, h, e.symm⟩)
      rw [if_neg hne]
      exact ih hn.2 h

theorem has_eq_false_iff : m.has k = false ↔ m.get? k = none := by
  unfold has get?
  simp

theorem get?_append (m m' : Keyed κ α) (k : κ) : get? (m ++ m') k = (m.get? k).or (get? m' k) := by
  unfold get?
  rw [List.find?_append]
  cases m.find? (·.1 = k) <;> simp

theorem get?_erase (m : Keyed κ α) (k k' : κ) :
    (m.erase k).get? k' = if k' = k then none else m.get? k' := by
  unfold erase
  induction m with
  | nil => simp [get?]
  | cons p m ih =>
    obtain ⟨k₀, a₀⟩ := p
    rw [List.filter_cons]
    by_cases h₀ : k₀ = k
    · subst h₀
      simp only [ne_eq, not_true_eq_false, decide_false, Bool.false_eq_true, if_false, ih,
        get?_cons]
      by_cases h : k' = k₀
      · simp [h]
      · simp [h, Ne.symm h]
    · simp only [ne_eq, h₀, not_false_eq_true, decide_true, if_true, get?_cons, ih]
      by_cases h : k₀ = k'
      · subst h; simp [h₀]
      · simp [h]

theorem put_of_get?_none (h : m.get? k = none) : m.put k a = m ++ [(k, a)] := by
  unfold put
  rw [has_eq_false_iff.mpr h]
  rfl

theorem get?_replace (m : Keyed κ α) (k : κ) (a : α) (k' : κ) :
    get? (m.map fun p => if p.1 = k then (k, a) else p) k' =
      if k' = k then (m.get? k).map fun _ => a else m.get? k' := by
  induction m with
  | nil => simp [get?]
  | cons p m ih =>
    obtain ⟨k₀, a₀⟩ := p
    rw [List.map_cons]
    by_cases h₀ : k₀ = k
    · rw [if_pos h₀, get?_cons, ih, get?_cons, get?_cons, if_pos h₀]
      by_cases h : k' = k
      · simp [h]
      · simp [h, h₀, Ne.symm h]
    · rw [if_neg h₀, get?_cons, ih, get?_cons, get?_cons, if_neg h₀]
      by_cases h : k' = k
      · simp [h, h₀]
      · simp [h]

theorem get?_put (m : Keyed κ α) (k : κ) (a : α) (k' : κ) :
    (m.put k a).get? k' = if k' = k then some a else m.get? k' := by
  cases hget : m.get? k with
  | none =>
    rw [put_of_get?_none hget, get?_append, get?_cons]
    by_cases h : k' = k
    · simp [h, hget]
    · simp [h, Ne.symm h, get?]
  | some b =>
    have hhas : m.has k = true := by
      rw [← Bool.not_eq_false, has_eq_false_iff, hget]
      exact Option.some_ne_none b
    rw [put, if_pos hhas, get?_replace, hget, Option.map_some]

theorem eq_of_mem_put {a' : α} (h : (k, a') ∈ m.put k a) : a' = a := by
  unfold put at h
  split at h
  · obtain ⟨p, -, hp⟩ := List.mem_map.mp h
    split at hp
    · exact (congrArg Prod.snd hp).symm
    · rename_i hne
      exact absurd (congrArg Prod.fst hp) hne
  · rename_i hhas
    rcases List.mem_append.mp h with hmem | hlast
    · refine absurd (List.any_eq_true.mpr ⟨_, hmem, ?_⟩) hhas
      simp
    · exact congrArg Prod.snd (List.mem_singleton.mp hlast)

theorem erase_of_get?_none (h : m.get? k = none) : m.erase k = m := by
  unfold erase
  rw [List.filter_eq_self]
  intro p hp
  have : m.has k = false := has_eq_false_iff.mpr h
  simpa using List.any_eq_false.mp this p hp

theorem nodup_erase (hn : (m.map Prod.fst).Nodup) : ((m.erase k).map Prod.fst).Nodup :=
  (List.Sublist.map Prod.fst List.filter_sublist).nodup hn

theorem perm_erase (hn : (m.map Prod.fst).Nodup) (h : m.get? k = some a) :
    m.Perm ((k, a) :: m.erase k) := by
  induction m with
  | nil => cases h
  | cons p m ih =>
    obtain ⟨k', a'⟩ := p
    rw [List.map_cons, List.nodup_cons] at hn
    rw [get?_cons] at h
    by_cases hk : k' = k
    · subst hk
      rw [if_pos rfl] at h
      cases h
      have hnone : get? m k' = none := by
        cases hg : get? m k' with
        | none => rfl
        | some a => exact absurd (List.mem_map_of_mem (f := Prod.fst) (mem_of_get? hg)) hn.1
      have he : erase ((k', a) :: m) k' = erase m k' := by simp [erase]
      rw [he, erase_of_get?_none hnone]
    · rw [if_neg hk] at h
      have he : erase ((k', a') :: m) k = (k', a') :: erase m k := by simp [erase, hk]
      rw [he]
      exact ((ih hn.2 h).cons _).trans (List.Perm.swap ..)

theorem mem_keys_iff : k ∈ m.map Prod.fst ↔ ∃ a, m.get? k = some a := by
  constructor
  · intro h
    obtain ⟨⟨k', a'⟩, hmem, rfl⟩ := List.mem_map.mp h
    cases hg : m.get? k' with
    | some a => exact ⟨a, rfl⟩
    | none => simpa using List.any_eq_false.mp (has_eq_false_iff.mpr hg) _ hmem
  · rintro ⟨a, ha⟩
    exact List.mem_map.mpr ⟨_, mem_of_get? ha, rfl⟩

theorem mem_keys_put : k' ∈ (m.put k a).map Prod.fst ↔ k' = k ∨ k' ∈ m.map Prod.fst := by
  cases hg : m.get? k with
  | none =>
    rw [put_of_get?_none hg, List.map_append, List.mem_append, or_comm]
    simp
  | some b =>
    have hk : k ∈ m.map Prod.fst := mem_keys_iff.mpr ⟨b, hg⟩
    have hkeys : (m.put k a).map Prod.fst = m.map Prod.fst := by
      unfold put
      split
      · rw [List.map_map]
        refine List.map_congr_left fun p _ => ?_
        by_cases hp : p.1 = k <;> simp [hp]
      · rename_i hhas
        rw [has_eq_false_iff.mp (by simpa using hhas)] at hg
        cases hg
    rw [hkeys]
    exact ⟨.inr, fun h => h.elim (fun h => h ▸ hk) id⟩

theorem mem_keys_erase : k' ∈ (m.erase k).map Prod.fst ↔ k' ≠ k ∧ k' ∈ m.map Prod.fst := by
  simp only [mem_keys_iff, get?_erase]
  by_cases h : k' = k <;> simp [h]

end CodeSense.Keyed
