import CodeSense.Completion.Matching
import CodeSense.Proofs.Completion.Decoding

/-!
# The order of candidates

A list in the order of a key is determined by its members of each key (`eq_of_ties`). So a
stable sort commutes with everything that keeps the keys, with decoding and filtering above all:
`candidates_sorted`.
-/

namespace CodeSense

section
variable {α β : Type} {key : α → Int}

theorem sortByPriority_perm (l : List α) : (sortByPriority key l).Perm l := List.mergeSort_perm _ _

private theorem key_trans (a b c : α) (hab : decide (key a ≤ key b) = true)
    (hbc : decide (key b ≤ key c) = true) : decide (key a ≤ key c) = true := by
  simp only [decide_eq_true_eq] at *
  omega

private theorem key_total (a b : α) : (decide (key a ≤ key b) || decide (key b ≤ key a)) = true := by
  simp only [Bool.or_eq_true, decide_eq_true_eq]
  omega

theorem sortByPriority_ordered (l : List α) :
    (sortByPriority key l).Pairwise (key · ≤ key ·) :=
  (List.pairwise_mergeSort key_trans key_total l).imp of_decide_eq_true

/-- Members of equal key keep their order. -/
theorem filter_sortByPriority (l : List α) (n : Int) :
    (sortByPriority key l).filter (key · = n) = l.filter (key · = n) := by
  have hties : (l.filter (key · = n)).Pairwise fun a b => decide (key a ≤ key b) = true := by
    refine List.pairwise_of_forall_mem_list fun a ha b hb => ?_
    simp only [List.mem_filter, decide_eq_true_eq] at ha hb ⊢
    omega
  have hsub := (List.sublist_mergeSort key_trans key_total hties List.filter_sublist).filter
    (key · = n)
  simp only [List.filter_filter, Bool.and_self] at hsub
  exact (hsub.eq_of_length ((sortByPriority_perm l).filter _).length_eq.symm).symm

theorem mem_iff_of_ties {l m : List α} (h : ∀ n, l.filter (key · = n) = m.filter (key · = n)) (a : α) :
    a ∈ l ↔ a ∈ m := by
  have ha : a ∈ l.filter (key · = key a) ↔ a ∈ m.filter (key · = key a) := by rw [h]
  simpa using ha

theorem eq_of_ties {l m : List α} (hl : l.Pairwise (key · ≤ key ·)) (hm : m.Pairwise (key · ≤ key ·))
    (h : ∀ n, l.filter (key · = n) = m.filter (key · = n)) : l = m := by
  induction l generalizing m with
  | nil =>
    refine (List.eq_nil_iff_forall_not_mem.mpr fun a ha => ?_).symm
    cases (mem_iff_of_ties h a).mpr ha
  | cons a l ih =>
    cases m with
    | nil => cases (mem_iff_of_ties h a).mp (List.mem_cons_self ..)
    | cons b m =>
      obtain ⟨ha, hl'⟩ := List.pairwise_cons.mp hl
      obtain ⟨hb, hm'⟩ := List.pairwise_cons.mp hm
      -- both heads have the least key, so that they are the first of the same ties
      have hab : key a ≤ key b := by
        rcases List.mem_cons.mp ((mem_iff_of_ties h b).mpr (List.mem_cons_self ..)) with rfl | hb'
        · exact Int.le_refl _
        · exact ha b hb'
      have hba : key b ≤ key a := by
        rcases List.mem_cons.mp ((mem_iff_of_ties h a).mp (List.mem_cons_self ..)) with rfl | ha'
        · exact Int.le_refl _
        · exact hb a ha'
      have hkeys : key b = key a := Int.le_antisymm hba hab
      have hfirst := h (key a)
      rw [List.filter_cons_of_pos (by simp), List.filter_cons_of_pos (by simpa using hkeys)] at hfirst
      obtain ⟨rfl, -⟩ := List.cons.inj hfirst
      refine congrArg (a :: ·) (ih hl' hm' fun n => ?_)
      have hn := h n
      by_cases hkey : key a = n
      · rw [List.filter_cons_of_pos (by simpa using hkey),
          List.filter_cons_of_pos (by simpa using hkey)] at hn
        exact (List.cons.inj hn).2
      · rw [List.filter_cons_of_neg (by simpa using hkey),
          List.filter_cons_of_neg (by simpa using hkey)] at hn
        exact hn

section
variable {key' : β → Int} {f : α → Option β}
  (hf : ∀ a b, f a = some b → key' b = key a)
include hf

theorem filter_filterMap_of_key (l : List α) (n : Int) :
    (l.filterMap f).filter (key' · = n) = (l.filter (key · = n)).filterMap f := by
  rw [List.filter_filterMap, List.filterMap_filter]
  congr 1
  funext a
  cases ha : f a with
  | none => simp
  | some b => simp [Option.filter, hf a b ha]

/-- A stable sort commutes with a partial map that keeps the keys. -/
theorem filterMap_sortByPriority (l : List α) :
    (sortByPriority key l).filterMap f = sortByPriority key' (l.filterMap f) := by
  refine eq_of_ties ?_ (sortByPriority_ordered _) fun n => ?_
  · refine (sortByPriority_ordered l).filterMap f fun a a' haa' b hb b' hb' => ?_
    rw [hf a b hb, hf a' b' hb']
    exact haa'
  · rw [filter_filterMap_of_key hf, filter_sortByPriority, filter_sortByPriority,
      filter_filterMap_of_key hf]

end

end

/-! ## Candidates -/

section
variable {typed : String} {style : MatchStyle}

def Completion.isOffered (typed : String) (style : MatchStyle) (r : Completion) : Bool :=
  r.availability ≠ .notAvailable &&
    (r.chunks.find? (·.kind = .typedText)).any fun c => style.accepts typed c.text

/-- The completions that give a candidate are decoded to these, one by one. -/
def Offers (typed : String) (style : MatchStyle) (records : List Completion)
    (found : List Candidate) : Prop :=
  (records.filter (·.isOffered typed style)).map Completion.decode = found.map some

/-- The candidates, best first, in the order that they came in as far as they are equally good. -/
structure Ranked (offered found : List Candidate) : Prop where
  perm : found.Perm offered
  ordered : found.Pairwise (·.priority ≤ ·.priority)
  ties : ∀ n, found.filter (·.priority = n) = offered.filter (·.priority = n)

theorem ranked_sortByPriority (offered : List Candidate) :
    Ranked offered (sortByPriority (·.priority) offered) :=
  ⟨sortByPriority_perm _, sortByPriority_ordered _, filter_sortByPriority _⟩

theorem Completion.decode_priority {r : Completion} {c : Candidate} (h : r.decode = some c) :
    c.priority = r.priority := by
  unfold decode at h
  split at h
  · cases h
  · obtain ⟨t, -, rfl⟩ := Option.map_eq_some_iff.mp h
    rfl

theorem Completion.map_typedText_decode (r : Completion) :
    r.decode.map (·.typedText) = if r.availability = .notAvailable then none
      else (r.chunks.find? (·.kind = .typedText)).map (·.text) := by
  unfold decode
  split
  · rfl
  · simp [Draft.foldl_typedText, Function.comp_def]

theorem Completion.isOffered_eq (r : Completion) :
    r.isOffered typed style = r.decode.any fun c => style.accepts typed c.typedText := by
  have hany : (r.decode.any fun c => style.accepts typed c.typedText) =
      (r.decode.map (·.typedText)).any (style.accepts typed) := by
    rw [Option.any_map]
  rw [hany, map_typedText_decode]
  unfold isOffered
  by_cases h : r.availability = .notAvailable
  · simp [h]
  · simp [h, Option.any_map]

theorem candidates_eq_filterMap (records : List Completion) :
    candidates records typed style =
      records.filterMap fun r => r.decode.filter fun c => style.accepts typed c.typedText :=
  List.filter_filterMap

theorem offers_candidates (records : List Completion) :
    Offers typed style records (candidates records typed style) := by
  rw [candidates_eq_filterMap]
  unfold Offers
  induction records with
  | nil => rfl
  | cons r records ih =>
    rw [List.filter_cons, List.filterMap_cons, Completion.isOffered_eq]
    cases hr : r.decode with
    | none => simpa using ih
    | some c =>
      by_cases hc : style.accepts typed c.typedText = true
      · simpa [Option.filter, hc, hr] using ih
      · simpa [Option.filter, hc] using ih

theorem candidates_sorted (records : List Completion) :
    candidates (sortByPriority (·.priority) records) typed style =
      sortByPriority (·.priority) (candidates records typed style) := by
  rw [candidates_eq_filterMap, candidates_eq_filterMap]
  refine filterMap_sortByPriority (fun r c h => ?_) records
  exact Completion.decode_priority (Option.filter_eq_some_iff.mp h).1

end

end CodeSense
