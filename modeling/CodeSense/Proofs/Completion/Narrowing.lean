import CodeSense.Completion.Matching
import Mathlib.Data.List.Infix

/-!
# Typing more

What is typed decides how it is compared, so that two runs with more and less typed may compare
by different rules. Still, who types more sees fewer candidates, and so does who minds the
case: `candidates_narrow`. All that this needs to know of case folding is that it goes character
by character (`fold_append`).
-/

namespace CodeSense

theorem Text.fold_append (a b : List Char) : fold (a ++ b) = fold a ++ fold b :=
  List.flatMap_append

theorem Text.fold_prefix {a b : List Char} (h : a <+: b) : fold a <+: fold b := by
  obtain ⟨rest, rfl⟩ := h
  rw [fold_append]
  exact List.prefix_append _ _

namespace MatchStyle

variable {style : MatchStyle} {typed more text : String}

theorem accepts_exact : accepts .exact typed text = true ↔ typed.toList <+: text.toList :=
  List.isPrefixOf_iff_prefix

theorem accepts_caseInsensitive :
    accepts .caseInsensitive typed text = true ↔
      Text.fold typed.toList <+: Text.fold text.toList :=
  List.isPrefixOf_iff_prefix

theorem accepts_smartCase :
    accepts .smartCase typed text = if typed.toList.any Text.isUpper then accepts .exact typed text
      else accepts .caseInsensitive typed text := by
  unfold accepts forTyped
  cases typed.toList.any Text.isUpper <;> rfl

/-- Minding the case accepts less. -/
theorem accepts_of_exact (h : accepts .exact typed text = true) :
    accepts .caseInsensitive typed text = true :=
  accepts_caseInsensitive.mpr (Text.fold_prefix (accepts_exact.mp h))

theorem accepts_smartCase_of_exact (h : accepts .exact typed text = true) :
    accepts .smartCase typed text = true := by
  rw [accepts_smartCase]
  split
  · exact h
  · exact accepts_of_exact h

theorem accepts_of_smartCase (h : accepts .smartCase typed text = true) :
    accepts .caseInsensitive typed text = true := by
  rw [accepts_smartCase] at h
  split at h
  · exact accepts_of_exact h
  · exact h

theorem accepts_of_append (h : accepts style (typed ++ more) text = true) :
    accepts style typed text = true := by
  have hexact : accepts .exact (typed ++ more) text = true → accepts .exact typed text = true := by
    rw [accepts_exact, accepts_exact, String.toList_append]
    exact (List.prefix_append _ _).trans
  have hfolded : accepts .caseInsensitive (typed ++ more) text = true →
      accepts .caseInsensitive typed text = true := by
    rw [accepts_caseInsensitive, accepts_caseInsensitive, String.toList_append, Text.fold_append]
    exact (List.prefix_append _ _).trans
  cases style with
  | exact => exact hexact h
  | caseInsensitive => exact hfolded h
  | smartCase =>
    rw [accepts_smartCase, String.toList_append, List.any_append] at h
    rw [accepts_smartCase]
    cases htyped : typed.toList.any Text.isUpper with
    | true =>
      rw [htyped] at h
      exact hexact h
    | false =>
      rw [htyped, Bool.false_or] at h
      -- an upper-case letter among what is new changes the rule
      split at h
      · exact accepts_of_exact (hexact h)
      · exact hfolded h

end MatchStyle

theorem candidates_sublist {a b : MatchStyle} {typed typed' : String}
    (h : ∀ text, a.accepts typed text = true → b.accepts typed' text = true)
    (records : List Completion) :
    (candidates records typed a).Sublist (candidates records typed' b) :=
  List.monotone_filter_right _ fun c => h c.typedText

theorem candidates_nothing_typed (records : List Completion) (style : MatchStyle) :
    candidates records "" style = records.filterMap Completion.decode := by
  refine List.filter_eq_self.mpr fun c _ => ?_
  cases style <;> rfl

/-- **Typing more narrows the candidates.** All of them are there while nothing is typed, and
whatever the style, none comes back, also where smart case begins to mind the case. Minding the case
only for upper-case letters narrows them too, and minding it always even more. -/
theorem candidates_narrow (records : List Completion) :
    (∀ style, candidates records "" style = records.filterMap Completion.decode) ∧
    (∀ style typed more,
      (candidates records (typed ++ more) style).Sublist (candidates records typed style)) ∧
    ∀ typed,
      (candidates records typed .exact).Sublist (candidates records typed .smartCase) ∧
      (candidates records typed .smartCase).Sublist
        (candidates records typed .caseInsensitive) := by
  refine ⟨candidates_nothing_typed records, fun style typed more => ?_, fun typed => ⟨?_, ?_⟩⟩
  · exact candidates_sublist (fun _ => MatchStyle.accepts_of_append) records
  · exact candidates_sublist (fun _ => MatchStyle.accepts_smartCase_of_exact) records
  · exact candidates_sublist (fun _ => MatchStyle.accepts_of_smartCase) records

/-- A ligature begins with the letter that it folds to, until an upper-case letter is typed. -/
example :
    let records : List Completion :=
      ["fo", "fO", "\ufb00o"].map fun name => { priority := 0, chunks := [⟨.typedText, name⟩] }
    (candidates records "f" .smartCase).map (·.typedText) = ["fo", "fO", "\ufb00o"] ∧
      (candidates records "fO" .smartCase).map (·.typedText) = ["fO"] := by
  decide +kernel

end CodeSense
