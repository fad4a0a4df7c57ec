import CodeSense.FileSystem
import CodeSense.Proofs.Keyed

/-!
# Files that come and go

A file that was made where nothing was leaves no trace once it is removed: `remove_write`. While it
is there, nobody notices who reads anything else: `readsAlike_of_near`.
-/

namespace CodeSense.FileSystem

variable {fs : FileSystem} {path : String} {place : List String} {bytes : List UInt8}

/-- The path leads to a place where a file can be made and nothing is. -/
structure Free (fs : FileSystem) (path : String) : Prop where
  spelled : fs.pathFault? path = none
  vacant : ∃ place, fs.target path = .ok place ∧ fs.node? place = none

theorem locate_of_target (h : fs.target path = .ok place) : fs.locate path = .ok place := by
  unfold target at h
  split at h
  · simp only [bind, Except.bind] at h
    split at h <;> cases h
  · exact h

theorem opening_path (h : fs.pathFault? path = none) (x : Except FileError α) :
    fs.opening path x = x.mapError (.cannotOpen · path) := by
  rw [opening, h]

/-- What is no path is never looked up, and what is one may lead nowhere. -/
theorem opening_error {x : Except FileError α} {e : Fault} (h : fs.opening path x = .error e) :
    fs.pathFault? path = some e ∨ fs.pathFault? path = none ∧ ∃ f, e = .cannotOpen f path := by
  unfold opening at h
  split at h
  · cases h
    exact .inl ‹_›
  · refine .inr ⟨‹_›, ?_⟩
    cases x with
    | error f =>
      cases h
      exact ⟨f, rfl⟩
    | ok a => cases h

theorem pathFault?_eq_some {e : Fault} (h : fs.pathFault? path = some e) :
    e = .nullInPath ∧ '\x00' ∈ path.toList ∨
      ∃ c position, e = .unencodable c position ∧ fs.misfit? path = some (c, position) := by
  unfold pathFault? at h
  split at h
  · cases h
    exact .inr ⟨_, _, rfl, ‹_›⟩
  · split at h
    · rename_i hnull
      cases h
      exact .inl ⟨rfl, by simpa using hnull⟩
    · cases h

def withFile (fs : FileSystem) (place : List String) (bytes : List UInt8) : FileSystem :=
  { fs with nodes := fs.nodes ++ [(place, .file bytes)] }

section
variable (hfree : fs.node? place = none)
include hfree

theorem get?_of_vacant : fs.nodes.get? place = none := by
  unfold node? at hfree
  split at hfree
  · cases hfree
  · assumption

theorem node?_withFile_self : (fs.withFile place bytes).node? place = some (.file bytes) := by
  have hget : (fs.withFile place bytes).nodes.get? place = some (.file bytes) := by
    unfold withFile
    rw [Keyed.get?_append, get?_of_vacant hfree, Keyed.get?_cons, if_pos rfl]
    rfl
  simp [node?, hget]

theorem node?_withFile {q : List String} {node : Node} (h : fs.node? q = some node) :
    (fs.withFile place bytes).node? q = some node := by
  have hne : place ≠ q := by
    rintro rfl
    rw [hfree] at h
    cases h
  have hget : (fs.withFile place bytes).nodes.get? q = fs.nodes.get? q := by
    unfold withFile
    rw [Keyed.get?_append, Keyed.get?_cons, if_neg hne]
    exact Option.or_none ..
  unfold node? at h ⊢
  rw [hget]
  cases hq : fs.nodes.get? q with
  | some found =>
    rw [hq] at h
    exact h
  | none =>
    rw [hq] at h
    dsimp only at h ⊢
    split at h
    · rename_i habove
      cases h
      rw [if_pos]
      simp only [withFile, List.any_append, Bool.or_eq_true] at habove ⊢
      exact habove.imp id .inl
    · cases h

theorem walk_withFile {start : List String} {components : List String} {target : List String}
    (h : fs.walk start components = .ok target) :
    (fs.withFile place bytes).walk start components = .ok target := by
  induction components generalizing start with
  | nil => exact h
  | cons c rest ih =>
    unfold walk at h ⊢
    cases hnode : fs.node? start with
    | none =>
      rw [hnode] at h
      cases h
    | some node =>
      rw [hnode] at h
      rw [node?_withFile hfree hnode]
      cases node with
      | file old => cases h
      | directory =>
        dsimp only at h ⊢
        split at h
        · rename_i hhere
          rw [if_pos hhere]
          exact ih h
        · rename_i hhere
          rw [if_neg hhere]
          split at h
          · rename_i hup
            rw [if_pos hup]
            exact ih h
          · rename_i hup
            rw [if_neg hup]
            split at h
            · cases h
            · rename_i hname
              rw [if_neg hname]
              exact ih h

theorem locate_withFile {target : List String} (h : fs.locate path = .ok target) :
    (fs.withFile place bytes).locate path = .ok target := by
  unfold locate follow at h ⊢
  split at h
  · cases h
  · rename_i hempty
    rw [if_neg hempty]
    split at h
    · cases h
    · rename_i hlong
      rw [if_neg hlong]
      exact walk_withFile hfree h

end

theorem write_of_free (h : fs.Free path) (bytes : List UInt8) :
    ∃ place, fs.locate path = .ok place ∧ fs.node? place = none ∧
      fs.write path bytes = .ok (fs.withFile place bytes) := by
  obtain ⟨hpath, place, htarget, hvacant⟩ := h
  refine ⟨place, locate_of_target htarget, hvacant, ?_⟩
  unfold write
  rw [opening_path hpath, htarget]
  simp only [bind, Except.bind, hvacant, Keyed.put_of_get?_none (get?_of_vacant hvacant)]
  rfl

/-- **Files that come and go.** Removing a new file brings back the files as they were. -/
theorem remove_write (h : fs.Free path) (bytes : List UInt8) :
    ∃ made, fs.write path bytes = .ok made ∧ made.remove path = .ok fs := by
  obtain ⟨place, hplace, hvacant, hwrite⟩ := write_of_free h bytes
  have hpath : (fs.withFile place bytes).pathFault? path = none := h.spelled
  have hlocate : (fs.withFile place bytes).locate path = .ok place :=
    locate_withFile hvacant hplace
  refine ⟨fs.withFile place bytes, hwrite, ?_⟩
  unfold remove
  rw [opening_path hpath, hlocate]
  simp only [bind, Except.bind, node?_withFile_self hvacant]
  have herase : (fs.withFile place bytes).nodes.erase place = fs.nodes := by
    have hrest := Keyed.erase_of_get?_none (get?_of_vacant hvacant)
    unfold Keyed.erase at hrest ⊢
    rw [withFile, List.filter_append, hrest]
    simp
  rw [herase]
  rfl

/-! ## Other files -/

theorem node?_eq_none_iff {q : List String} :
    fs.node? q = none ↔
      fs.nodes.get? q = none ∧ ¬ q <+: fs.workDir ∧ ∀ p ∈ fs.nodes, ¬ q <+: p.1 := by
  unfold node?
  cases fs.nodes.get? q with
  | some node => simp
  | none => simp

/-- There is nothing below a place where nothing is. -/
theorem node?_eq_none_below {q r : List String} (hqr : q <+: r) (h : fs.node? q = none) :
    fs.node? r = none := by
  obtain ⟨-, hwork, hnodes⟩ := node?_eq_none_iff.mp h
  refine node?_eq_none_iff.mpr ⟨?_, fun hr => hwork (hqr.trans hr), fun p hp hr => ?_⟩
  · cases hget : fs.nodes.get? r with
    | none => rfl
    | some node => exact absurd hqr (hnodes _ (Keyed.mem_of_get? hget))
  · exact hnodes p hp (hqr.trans hr)

theorem above_of_walk {start components : List String} (h : fs.walk start components = .ok place)
    (hstart : fs.node? start ≠ none) (hvacant : fs.node? place = none) :
    ∃ dir c, place = dir ++ [c] ∧ fs.node? dir ≠ none := by
  induction components generalizing start with
  | nil =>
    cases h
    exact absurd hvacant hstart
  | cons c rest ih =>
    unfold walk at h
    split at h
    · cases h
    · cases h
    · split at h
      · exact ih h hstart
      · split at h
        · refine ih h fun hup => hstart ?_
          exact node?_eq_none_below (List.dropLast_prefix start) hup
        · split at h
          · cases h
          · by_cases hdown : fs.node? (start ++ [c]) = none
            · -- the path can only end here
              cases rest with
              | nil =>
                cases h
                exact ⟨start, c, rfl, hstart⟩
              | cons d rest => simp [walk, hdown] at h
            · exact ih h hdown

theorem above_of_locate (h : fs.locate path = .ok place) (hvacant : fs.node? place = none) :
    ∃ dir c, place = dir ++ [c] ∧ fs.node? dir ≠ none := by
  unfold locate follow at h
  split at h
  · cases h
  · split at h
    · cases h
    · refine above_of_walk h ?_ hvacant
      split
      · exact fun hroot => (node?_eq_none_iff.mp hroot).2.1 List.nil_prefix
      · exact fun hwork => (node?_eq_none_iff.mp hwork).2.1 List.prefix_rfl

section
variable (hvacant : fs.node? place = none) {dir : List String} {c : String}
  (hplace : place = dir ++ [c]) (hdir : fs.node? dir ≠ none)
include hvacant hplace hdir

theorem node?_withFile_of_ne {q : List String} (hq : q ≠ place) :
    (fs.withFile place bytes).node? q = fs.node? q := by
  cases hnode : fs.node? q with
  | some node => exact node?_withFile hvacant hnode
  | none =>
    obtain ⟨hget, hwork, hnodes⟩ := node?_eq_none_iff.mp hnode
    refine node?_eq_none_iff.mpr ⟨?_, hwork, fun p hp hpre => ?_⟩
    · unfold withFile
      rw [Keyed.get?_append, hget, Keyed.get?_cons, if_neg (Ne.symm hq)]
      rfl
    · rcases List.mem_append.mp hp with hp | hp
      · exact hnodes p hp hpre
      · rw [List.mem_singleton.mp hp, hplace, List.prefix_concat_iff, ← hplace] at hpre
        exact hdir (node?_eq_none_below (hpre.resolve_left hq) hnode)

/-- Who comes to the new file on the way elsewhere fails with it and without it. -/
theorem walk_withFile_alike (start components : List String) :
    fs.walk start components = (fs.withFile place bytes).walk start components ∨
      ∃ e e', fs.walk start components = .error e ∧
        (fs.withFile place bytes).walk start components = .error e' := by
  induction components generalizing start with
  | nil => exact .inl rfl
  | cons d rest ih =>
    by_cases hstart : start = place
    · subst hstart
      refine .inr ⟨.missing, .notDirectory, ?_, ?_⟩
      · simp [walk, hvacant]
      · simp [walk, node?_withFile_self hvacant]
    · unfold walk
      rw [node?_withFile_of_ne hvacant hplace hdir hstart]
      split
      · exact .inl rfl
      · exact .inl rfl
      · split
        · exact ih _
        · split
          · exact ih _
          · split
            · exact .inl rfl
            · exact ih _

end

/-- Whoever reads the path finds the same in both, or cannot open it in either. -/
def ReadsAlike (f g : FileSystem) (path : String) : Prop :=
  f.read path = g.read path ∨ ∃ e e', f.read path = .error (.cannotOpen e path) ∧
    g.read path = .error (.cannotOpen e' path)

theorem ReadsAlike.refl (f : FileSystem) (path : String) : ReadsAlike f f path := .inl rfl

theorem ReadsAlike.symm {f g : FileSystem} (h : ReadsAlike f g path) : ReadsAlike g f path := by
  rcases h with h | ⟨e, e', he, he'⟩
  · exact .inl h.symm
  · exact .inr ⟨e', e, he', he⟩

theorem readsAlike_withFile {source : String} (hplace : fs.locate path = .ok place)
    (hvacant : fs.node? place = none) (hsource : fs.locate source ≠ .ok place) :
    ReadsAlike fs (fs.withFile place bytes) source := by
  obtain ⟨dir, c, hconcat, hdir⟩ := above_of_locate hplace hvacant
  have hlocate : fs.locate source = (fs.withFile place bytes).locate source ∨
      ∃ e e', fs.locate source = .error e ∧
        (fs.withFile place bytes).locate source = .error e' := by
    unfold locate follow
    split
    · exact .inl rfl
    · split
      · exact .inl rfl
      · exact walk_withFile_alike hvacant hconcat hdir _ _
  have hpath : (fs.withFile place bytes).pathFault? source = fs.pathFault? source := rfl
  unfold ReadsAlike read opening
  rw [hpath]
  split
  · exact .inl rfl
  · rcases hlocate with hsame | ⟨e, e', he, he'⟩
    · rw [← hsame]
      cases hq : fs.locate source with
      | error e => exact .inl rfl
      | ok q =>
        have hne : q ≠ place := fun h => hsource (by rw [hq, h])
        simp only [bind, Except.bind, node?_withFile_of_ne hvacant hconcat hdir hne]
        exact .inl trivial
    · rw [he, he']
      exact .inr ⟨e, e', rfl, rfl⟩

/-- The files are as they were, but for a new file at the path. -/
def Near (fs : FileSystem) (path : String) (f : FileSystem) : Prop :=
  f = fs ∨ fs.write path [] = .ok f

/-- **Other files.** A new file changes nothing for those who read others. -/
theorem readsAlike_of_near {f g : FileSystem} {source : String} (hfree : fs.Free path)
    (hf : Near fs path f) (hg : Near fs path g) (hsource : fs.locate source ≠ fs.locate path) :
    ReadsAlike f g source := by
  obtain ⟨place, hplace, hvacant, hwrite⟩ := write_of_free hfree []
  rw [hplace] at hsource
  have halike : ReadsAlike fs (fs.withFile place []) source :=
    readsAlike_withFile hplace hvacant hsource
  unfold Near at hf hg
  rw [hwrite] at hf hg
  rcases hf with rfl | hf
  · rcases hg with rfl | hg
    · exact .refl _ _
    · cases hg
      exact halike
  · cases hf
    rcases hg with rfl | hg
    · exact halike.symm
    · cases hg
      exact .refl _ _

end CodeSense.FileSystem
