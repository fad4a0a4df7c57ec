import CodeSense.Proofs.Server.Returning
import CodeSense.Proofs.Session.Agreement
import CodeSense.Proofs.Startup.Cleanup

/-!
# Servers with and without a scratch file

Two servers over the same files, of which one may have made its scratch file while the other has
not, do the same with the same command as long as it does not read that file: `execute_twin`.
-/

namespace CodeSense

def Slack.besides {σ : Type} (V : Slack σ) (files : FileSystem) (path : String) : Slack σ :=
  { V with files := fun f g => files.Near path f ∧ files.Near path g }

theorem Source.command_of_split {source : Source} {words : List String}
    (h : source.split = .ok words) : source.command = words := by
  cases source with
  | words ws =>
    cases h
    rfl
  | line text =>
    have hline : Words.split text = .ok words := h
    simp [command, hline, Except.toOption]

theorem Source.reads?_of_task {source : Source} {words : List String} {path file name : String}
    (hsplit : source.split = .ok words)
    (htask : Task.ofWords path words = .ok (.operation (.setUnsaved file name))) :
    source.reads? = some name := by
  obtain ⟨v, rest, rfl, hfits, hread⟩ := Task.ofWords_ok htask
  unfold reads?
  rw [command_of_split hsplit]
  dsimp only
  rw [Verb.ofName?_name]
  generalize (Words.splitFlags rest).1 = args at hfits hread
  cases hfits <;> simp [Task.ofArguments, Task.bind_eq_ok_iff] at hread ⊢
  exact hread.2

namespace Server

variable {σ : Type} {E : Engine σ} {V : Slack σ} {files : FileSystem} {path : String}
  {s t s' t' : Server σ}

def Home (files : FileSystem) (path : String) (s : Server σ) : Prop :=
  Tidy files path s ∧ s.scratch.blocked = none

theorem home_initial (settings : Settings) (files : FileSystem) (path : String) (engine : σ) :
    Home files path (initial settings files path engine) :=
  ⟨⟨rfl, fun _ => rfl, fun h => by cases h⟩, rfl⟩

theorem home_invariant (E : Engine σ) (hfree : files.Free path) : Invariant E (Home files path) :=
  (tidy_invariant E hfree).and (free_invariant E)

theorem Home.near (h : Home files path s) : files.Near path s.session.files := by
  cases hopen : s.scratch.isOpen with
  | false => exact .inl (h.1.closed hopen)
  | true => exact .inr (h.1.made hopen)

structure Twin (V : Slack σ) (files : FileSystem) (path : String) (s t : Server σ) : Prop where
  session : s.session.Alike (V.besides files path) t.session
  left : Home files path s
  right : Home files path t

theorem twin_initial {a b : Settings} (hsettings : a.Alike b) (files : FileSystem) (path : String)
    {x y : σ} (hengine : V.engine x y) (hout : V.out "" "")
    (hjournal : Journal.Alike V.loose (initial a files path x).session.pool.journal
      (initial b files path y).session.pool.journal) :
    Twin V files path (initial a files path x) (initial b files path y) := by
  have hleft : Home files path (initial a files path x) := home_initial ..
  have hright : Home files path (initial b files path y) := home_initial ..
  exact ⟨⟨⟨hengine, rfl, hjournal⟩, hsettings, ⟨hleft.near, hright.near⟩, rfl, rfl, rfl, hout⟩,
    hleft, hright⟩

/-- The command does not ask for what the file at the path holds. -/
def Spares (files : FileSystem) (path : String) (words : List String) : Prop :=
  ∀ file name, Task.ofWords path words = .ok (.operation (.setUnsaved file name)) →
    files.locate name ≠ files.locate path

theorem spares_of_reads? {source : Source}
    (h : ∀ name, source.reads? = some name → files.locate name ≠ files.locate path)
    {words : List String} (hsplit : source.split = .ok words) : Spares files path words :=
  fun _ name htask => h name (Source.reads?_of_task hsplit htask)

def Legible (path : String) (words : List String) : Prop :=
  ∀ file line column flags,
    Task.ofWords path words = .ok (.operation (.complete file line column flags)) →
    Session.isWritable line column = true

theorem Twin.emit (h : Twin V files path s t) (text : String) :
    Twin V files path (onSession (Session.emit text) s).2 (onSession (Session.emit text) t).2 :=
  ⟨((Session.emit_oblivious text).ends _ _ h.session).2,
    ⟨⟨h.left.1.located, h.left.1.closed, h.left.1.made⟩, h.left.2⟩,
    ⟨⟨h.right.1.located, h.right.1.closed, h.right.1.made⟩, h.right.2⟩⟩

section
variable (hfree : files.Free path)
include hfree

theorem Home.untouched (h : Home files path s) (hs : Untouched s s') : Home files path s' := by
  -- the engine has no part in this
  let E : Engine σ := ⟨fun _ engine => (.fault .exit, engine)⟩
  exact (home_invariant E hfree).untouched hs h

theorem Twin.untouched (h : Twin V files path s t) (hs : Untouched s s') (ht : Untouched t t') :
    Twin V files path s' t' := by
  have hs' := h.left.untouched hfree hs
  have ht' := h.right.untouched hfree ht
  refine ⟨⟨⟨?_, ?_, h.session.pool.journal.of_refuses hs.refuses ht.refuses⟩, ?_, ?_, ?_, ?_, ?_, ?_⟩,
    hs', ht'⟩
  · rw [hs.engine, ht.engine]
    exact h.session.pool.engine
  · rw [hs.cache, ht.cache]
    exact h.session.pool.cache
  · rw [hs.settings, ht.settings]
    exact h.session.settings
  · exact ⟨hs'.near, ht'.near⟩
  · rw [hs.overlays, ht.overlays]
    exact h.session.overlays
  · rw [hs.parse, ht.parse]
    exact h.session.activeParse
  · rw [hs.completion, ht.completion]
    exact h.session.activeCompletion
  · rw [hs.out, ht.out]
    exact h.session.out

theorem Twin.take (h : Twin V files path s t) (a b : Source) (words words' : List String) :
    Twin V files path (take a words s) (take b words' t) :=
  h.untouched hfree (take_untouched a words s) (take_untouched b words' t)

variable (hE : E.Respects V.engine)
include hE

theorem carryOut_twin (h : Twin V files path s t) (task : Task)
    (hplace : V.loose → ∀ file line column flags,
      task = .operation (.complete file line column flags) → Session.isWritable line column = true)
    (hspares : ∀ file name, task = .operation (.setUnsaved file name) →
      files.locate name ≠ files.locate path) :
    (carryOut E task s).1 = (carryOut E task t).1 ∧
      Twin V files path (carryOut E task s).2 (carryOut E task t).2 := by
  have hhome := home_invariant E hfree
  cases task with
  | usage => exact ⟨rfl, h.emit usage⟩
  | leave => exact ⟨rfl, h⟩
  | verbosity on =>
    have hagree := (Session.setVerbose_oblivious on).ends _ _ h.session
    exact ⟨rfl, hagree.2, hhome.verbose on h.left, hhome.verbose on h.right⟩
  | operation op =>
    have hperform : Session.Oblivious (V.besides files path) (Session.perform E op) := by
      refine Session.perform_oblivious (V := V.besides files path) hE op ?_ ?_
      · intro hloose file line column flags hop
        exact hplace hloose file line column flags (by rw [hop])
      · intro file name hop f g hnear
        exact FileSystem.readsAlike_of_near hfree hnear.1 hnear.2 (hspares file name (by rw [hop]))
    have hagree := hperform.ends _ _ h.session
    exact ⟨hagree.1, hagree.2, hhome.perform op h.left, hhome.perform op h.right⟩

/-- **Twins.** They do the same with commands that ask for the same. -/
theorem execute_twin (h : Twin V files path s t) {words words' : List String}
    (hwords : Task.ofWords path words' = Task.ofWords path words)
    (hlegible : V.loose → Legible path words) (hspares : Spares files path words) :
    (execute E words s).1 = (execute E words' t).1 ∧
      Twin V files path (execute E words s).2 (execute E words' t).2 := by
  have hs := execute_follows E words s
  have ht := execute_follows E words' t
  rw [h.left.1.located] at hs
  rw [h.right.1.located, hwords] at ht
  generalize execute E words s = x at hs ⊢
  generalize execute E words' t = y at ht ⊢
  cases hs with
  | barred _ _ hblocked =>
    rw [h.left.2] at hblocked
    cases hblocked
  | refused hs hreading =>
    cases ht with
    | barred _ _ hblocked =>
      rw [h.right.2] at hblocked
      cases hblocked
    | refused ht hreading' =>
      cases hreading.symm.trans hreading'
      exact ⟨rfl, h.untouched hfree hs ht⟩
    | carried _ hreading' => cases hreading.symm.trans hreading'
  | carried hs hreading =>
    cases ht with
    | barred _ _ hblocked =>
      rw [h.right.2] at hblocked
      cases hblocked
    | refused _ hreading' => cases hreading.symm.trans hreading'
    | carried ht hreading' =>
      cases hreading.symm.trans hreading'
      refine carryOut_twin hfree hE (h.untouched hfree hs ht) _ ?_ ?_
      · intro hloose file line column flags htask
        exact hlegible hloose file line column flags (by rw [hreading, htask])
      · intro file name htask
        exact hspares file name (by rw [hreading, htask])

end

end Server

end CodeSense
