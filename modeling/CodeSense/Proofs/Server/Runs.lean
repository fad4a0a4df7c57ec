import CodeSense.Proofs.Server.Loop
import CodeSense.Proofs.Server.Reading
import CodeSense.Startup.Launch

/-!
# What a run keeps

Commands do little besides operations: they log, make the scratch file, write and set how much is
logged. What all of this keeps holds after every run (`Invariant.run`), and before the command at
which it stopped (`Invariant.completes`).
-/

namespace CodeSense.Server

variable {σ : Type}

theorem take_untouched (source : Source) (words : List String) (s : Server σ) :
    Untouched s (take source words s) := by
  cases source with
  | line text => exact log_untouched _ _ _ s
  | words ws => exact .refl s

structure Invariant (E : Engine σ) (I : Server σ → Prop) : Prop where
  untouched : ∀ {s t}, Untouched s t → I s → I t
  emit : ∀ (text : String) {s}, I s → I (onSession (Session.emit text) s).2
  verbose : ∀ (on : Bool) {s}, I s → I (onSession (Session.setVerbose on) s).2
  perform : ∀ (op : Operation) {s}, I s → I (perform E op s).2

theorem Invariant.and {E : Engine σ} {I J : Server σ → Prop} (hI : Invariant E I)
    (hJ : Invariant E J) : Invariant E fun s => I s ∧ J s where
  untouched h hs := ⟨hI.untouched h hs.1, hJ.untouched h hs.2⟩
  emit text _ hs := ⟨hI.emit text hs.1, hJ.emit text hs.2⟩
  verbose on _ hs := ⟨hI.verbose on hs.1, hJ.verbose on hs.2⟩
  perform op _ hs := ⟨hI.perform op hs.1, hJ.perform op hs.2⟩

section
variable {E : Engine σ} {I : Server σ → Prop} {s : Server σ} (hI : Invariant E I)
include hI

theorem Invariant.log (origin : Origin) (level : Level) (message : String) (hs : I s) :
    I (log origin level message s).2 :=
  hI.untouched (log_untouched origin level message s) hs

theorem Invariant.take (source : Source) (words : List String) (hs : I s) :
    I (take source words s) :=
  hI.untouched (take_untouched source words s) hs

theorem Invariant.execute (words : List String) (hs : I s) : I (execute E words s).2 := by
  have hfollows := execute_follows E words s
  generalize Server.execute E words s = result at hfollows ⊢
  cases hfollows with
  | refused ht _ => exact hI.untouched ht hs
  | @carried t task ht _ =>
    have ht := hI.untouched ht hs
    cases task with
    | usage => exact hI.emit usage ht
    | leave => exact ht
    | operation op => exact hI.perform op ht
    | verbosity on => exact hI.verbose on ht
  | barred ht _ _ => exact hI.untouched ht hs

theorem Invariant.runCommand (words : List String) (hs : I s) : I (runCommand E words s).2 := by
  have ht := hI.execute words hs
  unfold Server.runCommand
  generalize Server.execute E words s = result at ht
  split
  · exact hI.emit Response.endOfResponse ht
  · exact ht
  · split
    · exact hI.log _ _ _ ht
    · exact ht

theorem Invariant.turn (source : Source) (hs : I s) : I (turn E source s).2 := by
  rw [turn_eq]
  split
  · exact hs
  · split
    · exact hI.log _ _ _ hs
    · exact hI.runCommand _ (hI.take _ _ hs)

/-- **Runs.** What is kept throughout holds at the end. -/
theorem Invariant.run (sources : List Source) (hs : I s) : I (run E sources s).final := by
  induction sources generalizing s with
  | nil => exact hs
  | cons source sources ih =>
    have ht := hI.turn source hs
    unfold Server.run
    rcases hturn : Server.turn E source s with ⟨_ | words | ⟨stopped, ending⟩, t⟩
    · rw [hturn] at ht
      exact ih ht
    · rw [hturn] at ht
      exact ih ht
    · rw [hturn] at ht
      exact ht

end

theorem Invariant.completes {E : Engine σ} {I : Server (Traced σ) → Prop} {s t : Server (Traced σ)}
    {done : List Source} {exchanges : List Exchange} (hI : Invariant E.traced I)
    (hdone : Completes E s done exchanges t) (hs : I s) : I t := by
  induction hdone with
  | nil => exact hs
  | @cons s u s' source words response rest exchanges hsplit hexecute hout hrest ih =>
    have hu := hI.execute words (hI.take source words hs)
    rw [hexecute] at hu
    exact ih (hI.emit Response.endOfResponse hu)

/-! ## Sound sessions -/

theorem Untouched.calm {s t : Server (Traced σ)} (h : Untouched s t) :
    Session.Calm s.session t.session :=
  ⟨h.cache, congrArg Traced.calls h.engine, h.parse, h.completion⟩

theorem sound_initial (settings : Settings) (files : FileSystem) (path : String) (state : σ) :
    (initial settings files path ({ state } : Traced σ)).session.Sound :=
  Session.Idle.sound ⟨.empty rfl rfl rfl, .empty, rfl, rfl⟩

theorem sound_invariant (E : Engine σ) :
    Invariant E.traced fun s : Server (Traced σ) => s.session.Sound where
  untouched h hs := hs.calm h.calm
  emit _ _ hs := hs.calm ⟨rfl, rfl, rfl, rfl⟩
  verbose _ _ hs := hs.calm ⟨rfl, rfl, rfl, rfl⟩
  perform op _ hs := Act.Ends.state ((Session.ends_perform hs op).mono (fun _ _ h => h)
    fun _ _ h => h.sound)

end CodeSense.Server
