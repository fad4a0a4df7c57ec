import CodeSense.Engine.Script
import CodeSense.Proofs.Server.Runs

/-!
# Runs that return

Over an engine that meets no fault, the command loop returns a status, whatever it is given, unless
a command has an argument that nobody provides for, or there is a number that is too long to be
written: `loop_returns`. Both are rare but can be had: `loop_broken_by_null`.
-/

namespace CodeSense

theorem Fault.status?_le {e : Fault} {code : Nat} (h : e.status? = some code) : code ≤ 1 := by
  unfold status? at h
  split at h
  · cases h
    decide
  · split at h
    · cases h
      decide
    · cases h

theorem Integer.parse?_of_parseNat {what word : String} {n : Nat}
    (h : parseNat what word = .ok n) : parse? word = some (n : Int) := by
  unfold parseNat at h
  split at h
  · cases h
  · rename_i m hm
    split at h
    · cases h
    · cases h
      rw [hm, Int.toNat_of_nonneg (by omega)]

theorem FileSystem.pathFault?_write (fs : FileSystem) (path : String) (bytes : List UInt8) :
    ((fs.write path bytes).toOption.getD fs).pathFault? = fs.pathFault? := by
  rcases hwrite : fs.write path bytes with e | fs'
  · rfl
  · unfold write opening at hwrite
    split at hwrite
    · cases hwrite
    · rcases htarget : fs.target path with e | place
      · rw [htarget] at hwrite
        cases hwrite
      · rw [htarget] at hwrite
        dsimp only [bind, Except.bind] at hwrite
        split at hwrite <;> cases hwrite
        rfl

/-- The command asks for something that cannot be done with its arguments: to read from what is no
path, or to complete at a place that cannot be written. -/
inductive Breaking (files : FileSystem) : List String → Fault → Prop
  | source {rest : List String} {file source : String} {e : Fault}
    (hargs : (Words.splitFlags rest).1 = [file, source]) (h : files.pathFault? source = some e) :
    Breaking files (Verb.setUnsaved.name :: rest) e
  | place {rest : List String} {file line column : String} {l c : Nat}
    (hargs : (Words.splitFlags rest).1 = [file, line, column])
    (hline : Integer.parse? line = some (l : Int))
    (hcolumn : Integer.parse? column = some (c : Int)) (h : Session.isWritable l c = false) :
    Breaking files (Verb.complete.name :: rest) .tooManyDigits

theorem Breaking.of_files {files files' : FileSystem} {words : List String} {e : Fault}
    (h : Breaking files words e) (hpaths : files.pathFault? = files'.pathFault?) :
    Breaking files' words e := by
  cases h with
  | source hargs hpath => exact .source hargs (hpaths ▸ hpath)
  | place hargs hline hcolumn hplace => exact .place hargs hline hcolumn hplace

theorem Task.breaking_of_unfit {files : FileSystem} {path : String} {words : List String}
    {op : Operation} {e : Fault} (h : ofWords path words = .ok (.operation op))
    (hop : op.Unfit files e) : Breaking files words e := by
  obtain ⟨v, rest, rfl, hfits, htask⟩ := ofWords_ok h
  generalize hargs : (Words.splitFlags rest).1 = args at hfits htask
  cases hop with
  | path hpath =>
    cases hfits <;> simp only [ofArguments, bind_eq_ok_iff, Except.ok.injEq, operation.injEq,
      Operation.setUnsaved.injEq, reduceCtorEq, and_false, exists_false] at htask
    obtain ⟨-, rfl⟩ := htask
    exact .source hargs hpath
  | place hw =>
    cases hfits <;> simp only [ofArguments, bind_eq_ok_iff, Except.ok.injEq, operation.injEq,
      Operation.complete.injEq, reduceCtorEq, and_false, exists_false] at htask
    obtain ⟨l, hl, c, hc, -, rfl, rfl, -⟩ := htask
    exact .place hargs (Integer.parse?_of_parseNat hl) (Integer.parse?_of_parseNat hc) hw

namespace Session

variable {σ : Type} {s t s' t' : Session (Traced σ)}

theorem Overlong.congr (h : Overlong t t') (hs : Calm s t) (hs' : s'.calls = t'.calls)
    (hsettings : t.settings = s.settings)
    (hrefuses : t.pool.journal.refuses = s.pool.journal.refuses) : Overlong s s' := by
  unfold Overlong Pool.Overlong at h ⊢
  rw [hsettings, hrefuses, hs.completion] at h
  rwa [show t.pool.calls = s.pool.calls from hs.calls,
    show t'.pool.calls = s'.pool.calls from hs'.symm] at h

end Session

namespace Server

variable {σ : Type} {E : Engine σ} {s t : Server (Traced σ)}

theorem Untouched.pathFault? (h : Untouched s t) :
    t.session.files.pathFault? = s.session.files.pathFault? := by
  rcases h.scratch with ⟨-, hfiles⟩ | ⟨-, -, -, hfiles⟩
  · rw [hfiles]
  · rw [hfiles]
    exact FileSystem.pathFault?_write ..

/-- What breaks the loop came from the engine, or the command asked for it, or there was a number
that cannot be written. -/
theorem execute_breaks {words : List String} {e : Fault} (hs : s.session.Sound)
    (hscratch : s.scratch.blocked = none) (h : execute E.traced words s = (.error e, t))
    (he : e.status? = none) :
    Trace.Raised t.calls e ∨ Breaking s.session.files words e ∨
      e.isLength = true ∧ Session.Overlong s.session t.session := by
  have hfollows := execute_follows E.traced words s
  rw [h] at hfollows
  generalize hresult : (Except.error e, t) = result at hfollows
  cases hfollows with
  | refused _ _ =>
    cases hresult
    cases he
  | @carried t₀ task ht hreading =>
    cases task with
    | usage => cases hresult
    | leave =>
      cases hresult
      cases he
    | verbosity on => cases hresult
    | operation op =>
      have hsession : Session.perform E.traced op t₀.session = (.error e, t.session) :=
        Prod.ext (congrArg (·.1) hresult.symm) (congrArg (·.2.session) hresult.symm)
      have hcalls := Session.perform_adds (E := E) op t₀.session
      rw [hsession] at hcalls
      have hs₀ := hs.calm ht.calm
      cases ((Session.ends_perform hs₀ op).at_error hsession).cause with
      | raised hraises => exact .inl (hraises.raised hs₀ hcalls)
      | unfit hunfit =>
        exact .inr (.inl ((Task.breaking_of_unfit hreading hunfit).of_files ht.pathFault?))
      | overlong hlength hlong =>
        exact .inr (.inr ⟨hlength, hlong.congr ht.calm rfl ht.settings ht.refuses⟩)
  | barred _ _ hblocked =>
    rw [hscratch] at hblocked
    cases hblocked

theorem free_invariant (E : Engine σ) : Invariant E fun s => s.scratch.blocked = none where
  untouched h hs := h.scratch.blocked.trans hs
  emit _ _ hs := hs
  verbose _ _ hs := hs
  perform _ _ hs := hs

theorem paths_invariant (E : Engine σ) (files : FileSystem) :
    Invariant E.traced fun s => s.session.files.pathFault? = files.pathFault? where
  untouched h hs := h.pathFault?.trans hs
  emit _ _ hs := hs
  verbose _ _ hs := hs
  perform op s hs := by
    have hfiles : (perform E.traced op s).2.session.files = s.session.files :=
      Session.perform_moves (Session.covers_files E.traced) op (fun _ _ => trivial) s.session
    rw [hfiles]
    exact hs

theorem Stops.returns {rest : List Source} {stopped : Option (List String)} {ending : Ending}
    {final : Server (Traced σ)} (h : Stops E t rest stopped ending final) (hs : t.session.Sound)
    (hscratch : t.scratch.blocked = none) (hf : Trace.Faultless final.calls) :
    (∃ code ≤ 1, ending = .status code) ∨
    ∃ source later words e, rest = source :: later ∧ source.split = .ok words ∧
      stopped = some words ∧ ending = .fault e ∧
      (Breaking t.session.files words e ∨
        e.isLength = true ∧ Session.Overlong t.session final.session) := by
  cases h with
  | endOfInput => exact .inl ⟨0, by decide, rfl⟩
  | malformed => exact .inl ⟨1, by decide, rfl⟩
  | @ended t' _ source words later e hsplit hexecute hprepared =>
    cases he : e.status? with
    | some code => exact .inl ⟨code, Fault.status?_le he, by rw [Fault.ending, he]; rfl⟩
    | none =>
      refine .inr ⟨source, later, words, e, rfl, hsplit, rfl, by rw [Fault.ending, he]; rfl, ?_⟩
      have htake := take_untouched source words t
      have hfree := htake.scratch.blocked.trans hscratch
      rcases execute_breaks (hs.calm htake.calm) hfree hexecute he with
        hraised | hbreaking | ⟨hlength, hlong⟩
      · rw [hprepared.calls] at hf
        exact absurd hraised hf.not_raised
      · exact .inl (hbreaking.of_files htake.pathFault?)
      · exact .inr ⟨hlength, hlong.congr htake.calm hprepared.calls htake.settings htake.refuses⟩

/-- The commands before this one complete, and it is taken in `t`. -/
def Reaches (E : Engine σ) (s : Server (Traced σ)) (text : String) (words : List String)
    (t : Server (Traced σ)) : Prop :=
  ∃ done source rest exchanges, (Source.ofText text).filter (!·.isBlank) = done ++ source :: rest ∧
    Completes E s done exchanges t ∧ source.split = .ok words

/-- **Runs return.** Whatever the input and the files, over an engine that meets no fault, the loop
returns 0 or 1, unless it gets to a command that cannot be done with its arguments, or for which a
number cannot be written. -/
theorem loop_returns (E : Engine σ) (settings : Settings) (files : FileSystem) (path : String)
    (state : σ) (text : String) :
    let s := initial settings files path ({ state } : Traced σ)
    let r := runText E.traced text s
    Trace.Faultless r.final.calls →
      (∃ code ≤ 1, r.ending = .status code) ∨
      ∃ words e t, r.stopped = some words ∧ r.ending = .fault e ∧ Reaches E s text words t ∧
        (Breaking files words e ∨
          e.isLength = true ∧ Session.Overlong t.session r.final.session) := by
  intro s r hf
  obtain ⟨done, rest, exchanges, t, hsources, hdone, hstops, -⟩ :=
    run_splits E (Source.ofText text) s
  have hinvariant := (sound_invariant E).and ((free_invariant E.traced).and (paths_invariant E files))
  obtain ⟨hsound, hfree, hpaths⟩ :=
    hinvariant.completes hdone ⟨sound_initial settings files path state, rfl, rfl⟩
  refine (hstops.returns hsound hfree hf).imp id fun hbreaks => ?_
  obtain ⟨source, later, words, e, rfl, hsplit, hstopped, hending, hcause⟩ := hbreaks
  exact ⟨words, e, t, hstopped, hending, ⟨done, source, later, exchanges, hsources, hdone, hsplit⟩,
    hcause.imp (·.of_files hpaths) id⟩

/-- A null character in a name of a file that is only named, and a place that cannot be read. -/
theorem loop_returns_null :
    let text := "parse 'a\x00b'\nset-unsaved a.c ''\ncomplete a 1 -1\n"
    let s : Server (Traced Script) := initial {} {} "s" { state := {} }
    let r := runText Script.engine.traced text s
    Trace.Faultless r.final.calls ∧ r.ending = .status 1 ∧
      r.completed.map (·.1) = [["parse", "a\x00b"], ["set-unsaved", "a.c", ""]] ∧
      ((∃ code ≤ 1, r.ending = .status code) ∨
        ∃ words e t, r.stopped = some words ∧ r.ending = .fault e ∧
          Reaches Script.engine s text words t ∧
          (Breaking {} words e ∨
            e.isLength = true ∧ Session.Overlong t.session r.final.session)) := by
  intro text s r
  have hf : Trace.Faultless r.final.calls := by decide +kernel
  exact ⟨hf, by decide +kernel, by decide +kernel,
    loop_returns Script.engine {} {} "s" {} text hf⟩

/-- The loop does not return when the path to read from has a null character. -/
theorem loop_broken_by_null :
    let r := runText Script.engine.traced "set-unsaved a.c 'a\x00b'\n"
      (initial {} {} "s" { state := {} })
    Trace.Faultless r.final.calls ∧ ∀ code, r.ending ≠ .status code := by
  intro r
  have hending : r.ending = .fault .nullInPath := by decide +kernel
  refine ⟨by decide +kernel, fun code => ?_⟩
  rw [hending]
  simp

end Server

end CodeSense
