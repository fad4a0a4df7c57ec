import CodeSense.Proofs.Server.Pairs
import CodeSense.Proofs.Server.Twins

/-!
# The file name `-`

To write `-` for a file is to write the scratch file's path: a server that is given the path instead
writes the same, calls the same and ends the same (`dash_alias`). The scratch file is made at one
path only, and gone once it is closed.
-/

namespace CodeSense

def Verb.filePosition? : Verb → Option Nat
  | parse | complete | setUnsaved | resetUnsaved => some 0
  | getCompileOptions => some 1
  | _ => none

namespace Words

/-- The command with the path in place of the file name `-`. -/
def spellOut (path : String) : List String → List String
  | [] => []
  | verb :: rest =>
    match (Verb.ofName? verb).bind (·.filePosition?) with
    | none => verb :: rest
    | some i => verb ::
      ((rest.takeWhile (· ≠ "--")).modify i (Task.fileNamed path) ++ rest.dropWhile (· ≠ "--"))

theorem splitFlags_cons {word : String} (h : word ≠ "--") (rest : List String) :
    splitFlags (word :: rest) = (word :: (splitFlags rest).1, (splitFlags rest).2) := by
  simp [splitFlags, h]

theorem splitFlags_separator (flags : List String) : splitFlags ("--" :: flags) = ([], flags) := by
  simp [splitFlags]

theorem splitFlags_modify {f : String → String} (hf : ∀ word, word ≠ "--" → f word ≠ "--")
    (rest : List String) (i : Nat) :
    splitFlags ((rest.takeWhile (· ≠ "--")).modify i f ++ rest.dropWhile (· ≠ "--")) =
      ((splitFlags rest).1.modify i f, (splitFlags rest).2) := by
  induction rest generalizing i with
  | nil => cases i <;> rfl
  | cons word rest ih =>
    by_cases hword : word = "--"
    · subst hword
      cases i <;> simp [splitFlags]
    · have htake : (word :: rest).takeWhile (· ≠ "--") = word :: rest.takeWhile (· ≠ "--") := by
        simp [hword]
      have hdrop : (word :: rest).dropWhile (· ≠ "--") = rest.dropWhile (· ≠ "--") := by
        simp [hword]
      rw [htake, hdrop, splitFlags_cons hword]
      cases i with
      | zero =>
        rw [List.modify_zero_cons, List.cons_append, List.takeWhile_append_dropWhile,
          splitFlags_cons (hf word hword), List.modify_zero_cons]
      | succ i =>
        rw [List.modify_succ_cons, List.cons_append, splitFlags_cons hword, ih,
          List.modify_succ_cons]

end Words

namespace Task

variable {path : String}

theorem fileNamed_ne {name : String} (hpath : path ≠ "--") (h : name ≠ "--") :
    fileNamed path name ≠ "--" := by
  unfold fileNamed
  split
  · exact hpath
  · exact h

theorem fileNamed_fileNamed (path name : String) :
    fileNamed path (fileNamed path name) = fileNamed path name := by
  by_cases h : name = "-"
  · simp [fileNamed, h]
  · simp [fileNamed, h]

theorem ofArguments_modify {flags args : List String} {v : Verb} {i : Nat} (hfits : Fits v args)
    (hi : v.filePosition? = some i) :
    ofArguments path flags v (args.modify i (fileNamed path)) = ofArguments path flags v args := by
  cases hfits <;> simp [Verb.filePosition?] at hi <;> subst hi <;>
    simp [ofArguments, fileNamed_fileNamed]

theorem ofWords_spellOut (hpath : path ≠ "--") (words : List String) :
    ofWords path (Words.spellOut path words) = ofWords path words := by
  cases words with
  | nil => rfl
  | cons verb rest =>
    cases hverb : Verb.ofName? verb with
    | none => simp [Words.spellOut, hverb]
    | some v =>
      cases hi : v.filePosition? with
      | none => simp [Words.spellOut, hverb, hi]
      | some i =>
        have hcount : v.checkArity ((Words.splitFlags rest).1.modify i (fileNamed path)) =
            v.checkArity (Words.splitFlags rest).1 := by
          simp [Verb.checkArity, List.length_modify]
        simp only [Words.spellOut, ofWords, hverb, hi, Option.bind_some,
          Words.splitFlags_modify fun _ => fileNamed_ne hpath, hcount]
        cases hcheck : v.checkArity (Words.splitFlags rest).1 with
        | error r => rfl
        | ok _ => exact ofArguments_modify (fits_of_checkArity hcheck) hi

end Task

structure Source.SpellsOut (path : String) (a b : Source) : Prop where
  blank : b.isBlank = a.isBlank
  split : b.split = a.split.map (Words.spellOut path)

namespace Server

variable {σ : Type} {E : Engine σ} {V : Slack σ} {files : FileSystem} {path : String}
  {s : Server σ}

def Run.servers (r : Run σ) : List (Server σ) := r.completed.map (·.2) ++ [r.final]

section
variable (hfree : files.Free path)
include hfree

theorem twin_pairing : Pairing (Twin V files path) where
  log _ _ _ _ s t h := h.untouched hfree (log_untouched _ _ _ s) (log_untouched _ _ _ t)
  take a b words words' _ _ h := h.take hfree a b words words'
  frame h := h.emit Response.endOfResponse

theorem Matches.of_spellsOut (hE : E.Respects V.engine) (hloose : ¬ V.loose) (hpath : path ≠ "--")
    {a b : Source}
    (hspares : ∀ name, a.reads? = some name → files.locate name ≠ files.locate path)
    (hab : a.SpellsOut path b) : Matches E (Words.spellOut path) (Twin V files path) a b where
  blank := hab.blank
  split := hab.split
  execute words hsplit _ _ h := execute_twin hfree hE h (Task.ofWords_spellOut hpath words)
    (fun h => absurd h hloose) (spares_of_reads? hspares hsplit)

end

/-! ## What `-` means -/

def Performs (E : Engine σ) (words : List String) (s : Server σ) (op : Operation) : Prop :=
  ∃ t, Untouched s t ∧ execute E words s = perform E op t

theorem Home.performs (h : Home files path s) {words : List String} {op : Operation}
    (hreading : Task.ofWords path words = .ok (.operation op)) : Performs E words s op := by
  have hfollows := execute_follows E words s
  rw [h.1.located, hreading] at hfollows
  generalize hresult : execute E words s = result at hfollows
  cases hfollows with
  | refused _ hrefused => cases hrefused
  | carried ht hcarried =>
    cases hcarried
    exact ⟨_, ht, hresult⟩
  | barred _ _ hblocked =>
    rw [h.2] at hblocked
    cases hblocked

/-- The file name `-` means the path, of a scratch file that is the only new file and is gone once it
is closed. Flags and the sources of buffers are not file names. -/
structure Resolves (E : Engine σ) (files : FileSystem) (path : String) (s : Server σ) : Prop where
  near : files.Near path s.session.files
  resolve : (resolve "-" s).1 = .ok path
  close : (closeScratch s).2.session.files = files
  parse : ∀ file flags, file ≠ "--" →
    Performs E ("parse" :: file :: "--" :: flags) s (.parse (Task.fileNamed path file) flags)
  complete : ∀ file line column flags m n, file ≠ "--" → Integer.parseNat "Line" line = .ok m →
    Integer.parseNat "Column" column = .ok n →
    Performs E ("complete" :: file :: line :: column :: "--" :: flags) s
      (.complete (Task.fileNamed path file) m n flags)
  setUnsaved : ∀ file source, file ≠ "--" → source ≠ "--" →
    Performs E ["set-unsaved", file, source] s (.setUnsaved (Task.fileNamed path file) source)

theorem Home.resolves (hfree : files.Free path) (h : Home files path s) :
    Resolves E files path s where
  near := h.near
  resolve := by
    have hends := ends_resolve_untouched "-" s
    unfold Act.Ends at hends
    split at hends
    · rename_i file s' hresolve
      rw [hresolve, hends.2, h.1.located]
      rfl
    · rw [h.2] at hends
      cases hends.2.2
  close := closeScratch_files hfree h.1
  parse file flags hfile := by
    refine h.performs ((Task.ofWords_name path .parse _).trans ?_)
    simp [Words.splitFlags_cons, Words.splitFlags_separator, hfile, Verb.checkArity, Verb.arity,
      Task.ofArguments, bind, Except.bind]
  complete file line column flags m n hfile hline hcolumn := by
    refine h.performs ((Task.ofWords_name path .complete _).trans ?_)
    simp [Words.splitFlags_cons, Words.splitFlags_separator, hfile, Integer.ne_separator hline,
      Integer.ne_separator hcolumn, hline, hcolumn, Verb.checkArity, Verb.arity, Task.ofArguments,
      bind, Except.bind]
  setUnsaved file source hfile hsource := by
    refine h.performs ((Task.ofWords_name path .setUnsaved _).trans ?_)
    simp [Words.splitFlags, hfile, hsource, Verb.checkArity, Verb.arity, Task.ofArguments, bind,
      Except.bind]

theorem Run.Paired.homes {f : List String → List String} {r r' : Run σ}
    (h : Run.Paired f (Twin V files path) r r') :
    ∀ t ∈ r.servers ++ r'.servers, Home files path t := by
  have hleft : List.Forall₂ (fun a b => Home files path a.2 ∧ True) r.completed r'.completed :=
    h.completed.imp fun _ _ hab => ⟨hab.2.left, trivial⟩
  have hright : List.Forall₂ (fun b a => Home files path b.2 ∧ True) r'.completed r.completed :=
    h.completed.flip.imp fun _ _ hab => ⟨hab.2.right, trivial⟩
  intro t ht
  simp only [servers, List.mem_append, List.mem_map, List.mem_singleton] at ht
  rcases ht with (⟨p, hp, rfl⟩ | rfl) | ⟨p, hp, rfl⟩ | rfl
  · exact ((List.forall₂_and_left ..).mp hleft).1 p hp
  · exact h.final.left
  · exact ((List.forall₂_and_left ..).mp hright).1 p hp
  · exact h.final.right

/-- **The alias.** Over any engine, `-` and the path of a scratch file that no command reads are the
same file name: all responses, calls and sessions are the same, and so is the end. -/
theorem dash_alias (E : Engine σ) (state : σ) (settings : Settings) {files : FileSystem}
    {path : String} (hfree : files.Free path) (hpath : path ≠ "--") {sources sources' : List Source}
    (hsources : List.Forall₂ (Source.SpellsOut path) sources sources')
    (hspares : ∀ source ∈ sources, ∀ name, source.reads? = some name →
      files.locate name ≠ files.locate path) :
    let s := initial settings files path ({ state } : Traced σ)
    let r := run E.traced sources s
    let r' := run E.traced sources' s
    Run.Paired (Words.spellOut path) (Twin .none files path) r r' ∧
      ∀ t ∈ r.servers ++ r'.servers, Resolves E.traced files path t := by
  intro s r r'
  have hstart : Twin .none files path s s :=
    twin_initial ⟨rfl, rfl, fun _ => rfl⟩ files path rfl rfl fun _ _ => rfl
  have hmatch : List.Forall₂ (Matches E.traced (Words.spellOut path) (Twin .none files path))
      sources sources' :=
    ((List.forall₂_and_left ..).mpr ⟨hspares, hsources⟩).imp fun _ _ hab =>
      .of_spellsOut hfree E.traced.respects_eq id hpath hab.1 hab.2
  have hpaired := run_paired (twin_pairing hfree) hmatch hstart
  exact ⟨hpaired, fun t ht => (hpaired.homes t ht).resolves hfree⟩

/-- All five commands that name a file, with other words `-` besides. One server makes the scratch
file, and the other does not. -/
theorem dash_alias_everywhere :
    let sources : List Source := [.words ["parse", "-", "--", "-"], .words ["set-unsaved", "-", "-"],
      .line "complete - 1 1\n", .words ["get-compile-options", "-", "-"],
      .words ["reset-unsaved", "-"]]
    let sources' : List Source := [.words ["parse", "s", "--", "-"],
      .words ["set-unsaved", "s", "-"], .line "complete s 1 1\n",
      .words ["get-compile-options", "-", "s"], .words ["reset-unsaved", "s"]]
    let s : Server (Traced Script) := initial {} {} "s" { state := {} }
    let r := run Script.engine.traced sources s
    let r' := run Script.engine.traced sources' s
    Run.Paired (Words.spellOut "s") (Twin .none {} "s") r r' ∧
      (∀ t ∈ r.servers ++ r'.servers, Resolves Script.engine.traced {} "s" t) ∧
      r.completed.head?.map (·.2.scratch.isOpen) = some true ∧
      r'.completed.head?.map (·.2.scratch.isOpen) = some false := by
  intro sources sources' s r r'
  have hfree : ({} : FileSystem).Free "s" := ⟨by decide, ["s"], by decide +kernel, by decide⟩
  have hsources : List.Forall₂ (Source.SpellsOut "s") sources sources' := by
    refine .cons ⟨rfl, ?_⟩ (.cons ⟨rfl, ?_⟩ (.cons ⟨?_, ?_⟩ (.cons ⟨rfl, ?_⟩ (.cons ⟨rfl, ?_⟩ .nil))))
    all_goals decide +kernel
  have hspares : ∀ source ∈ sources, ∀ name, source.reads? = some name →
      ({} : FileSystem).locate name ≠ ({} : FileSystem).locate "s" := by
    have hreads : sources.filterMap (·.reads?) = ["-"] := by decide +kernel
    have hlocate : ({} : FileSystem).locate "-" ≠ ({} : FileSystem).locate "s" := by decide +kernel
    intro source hsource name hname
    have hmem : name ∈ sources.filterMap (·.reads?) :=
      List.mem_filterMap.mpr ⟨source, hsource, hname⟩
    rw [hreads, List.mem_singleton] at hmem
    rw [hmem]
    exact hlocate
  obtain ⟨hpaired, hresolves⟩ :=
    dash_alias Script.engine {} {} hfree (by decide) hsources hspares
  exact ⟨hpaired, hresolves, by decide +kernel, by decide +kernel⟩

end Server

end CodeSense
