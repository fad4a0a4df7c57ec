import Mathlib.Data.List.Chain
import CodeSense.Proofs.Startup.Modes

/-!
# Where the command begins

The options of a command line are read by `Options.parse`, and `Options.splitCommand` looks for
their end without reading them. `Reads` says which lists of words are options. The two agree on where
the command begins as long as an option that has its value in the next word is spelled out:
`boundary_found`.
-/

namespace CodeSense.Options

/-! ## Roles -/

section
variable {word : String} {g : Opt} {short : Bool} {joined : Option String}

theorem startsWith_of_role (h : role word = .ok (.option g short joined)) :
    word.startsWith "-" = true := by
  unfold role at h
  by_cases hdash : word.startsWith "-" = true
  · exact hdash
  · simp [hdash] at h

theorem role_of_find? (hdash : word.startsWith "-" = true) (h : Opt.find? word = some g) :
    role word = .ok (.option g (isShort word) none) := by
  simp [role, hdash, h]

/-- Only options without a joined value are spelled as in the table. -/
theorem find?_eq_none {r : Role} (hdash : word.startsWith "-" = true) (h : role word = .ok r)
    (hr : ∀ g short, r ≠ .option g short none) : Opt.find? word = none := by
  by_contra hsome
  obtain ⟨g', hg'⟩ := Option.ne_none_iff_exists'.mp hsome
  rw [role_of_find? hdash hg'] at h
  exact hr g' (isShort word) (Except.ok.inj h).symm

theorem takesValue_of_role (h : role word = .ok (.option g short none))
    (hsome : (Opt.find? word).isSome = true) : (Opt.find? word).any (·.takesValue) = g.takesValue := by
  obtain ⟨g', hg'⟩ := Option.isSome_iff_exists.mp hsome
  rw [role_of_find? (startsWith_of_role h) hg'] at h
  simp only [Except.ok.injEq, Role.option.injEq] at h
  simp [hg', h.1]

theorem ne_separator {r : Role} (h : role word = .ok r) : word ≠ "--" := by
  intro he
  subst he
  have hambiguous : (role "--").isOk = false := by decide +kernel
  rw [h] at hambiguous
  cases hambiguous

end

/-! ## Lists of options -/

/-- From `o` on, the words are options that come to `o'`. -/
inductive Reads : Options → List String → Options → Prop
  | nil (o : Options) : Reads o [] o
  | joined {o o' o'' : Options} {word value : String} {g : Opt} {short : Bool} {rest : List String}
    (hrole : role word = .ok (.option g short (some value)))
    (hjoined : Options.joined o g short value = .ok o') (hrest : Reads o' rest o'') :
    Reads o (word :: rest) o''
  | flag {o o' : Options} {word : String} {g : Opt} {short : Bool} {rest : List String}
    (hrole : role word = .ok (.option g short none)) (hflag : g.takesValue = false)
    (hrest : Reads (o.setFlag g) rest o') : Reads o (word :: rest) o'
  | value {o o' : Options} {word value : String} {g : Opt} {short : Bool} {rest : List String}
    (hrole : role word = .ok (.option g short none)) (htakes : g.takesValue = true)
    (hplain : role value = .ok .plain)
    (hrest : Reads (o.setValue (.value value) g) rest o') : Reads o (word :: value :: rest) o'

theorem roles_cons {word : String} {r : Role} (h : role word = .ok r) {words : List String}
    {rs : List (String × Role)} (hrs : roles words = .ok rs) :
    roles (word :: words) = .ok ((word, r) :: rs) := by
  rw [roles, if_neg (ne_separator h), h, hrs]
  rfl

/-- Each word has the role that it has by itself, up to a separator. -/
theorem roles_cons_eq_ok {word : String} {words : List String} {rs : List (String × Role)}
    (h : roles (word :: words) = .ok rs) :
    (∃ rs', rs = (word, .separator) :: rs') ∨
      ∃ r rs', rs = (word, r) :: rs' ∧ role word = .ok r ∧ roles words = .ok rs' := by
  rw [roles] at h
  by_cases hw : word = "--"
  · rw [if_pos hw] at h
    cases h
    exact .inl ⟨_, rfl⟩
  · rw [if_neg hw, Task.bind_eq_ok_iff] at h
    obtain ⟨r, hrole, h⟩ := h
    obtain ⟨rs', hrest, h⟩ := Task.bind_eq_ok_iff.mp h
    cases h
    exact .inr ⟨r, rs', rfl, hrole, hrest⟩

theorem roles_eq_cons {words : List String} {word : String} {r : Role} {rs : List (String × Role)}
    (h : roles words = .ok ((word, r) :: rs)) (hr : r ≠ .separator) :
    ∃ rest, words = word :: rest ∧ role word = .ok r ∧ roles rest = .ok rs := by
  cases words with
  | nil => simp [roles] at h
  | cons w rest =>
    obtain ⟨rs', hsep⟩ | ⟨r', rs', hrs, hrole, hrest⟩ := roles_cons_eq_ok h
    · simp [hr] at hsep
    · cases hrs
      exact ⟨rest, rfl, hrole, hrest⟩

theorem roles_eq_nil {words : List String} (h : roles words = .ok []) : words = [] := by
  cases words with
  | nil => rfl
  | cons w rest => simpa using roles_cons_eq_ok h

theorem extra_prefix {o o' : Options} {extra extra' : List String} {rs : List (String × Role)}
    (h : collect o extra rs = .ok (o', extra')) : extra <+: extra' := by
  fun_induction collect o extra rs with
  | case1 =>
    cases h
    exact List.prefix_rfl
  | case2 o extra _ g short value rest ih =>
    obtain ⟨o₁, -, h⟩ := Task.bind_eq_ok_iff.mp h
    exact ih o₁ h
  | case3 o extra _ g short hvalue value rest ih => exact ih h
  | case4 => cases h
  | case5 o extra _ g short rest hvalue ih => exact ih h
  | case6 o extra word role rest _ _ ih => exact (List.prefix_append ..).trans (ih h)

theorem reads_of_collect {o o' : Options} {extra words : List String} {rs : List (String × Role)}
    (hroles : roles words = .ok rs) (h : collect o extra rs = .ok (o', [])) : Reads o words o' := by
  fun_induction collect o extra rs generalizing words with
  | case1 =>
    cases h
    rw [roles_eq_nil hroles]
    exact .nil o'
  | case2 o extra word g short value rest ih =>
    obtain ⟨words, rfl, hrole, hrest⟩ := roles_eq_cons hroles (by simp)
    obtain ⟨o₁, hjoined, h⟩ := Task.bind_eq_ok_iff.mp h
    exact .joined hrole hjoined (ih o₁ hrest h)
  | case3 o extra word g short htakes value rest ih =>
    obtain ⟨words, rfl, hrole, hrest⟩ := roles_eq_cons hroles (by simp)
    obtain ⟨words, rfl, hplain, hrest⟩ := roles_eq_cons hrest (by simp)
    exact .value hrole htakes hplain (ih hrest h)
  | case4 => cases h
  | case5 o extra word g short rest hflag ih =>
    obtain ⟨words, rfl, hrole, hrest⟩ := roles_eq_cons hroles (by simp)
    exact .flag hrole (by simpa using hflag) (ih hrest h)
  | case6 o extra word r rest _ _ ih =>
    -- a word that is no option is never forgotten
    have hprefix := extra_prefix h
    simp at hprefix

theorem reads_of_parse {words : List String} {o : Options} (h : parse words = .ok o) :
    Reads {} words o := by
  unfold parse at h
  obtain ⟨rs, hroles, h⟩ := Task.bind_eq_ok_iff.mp h
  obtain ⟨⟨o', extra⟩, hcollect, h⟩ := Task.bind_eq_ok_iff.mp h
  cases extra with
  | nil =>
    cases h
    exact reads_of_collect hroles hcollect
  | cons word extra => cases h

/-- What has been read leaves the rest to be read. -/
theorem Reads.collect_append {o o' : Options} {words : List String} (h : Reads o words o')
    {more : List String} {rs : List (String × Role)} (hrs : roles more = .ok rs) :
    ∃ rs', roles (words ++ more) = .ok rs' ∧ ∀ extra, collect o extra rs' = collect o' extra rs := by
  induction h with
  | nil o => exact ⟨rs, hrs, fun _ => rfl⟩
  | @joined o o' _ word value g short rest hrole hjoined _ ih =>
    obtain ⟨rs', hroles, hcollect⟩ := ih
    refine ⟨_, roles_cons hrole hroles, fun extra => ?_⟩
    rw [collect, hjoined]
    exact hcollect extra
  | flag hrole hflag _ ih =>
    obtain ⟨rs', hroles, hcollect⟩ := ih
    refine ⟨_, roles_cons hrole hroles, fun extra => ?_⟩
    rw [collect_flag hflag]
    exact hcollect extra
  | value hrole htakes hplain _ ih =>
    obtain ⟨rs', hroles, hcollect⟩ := ih
    refine ⟨_, roles_cons hrole (roles_cons hplain hroles), fun extra => ?_⟩
    rw [collect, if_pos htakes]
    exact hcollect extra

/-- An option at the end lacks its value. -/
theorem Reads.missingValue {o : Options} {words : List String} (h : Reads {} words o) {word : String}
    {g : Opt} {short : Bool} (hrole : role word = .ok (.option g short none))
    (htakes : g.takesValue = true) : parse (words ++ [word]) = .error (.missingValue g) := by
  have hlast : roles [word] = .ok [(word, .option g short none)] := roles_cons hrole rfl
  obtain ⟨rs, hroles, hcollect⟩ := h.collect_append hlast
  unfold parse
  rw [hroles]
  simp only [bind, Except.bind]
  rw [hcollect, collect, if_pos htakes]
  simp

/-! ## The end of the options -/

/-- The word is short for an option that has its value in the next word. -/
def isShortened (word : String) : Bool :=
  match role word with
  | .ok (.option g _ none) => g.takesValue && (Opt.find? word).isNone
  | _ => false

/-- Where a value does not look like an option itself, the option that it belongs to is spelled
out. -/
def SpelledOut (words : List String) : Prop :=
  words.IsChain fun word value => isShortened word = true → value.startsWith "-" = true

instance : DecidablePred SpelledOut := fun words =>
  inferInstanceAs (Decidable (words.IsChain _))

theorem spelledOut_cons {word : String} (h : isShortened word = false) (rest : List String) :
    SpelledOut (word :: rest) ↔ SpelledOut rest := by
  unfold SpelledOut
  cases rest with
  | nil => simp
  | cons value rest =>
    rw [List.isChain_cons_cons]
    simp [h]

theorem isShortened_of_role_plain {word : String} (h : role word = .ok .plain) :
    isShortened word = false := by
  simp [isShortened, h]

theorem splitCommand_command {command : List String}
    (h : ∀ word ∈ command.head?, word.startsWith "-" = false) :
    splitCommand command = ([], command) := by
  cases command with
  | nil => rfl
  | cons word rest =>
    rw [splitCommand.eq_def]
    simp [h word rfl]

/-- How the options `opts`, read from `o` on, are split from a command: right, or before the value of
the first option that should have been spelled out. -/
inductive Boundary (o : Options) (command opts : List String) : Prop
  | found (hspelled : SpelledOut opts) (hsplit : splitCommand (opts ++ command) = (opts, command))
  | cutOff {o' : Options} {before after : List String} {word value : String} {g : Opt}
    {short : Bool} (hopts : opts = before ++ word :: value :: after) (hreads : Reads o before o')
    (hrole : role word = .ok (.option g short none)) (htakes : g.takesValue = true)
    (hfind : Opt.find? word = none) (hvalue : value.startsWith "-" = false)
    (hsplit : splitCommand (opts ++ command) = (before ++ [word], value :: after ++ command))

section
variable {o o' : Options} {command words rest : List String}

/-- Words that are read together and split together leave the boundary where it is. -/
theorem Boundary.after (h : Boundary o' command rest)
    (hreads : ∀ before o'', Reads o' before o'' → Reads o (words ++ before) o'')
    (hspelled : SpelledOut rest → SpelledOut (words ++ rest))
    (hsplit : ∀ more, splitCommand (words ++ more) =
      (words ++ (splitCommand more).1, (splitCommand more).2)) :
    Boundary o command (words ++ rest) := by
  cases h with
  | found hrest hfound =>
    apply Boundary.found (hspelled hrest)
    rw [List.append_assoc, hsplit, hfound]
  | @cutOff o'' before after word value g short hopts hbefore hrole htakes hfind hvalue hcut =>
    have hopts' : words ++ rest = (words ++ before) ++ word :: value :: after := by
      rw [hopts, List.append_assoc]
    apply Boundary.cutOff hopts' (hreads before o'' hbefore) hrole htakes hfind hvalue
    rw [List.append_assoc, hsplit, hcut, List.append_assoc]

theorem Boundary.after_word {word : String} (h : Boundary o' command rest)
    (hreads : ∀ before o'', Reads o' before o'' → Reads o (word :: before) o'')
    (hdash : word.startsWith "-" = true) (hshort : isShortened word = false)
    (hflag : (Opt.find? word).any (·.takesValue) = false) :
    Boundary o command ([word] ++ rest) := by
  apply h.after hreads
  · exact (spelledOut_cons hshort rest).mpr
  · exact splitCommand_flag hdash hflag

theorem Reads.boundary {opts : List String} (h : Reads o opts o')
    (hcommand : ∀ word ∈ command.head?, word.startsWith "-" = false) :
    Boundary o command opts := by
  induction h with
  | nil => exact .found .nil (splitCommand_command hcommand)
  | joined hrole hjoined _ ih =>
    apply ih.after_word (fun _ _ h => .joined hrole hjoined h) (startsWith_of_role hrole)
    · simp [isShortened, hrole]
    · simp [find?_eq_none (startsWith_of_role hrole) hrole]
  | @flag o _ word g short rest hrole hflag _ ih =>
    apply ih.after_word (fun _ _ h => .flag hrole hflag h) (startsWith_of_role hrole)
    · simp [isShortened, hrole, hflag]
    · cases hfind : Opt.find? word with
      | none => rfl
      | some g' =>
        rw [← hfind, takesValue_of_role hrole (by simp [hfind]), hflag]
  | @value o _ word value g short rest hrole htakes hplain hrest ih =>
    have hdash := startsWith_of_role hrole
    have hreads (before : List String) (o'' : Options)
        (h : Reads (o.setValue (.value value) g) before o'') :
        Reads o ([word, value] ++ before) o'' := .value hrole htakes hplain h
    have hnext := spelledOut_cons (isShortened_of_role_plain hplain) rest
    cases hfind : Opt.find? word with
    | some g' =>
      have hspelled : isShortened word = false := by simp [isShortened, hrole, hfind]
      have hvalue : (Opt.find? word).any (·.takesValue) = true := by
        rw [takesValue_of_role hrole (by simp [hfind]), htakes]
      apply ih.after hreads
      · intro h
        exact (spelledOut_cons hspelled _).mpr (hnext.mpr h)
      · exact splitCommand_value hdash hvalue value
    | none =>
      by_cases hminus : value.startsWith "-" = true
      · -- the value looks like an option, and is passed over as one
        apply ih.after hreads
        · intro h
          exact List.isChain_cons_cons.mpr ⟨fun _ => hminus, hnext.mpr h⟩
        · intro more
          have hflag : (Opt.find? value).any (·.takesValue) = false := by
            simp [find?_eq_none hminus hplain]
          rw [List.cons_append, splitCommand_flag hdash (by simp [hfind]), List.cons_append,
            splitCommand_flag hminus hflag]
          rfl
      · have hopts : word :: value :: rest = [] ++ word :: value :: rest := rfl
        have hplain : value.startsWith "-" = false := by simpa using hminus
        apply Boundary.cutOff hopts (.nil o) hrole htakes hfind hplain
        rw [List.cons_append, splitCommand_flag hdash (by simp [hfind]), splitCommand_command]
        · rfl
        · simpa using hplain

end

/-- **Where the command begins.** After options that can be read, the command is found where it
begins if the options are spelled out. If they are not, a value is taken for the first word of the
command, and its option is rejected for the lack of it. -/
theorem boundary_found {opts command : List String} {o : Options} (hparse : parse opts = .ok o)
    (hcommand : ∀ word ∈ command.head?, word.startsWith "-" = false) :
    (SpelledOut opts → splitCommand (opts ++ command) = (opts, command)) ∧
      (¬ SpelledOut opts → ∃ before word value after g,
        opts = before ++ word :: value :: after ∧
        splitCommand (opts ++ command) = (before ++ [word], value :: after ++ command) ∧
        parse (before ++ [word]) = .error (.missingValue g)) := by
  cases (reads_of_parse hparse).boundary hcommand with
  | found hspelled hsplit => exact ⟨fun _ => hsplit, fun h => absurd hspelled h⟩
  | cutOff hopts hreads hrole htakes hfind hvalue hsplit =>
    constructor
    · intro hspelled
      unfold SpelledOut at hspelled
      rw [hopts, List.isChain_append_cons_cons] at hspelled
      have hdash := hspelled.2.1 (by simp [isShortened, hrole, htakes, hfind])
      rw [hvalue] at hdash
      cases hdash
    · intro _
      exact ⟨_, _, _, _, _, hopts, hsplit, hreads.missingValue hrole htakes⟩

/-- Joined flags, values with and without `=`, and values that look like options. -/
theorem boundary_found_mixed :
    let opts := ["-di", "--bui=inc", "--log-file", "-", "--lib", "-5", "--builtin-dir", "parse"]
    let o : Options :=
      { debug := true, interactive := true
        logFile := .value "-", builtinDir := .value "parse", library := .value "-5" }
    parse opts = .ok o ∧
      splitCommand (opts ++ ["parse", "--", "-x"]) = (opts, ["parse", "--", "-x"]) := by
  intro opts o
  have hparse : parse opts = .ok o := by decide +kernel
  have hcommand : ∀ word ∈ ["parse", "--", "-x"].head?, word.startsWith "-" = false := by
    decide +kernel
  have hspelled : SpelledOut opts := by decide +kernel
  exact ⟨hparse, (boundary_found hparse hcommand).1 hspelled⟩

/-- The value of a shortened option is taken for the command. -/
theorem value_taken_for_command :
    parse ["--lo", "x"] = .ok { logFile := .value "x" } ∧ "parse".startsWith "-" = false ∧
      splitCommand (["--lo", "x"] ++ ["parse", "a.c"]) = (["--lo"], ["x", "parse", "a.c"]) := by
  decide +kernel

end CodeSense.Options
