import CodeSense.Engine.Script
import CodeSense.Proofs.Response.Reading
import CodeSense.Proofs.Session.Effects

/-!
# Reading diagnostics and compile options

The editor takes a diagnostic apart again: `Diagnostic.ofDatum?`. Compile options are lines of
strings without a list around them, yet no two answers are written alike. Both are said by
`reports_read_back`. A number that is too long to be written breaks a list of diagnostics off
(`diagnostic_unreported`).
-/

namespace CodeSense

open Response (Datum Spells spells_quote spells_number spells_parens spells_symbol)

/-! ## Diagnostics -/

def Severity.all : List Severity := [ignored, note, warning, error, fatal]

def Severity.ofTag? (tag : String) : Option Severity := all.find? (·.tag = tag)

theorem Severity.ofTag?_tag (s : Severity) : ofTag? s.tag = some s := by
  cases s <;> decide

theorem Severity.spells_tag (s : Severity) : Spells s.tag (.symbol s.tag) := by
  have htag : ∀ c ∈ s.tag.toList, Response.isDelimiter c = false := by
    cases s <;> simp [Severity.tag] <;> decide
  cases s with
  | ignored => exact spells_symbol (c := 'i') (by decide) (by decide) htag
  | note => exact spells_symbol (c := 'n') (by decide) (by decide) htag
  | warning => exact spells_symbol (c := 'w') (by decide) (by decide) htag
  | error => exact spells_symbol (c := 'e') (by decide) (by decide) htag
  | fatal => exact spells_symbol (c := 'f') (by decide) (by decide) htag

namespace Diagnostic

def ofDatum? : Datum → Option Diagnostic
  | .list [.text file, .number line, .number column, .number offset, .symbol tag, .text message] =>
    (Severity.ofTag? tag).map fun severity => { file, line, column, offset, severity, message }
  | _ => none

def datum (d : Diagnostic) : Datum :=
  .list [.text d.file, .number d.line, .number d.column, .number d.offset, .symbol d.severity.tag,
    .text d.message]

theorem ofDatum?_datum (d : Diagnostic) : ofDatum? d.datum = some d := by
  rw [datum, ofDatum?, Severity.ofTag?_tag, Option.map_some]

theorem spells_text (d : Diagnostic) : Spells d.text d.datum := by
  refine spells_parens ?_ ?_
  · exact .cons (spells_quote _) (.cons (spells_number _) (.cons (spells_number _)
      (.cons (spells_number _) (.cons d.severity.spells_tag (.cons (spells_quote _) .nil)))))
  · have htag : ∀ s : Severity, (Datum.symbol s.tag).isDot = false := by
      intro s
      cases s <;> rfl
    simp only [List.tail_cons, List.forall_mem_cons]
    exact ⟨rfl, rfl, rfl, htag _, rfl, by simp⟩

end Diagnostic

/-! ## Strings one after another -/

theorem Response.toList_quote (s : String) :
    (quote s).toList = '"' :: (s.toList.flatMap escapeChar ++ ['"']) := by
  simp [quote]

/-- A string in quotes shows where it ends. -/
theorem Response.quote_append_inj {s t : String} {rest rest' : List Char}
    (h : (quote s).toList ++ rest = (quote t).toList ++ rest') : s = t ∧ rest = rest' := by
  simp only [toList_quote, List.cons_append, List.append_assoc, List.nil_append,
    List.cons.injEq, true_and] at h
  have hread := congrArg readText h
  rw [readText_escape, readText_escape, Option.some.injEq, Prod.mk.injEq] at hread
  exact ⟨String.toList_inj.mp hread.1, hread.2⟩

namespace Session

/-- By induction on the strings left in the line, each after a blank. -/
theorem rest_of_line_inj {args args' : List String} {rest rest' : List Char}
    (h : ((args.map Response.quote).flatMap fun t => ' ' :: t.toList) ++ '\n' :: rest =
      ((args'.map Response.quote).flatMap fun t => ' ' :: t.toList) ++ '\n' :: rest') :
    args = args' ∧ rest = rest' := by
  induction args generalizing args' with
  | nil =>
    cases args' with
    | nil => simpa using h
    | cons a args' => simp at h
  | cons a args ih =>
    cases args' with
    | nil => simp at h
    | cons a' args' =>
      simp only [List.map_cons, List.flatMap_cons, List.cons_append, List.append_assoc,
        List.cons.injEq, true_and] at h
      obtain ⟨rfl, hargs⟩ := Response.quote_append_inj h
      obtain ⟨rfl, rfl⟩ := ih hargs
      exact ⟨rfl, rfl⟩

theorem line_ne_empty (a : String) (args : List String) (rest rest' : List Char) :
    (String.intercalate " " ((a :: args).map Response.quote)).toList ++ '\n' :: rest ≠
      '\n' :: rest' := by
  rw [List.map_cons, Response.toList_intercalate, Response.toList_quote]
  simp

theorem line_inj {args args' : List String} {rest rest' : List Char}
    (h : (String.intercalate " " (args.map Response.quote)).toList ++ '\n' :: rest =
      (String.intercalate " " (args'.map Response.quote)).toList ++ '\n' :: rest') :
    args = args' ∧ rest = rest' := by
  cases args with
  | nil =>
    cases args' with
    | nil => simpa using h
    | cons a' args' => exact absurd h.symm (line_ne_empty a' args' rest' rest)
  | cons a args =>
    cases args' with
    | nil => exact absurd h (line_ne_empty a args rest rest')
    | cons a' args' =>
      rw [List.map_cons, List.map_cons, Response.toList_intercalate, Response.toList_intercalate,
        List.append_assoc, List.append_assoc] at h
      obtain ⟨rfl, hargs⟩ := Response.quote_append_inj h
      obtain ⟨rfl, rfl⟩ := rest_of_line_inj hargs
      exact ⟨rfl, rfl⟩

/-! ## Compile options -/

theorem command_append_inj {c c' : CompileCommand} {rest rest' : List Char}
    (h : (String.join (renderCommand c)).toList ++ rest =
      (String.join (renderCommand c')).toList ++ rest') : c = c' ∧ rest = rest' := by
  obtain ⟨arguments, directory⟩ := c
  obtain ⟨arguments', directory'⟩ := c'
  have hend : "\n".toList = ['\n'] := by simp
  simp only [renderCommand, String.join_cons, String.join_nil, String.append_empty,
    String.toList_append, List.append_assoc, hend, List.cons_append, List.nil_append] at h
  obtain ⟨rfl, hdirectory⟩ := line_inj h
  obtain ⟨rfl, hrest⟩ := Response.quote_append_inj hdirectory
  exact ⟨rfl, List.tail_eq_of_cons_eq hrest⟩

def commandText (commands : Option (List CompileCommand)) : String :=
  String.join (renderCommands commands)

theorem toList_commandText_cons (c : CompileCommand) (commands : List CompileCommand) :
    (commandText (some (c :: commands))).toList =
      (String.join (renderCommand c)).toList ++ (commandText (some commands)).toList := by
  simp [commandText, renderCommands]

/-- A command begins with a string or, if it has no arguments, with the end of its line. -/
theorem head?_command (c : CompileCommand) (rest : List Char) :
    ((String.join (renderCommand c)).toList ++ rest).head? = some '"' ∨
      ((String.join (renderCommand c)).toList ++ rest).head? = some '\n' := by
  obtain ⟨_ | ⟨a, arguments⟩, directory⟩ := c
  · exact .inr (by simp [renderCommand])
  · refine .inl ?_
    rw [renderCommand, List.map_cons, String.join_cons, String.toList_append, String.toList_append,
      Response.toList_intercalate, Response.toList_quote]
    rfl

theorem commandText_some_inj {a b : List CompileCommand}
    (h : (commandText (some a)).toList = (commandText (some b)).toList) : a = b := by
  induction a generalizing b with
  | nil =>
    cases b with
    | nil => rfl
    | cons c b =>
      rw [toList_commandText_cons] at h
      rcases head?_command c (commandText (some b)).toList with hhead | hhead <;>
        rw [← h] at hhead <;> cases hhead
  | cons c a ih =>
    cases b with
    | nil =>
      rw [toList_commandText_cons] at h
      rcases head?_command c (commandText (some a)).toList with hhead | hhead <;>
        rw [h] at hhead <;> cases hhead
    | cons c' b =>
      rw [toList_commandText_cons, toList_commandText_cons] at h
      obtain ⟨rfl, hrest⟩ := command_append_inj h
      rw [ih hrest]

theorem commandText_none_ne (commands : List CompileCommand) :
    (commandText none).toList ≠ (commandText (some commands)).toList := by
  intro h
  have hnil : (commandText none).toList.head? = some 'n' := rfl
  cases commands with
  | nil => simp [commandText, renderCommands, Response.nil] at h
  | cons c commands =>
    rw [h, toList_commandText_cons] at hnil
    rcases head?_command c (commandText (some commands)).toList with hhead | hhead <;>
      rw [hnil] at hhead <;> cases hhead

theorem commandText_injective {a b : Option (List CompileCommand)}
    (h : commandText a = commandText b) : a = b := by
  cases a with
  | none =>
    cases b with
    | none => rfl
    | some b => exact absurd (congrArg String.toList h) (commandText_none_ne b)
  | some a =>
    cases b with
    | none => exact absurd (congrArg String.toList h.symm) (commandText_none_ne a)
    | some b => rw [commandText_some_inj (congrArg String.toList h)]

/-! ## What a session writes -/

variable {σ : Type} {E : Engine σ} {s : Session (Traced σ)}

def Prints (E : Engine σ) (op : Operation) (s : Session (Traced σ)) (text : String) : Prop :=
  ∃ s', perform E.traced op s = (.ok (), s') ∧ s'.out = s.out ++ text

def StopsPrinting (E : Engine σ) (op : Operation) (s : Session (Traced σ)) (text : String)
    (e : Fault) : Prop :=
  ∃ s', perform E.traced op s = (.error e, s') ∧ s'.out = s.out ++ text

def Gives (E : Engine σ) (s : Session (Traced σ)) (r : Request) (a : r.Answer) : Prop :=
  (E.call r s.pool.engine.state).1.result = .ok a

/-- The diagnostics that the operation has to show: those of the engine, if there is something to
ask it about. -/
inductive Diagnosed (E : Engine σ) (s : Session (Traced σ)) : Operation → List Diagnostic → Prop
  | noUnit (h : s.activeUnit? = none) : Diagnosed E s .diagnostics []
  | unit {record : UnitRecord} {found : List Diagnostic} (h : s.activeUnit? = some record)
    (ha : Gives E s (.diagnostics record.handle) { items := found }) :
    Diagnosed E s .diagnostics found
  | noSet (h : s.activeCompletion = none) : Diagnosed E s .completionDiagnostics []
  | set {set : ActiveCompletion} {found : List Diagnostic} (h : s.activeCompletion = some set)
    (ha : Gives E s (.completionDiagnostics set.handle) { items := found }) :
    Diagnosed E s .completionDiagnostics found

theorem read_diagnosticList (found : List Diagnostic) :
    Response.read (diagnosticList found).toList =
      some (.list (found.map Diagnostic.datum), ['\n']) := by
  have hblock : Spells ("(\n" ++ String.join ((found.map Diagnostic.text).map
      fun t => "" ++ t ++ "\n") ++ ")") (.list (found.map Diagnostic.datum)) := by
    refine Response.spells_block (by simp) (by simp; decide) (by decide)
      (Response.forall₂_spells found fun d _ => d.spells_text) fun d hd => ?_
    obtain ⟨c, -, rfl⟩ := List.mem_map.mp hd
    rfl
  have htext : diagnosticList found = "(\n" ++ String.join ((found.map Diagnostic.text).map
      fun t => "" ++ t ++ "\n") ++ ")" ++ "\n" := by
    simp [diagnosticList, Diagnostic.row, String.append_assoc, Function.comp_def]
  rw [htext, String.toList_append]
  exact hblock.read (Response.apart_close _ _)

/-- A query shows what the engine tells it. -/
theorem Gives.shown {op : Operation} {r : Request} {a : r.Answer} (h : Gives E s r a)
    (hquery : op.isQuery = true) (hr : op.asks? s = some r) :
    ∃ s', perform E.traced op s = ((r.shown a).result, s') ∧ s'.out = s.out ++ (r.shown a).text := by
  obtain ⟨s₁, hcall, hout⟩ : ∃ s₁, call E.traced r s = (.ok a, s₁) ∧ s₁.out = s.out :=
    ⟨_, Act.run_eq h, rfl⟩
  obtain ⟨s', hrun, journal, -, rfl⟩ := perform_told hquery hr hcall
  exact ⟨_, hrun, by rw [← hout]⟩

theorem Diagnosed.shown {op : Operation} {found : List Diagnostic} (h : Diagnosed E s op found) :
    ∃ s', perform E.traced op s = ((shownDiagnostics { items := found }).result, s') ∧
      s'.out = s.out ++ (shownDiagnostics { items := found }).text := by
  cases h with
  | noUnit h =>
    obtain ⟨s', hrun, journal, -, rfl⟩ :=
      perform_known (E := E.traced) (s := s) .diagnostics rfl (by simp [Operation.asks?, h])
    exact ⟨_, hrun, rfl⟩
  | unit h ha => exact ha.shown rfl (by simp [Operation.asks?, h])
  | noSet h =>
    obtain ⟨s', hrun, journal, -, rfl⟩ :=
      perform_known (E := E.traced) (s := s) .completionDiagnostics rfl
        (by simp [Operation.asks?, h])
    exact ⟨_, hrun, rfl⟩
  | set h ha => exact ha.shown rfl (by simp [Operation.asks?, h])

theorem Diagnosed.prints {op : Operation} {found : List Diagnostic} (h : Diagnosed E s op found) :
    if found.all (·.isWritable) then Prints E op s (diagnosticList found)
    else StopsPrinting E op s (reportBeginning (found.takeWhile (·.isWritable))) .tooManyDigits := by
  obtain ⟨s', hrun, hout⟩ := h.shown
  obtain ⟨htext, hresult⟩ := shownDiagnostics_eq found
  rw [htext] at hout
  rw [hresult] at hrun
  split
  · rename_i hall
    rw [if_pos hall] at hrun hout
    exact ⟨s', hrun, hout⟩
  · rename_i hall
    rw [if_neg hall] at hrun hout
    exact ⟨s', hrun, hout⟩

theorem prints_commandText {buildDir file : String} {commands : Option (List CompileCommand)}
    (h : Gives E s (.compileCommands buildDir file) commands) :
    Prints E (.getCompileOptions buildDir file) s (commandText commands) :=
  h.shown rfl rfl

theorem Prints.unique {op : Operation} {text text' : String} (h : Prints E op s text)
    (h' : Prints E op s text') : text = text' := by
  obtain ⟨t, ht, hout⟩ := h
  obtain ⟨t', ht', hout'⟩ := h'
  obtain rfl : t = t' := by
    rw [ht] at ht'
    exact congrArg Prod.snd ht'
  exact (String.append_right_inj _).mp (hout.symm.trans hout')

/-- **Reports are read back.** The diagnostics that a session writes are one list, with a value for
each of them, in their order, and each gives back all of its diagnostic. The list breaks off before the
first with a number that is too long to be written. Compile options are written so that no other
answer of an engine, whichever it is, gives the same text. -/
theorem reports_read_back (E : Engine σ) (s : Session (Traced σ)) :
    (∀ op found, Diagnosed E s op found →
      if found.all (·.isWritable) then
        ∃ text, Prints E op s text ∧
          ∃ ds, Response.read text.toList = some (.list ds, ['\n']) ∧
            ds.map Diagnostic.ofDatum? = found.map some
      else StopsPrinting E op s (reportBeginning (found.takeWhile (·.isWritable))) .tooManyDigits) ∧
    ∀ buildDir file commands, Gives E s (.compileCommands buildDir file) commands →
      ∃ text, Prints E (.getCompileOptions buildDir file) s text ∧
        ∀ {τ : Type} (E' : Engine τ) (s' : Session (Traced τ)) buildDir' file' commands',
          Gives E' s' (.compileCommands buildDir' file') commands' →
            Prints E' (.getCompileOptions buildDir' file') s' text → commands' = commands := by
  constructor
  · intro op found h
    have hprints := h.prints
    split
    · rename_i hall
      rw [if_pos hall] at hprints
      refine ⟨_, hprints, _, read_diagnosticList found, ?_⟩
      rw [List.map_map]
      exact List.map_congr_left fun d _ => d.ofDatum?_datum
    · rename_i hall
      rw [if_neg hall] at hprints
      exact hprints
  · intro buildDir file commands h
    refine ⟨_, prints_commandText h, fun E' s' buildDir' file' commands' h' hprints => ?_⟩
    exact commandText_injective ((prints_commandText h').unique hprints)

/-- Strings with quotes, parentheses, backslashes and line ends, and a command without arguments. -/
theorem reports_read_back_escaped :
    let found : List Diagnostic := [
      ⟨"a\"b", -1, 0, 18446744073709551616, .fatal, ") \\\n(\""⟩, ⟨"", 7, 8, 9, .ignored, ""⟩]
    let commands : List CompileCommand := [⟨[], "\n"⟩, ⟨["", "\" \""], "nil"⟩]
    let script : Script := { diagnostics := [("a", found)], compileCommands := [("b", commands)] }
    let s := run Script.engine.traced (opened script {} {}) [({}, .parse "a" [])]
    Diagnosed Script.engine s .diagnostics found ∧
      Gives Script.engine s (.compileCommands "b" "a") (some commands) ∧
      (∃ text, Prints Script.engine .diagnostics s text ∧
        ∃ ds, Response.read text.toList = some (.list ds, ['\n']) ∧
          ds.map Diagnostic.ofDatum? = found.map some) ∧
      ∃ text, Prints Script.engine (.getCompileOptions "b" "a") s text ∧
        ∀ {τ : Type} (E' : Engine τ) (s' : Session (Traced τ)) buildDir' file' commands',
          Gives E' s' (.compileCommands buildDir' file') commands' →
            Prints E' (.getCompileOptions buildDir' file') s' text → commands' = some commands := by
  intro found commands script s
  have hunit : s.activeUnit? = some ⟨"a", ["clang"], 1, 2, false⟩ := by decide +kernel
  have hdiagnosed : Diagnosed Script.engine s .diagnostics found := .unit hunit rfl
  have hgives : Gives Script.engine s (.compileCommands "b" "a") (some commands) := rfl
  have hall : found.all (·.isWritable) = true := by decide +kernel
  have hread := (reports_read_back Script.engine s).1 _ _ hdiagnosed
  rw [if_pos hall] at hread
  exact ⟨hdiagnosed, hgives, hread, (reports_read_back Script.engine s).2 _ _ _ hgives⟩

/-- A diagnostic whose line is too long to be written is not reported, nor is the list finished. -/
theorem diagnostic_unreported :
    let found : List Diagnostic := [
      ⟨"a", Int.ofNat (Nat.pow 10 Text.maxDigits), 1, 0, .error, "m"⟩]
    let s := run Script.engine.traced (opened { diagnostics := [("a", found)] } {} {})
      [({}, .parse "a" [])]
    Diagnosed Script.engine s .diagnostics found ∧
      (∀ text, ¬ Prints Script.engine .diagnostics s text) ∧
      StopsPrinting Script.engine .diagnostics s "(\n" .tooManyDigits := by
  intro found s
  have hunit : s.activeUnit? = some ⟨"a", ["clang"], 1, 2, false⟩ := by decide +kernel
  have hrun : (perform Script.engine.traced .diagnostics s).1 = .error .tooManyDigits := by
    decide +kernel
  have hout : (perform Script.engine.traced .diagnostics s).2.out = s.out ++ "(\n" := by
    decide +kernel
  refine ⟨.unit hunit rfl, fun text hprints => ?_, _, Act.run_eq hrun, hout⟩
  obtain ⟨s', hs', -⟩ := hprints
  rw [hs'] at hrun
  cases hrun

end Session

end CodeSense
