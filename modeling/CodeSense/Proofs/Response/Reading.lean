import CodeSense.Response.Reader
import CodeSense.Session.Completing
import CodeSense.Text.Blank
import Mathlib.Data.List.Forall2
import Std.Data.String.ToInt

/-!
# Reading back what was written

`Spells t d` says that the reader takes the text `t` for the value `d` wherever it stands. Strings,
numbers and other words are spelled this way, and lists are if their items are. So a response
is read back as the values that it was written for: `values_read_back`.
-/

namespace CodeSense

namespace Response

def Apart (t : String) (rest : List Char) : Prop :=
  (∃ c ∈ t.toList.getLast?, isDelimiter c = true) ∨ ∀ c ∈ rest.head?, isDelimiter c = true

theorem apart_nil (t : String) : Apart t [] := .inr (by simp)

/-- The text is read as the value. Two steps for each of its characters are enough. -/
structure Spells (t : String) (d : Datum) : Prop where
  starts : ∃ c cs, t.toList = c :: cs ∧ isBlank c = false ∧ c ≠ ')'
  reads : ∀ fuel rest, Apart t rest → 2 * t.toList.length ≤ fuel →
    readDatum (fuel + 1) (t.toList ++ rest) = some (d, rest)

theorem Spells.read {t : String} {d : Datum} (h : Spells t d) {rest : List Char}
    (hrest : Apart t rest) : read (t.toList ++ rest) = some (d, rest) := by
  refine h.reads _ rest hrest ?_
  rw [List.length_append]
  omega

/-! ## Strings and words -/

theorem isDelimiter_cases {c : Char} (h : isDelimiter c = true) :
    c = ' ' ∨ c = '\n' ∨ c = '(' ∨ c = ')' ∨ c = '"' := by
  simpa [isDelimiter, isBlank, or_assoc] using h

theorem spells_quote (s : String) : Spells (quote s) (.text s) := by
  refine ⟨⟨'"', s.toList.flatMap escapeChar ++ ['"'], by simp [quote], by decide, by decide⟩, ?_⟩
  intro fuel rest _ _
  simp [quote, readDatum, isBlank, readText_escape]

theorem apart_quote (s : String) (rest : List Char) : Apart (quote s) rest := by
  refine .inl ⟨'"', ?_, by decide⟩
  simp [quote, List.getLast?_cons]

theorem spells_word {w : String} (hne : w ≠ "") (hw : ∀ c ∈ w.toList, isDelimiter c = false) :
    Spells w (.ofWord w) := by
  obtain ⟨c, cs, hcs⟩ := List.exists_cons_of_ne_nil (show w.toList ≠ [] by simpa using hne)
  have hc : isDelimiter c = false := hw c (by simp [hcs])
  have hblank : isBlank c = false := by
    simp only [isDelimiter, Bool.or_eq_false_iff] at hc
    exact hc.1.1.1
  have hopen : c ≠ '(' := by rintro rfl; cases hc
  have hclose : c ≠ ')' := by rintro rfl; cases hc
  have hquote : c ≠ '"' := by rintro rfl; cases hc
  refine ⟨⟨c, cs, hcs, hblank, hclose⟩, fun fuel rest hrest _ => ?_⟩
  have hend : ∀ d ∈ rest.head?, isDelimiter d = true := by
    refine hrest.resolve_left ?_
    rintro ⟨d, hd, hdelimiter⟩
    rw [hw d (List.mem_of_getLast? hd)] at hdelimiter
    cases hdelimiter
  have hstop : rest.takeWhile (!isDelimiter ·) = [] ∧ rest.dropWhile (!isDelimiter ·) = rest := by
    cases rest with
    | nil => exact ⟨rfl, rfl⟩
    | cons d rest => simp [hend d rfl]
  have htake : (w.toList ++ rest).takeWhile (!isDelimiter ·) = w.toList := by
    rw [List.takeWhile_append_of_pos (by simpa using hw), hstop.1, List.append_nil]
  have hdrop : (w.toList ++ rest).dropWhile (!isDelimiter ·) = rest := by
    rw [List.dropWhile_append_of_pos (by simpa using hw), hstop.2]
  have hkeep : (w.toList ++ rest).dropWhile isBlank = w.toList ++ rest := by
    rw [hcs, List.cons_append, List.dropWhile_cons_of_neg (by simp [hblank])]
  rw [readDatum, hkeep]
  split
  · simp_all
  · rename_i heq
    simp [hcs, hopen] at heq
  · rename_i heq
    simp [hcs, hquote] at heq
  · rw [htake, hdrop]
    split
    · rename_i hnil
      exact absurd (String.toList_eq_nil_iff.mp hnil) hne
    · rw [String.ofList_toList]

theorem number_letters (n : Int) : ∀ c ∈ (number n).toList, c.isDigit = true ∨ c = '-' := by
  have hdigits : ∀ m : Nat, ∀ c ∈ m.repr.toList, c.isDigit = true := by
    intro m c hc
    rw [Nat.repr_eq_ofList_toDigits, String.toList_ofList] at hc
    exact Nat.isDigit_of_mem_toDigits (by decide) (by decide) hc
  intro c hc
  cases n with
  | ofNat m => exact .inl (hdigits m c hc)
  | negSucc m =>
    have hminus : c ∈ ("-" ++ (m + 1).repr).toList := hc
    rw [String.toList_append, List.mem_append] at hminus
    rcases hminus with h | h
    · exact .inr (by simpa using h)
    · exact .inl (hdigits _ c h)

theorem number_ne_empty (n : Int) : number n ≠ "" := by
  cases n with
  | ofNat m => exact Nat.repr_ne_empty
  | negSucc m =>
    have hminus : "-" ++ (m + 1).repr ≠ "" := by simp
    exact hminus

theorem ofWord_number (n : Int) : Datum.ofWord (number n) = .number n := by
  have hread : (number n).toInt? = some n := Int.toInt?_repr n
  simp [Datum.ofWord, hread]

/-- A word with a letter that no number has is a symbol. -/
theorem ofWord_symbol {w : String} {c : Char} (hc : c ∈ w.toList)
    (hletter : ¬ (c.isDigit = true ∨ c = '-')) : Datum.ofWord w = .symbol w := by
  unfold Datum.ofWord
  split
  · rename_i n _
    rw [if_neg]
    rintro rfl
    exact hletter (number_letters n c hc)
  · rfl

theorem spells_number (n : Int) : Spells (number n) (.number n) := by
  rw [← ofWord_number n]
  refine spells_word (number_ne_empty n) fun c hc => ?_
  rcases number_letters n c hc with hdigit | rfl
  · refine Bool.eq_false_iff.mpr fun hdelimiter => ?_
    rcases isDelimiter_cases hdelimiter with rfl | rfl | rfl | rfl | rfl <;> cases hdigit
  · rfl

theorem spells_symbol {w : String} {c : Char} (hc : c ∈ w.toList)
    (hletter : ¬ (c.isDigit = true ∨ c = '-')) (hw : ∀ c ∈ w.toList, isDelimiter c = false) :
    Spells w (.symbol w) := by
  rw [← ofWord_symbol hc hletter]
  refine spells_word ?_ hw
  rintro rfl
  simp at hc

theorem spells_atom (a : Atom) : Spells a.render a.datum := by
  cases a with
  | text s => exact spells_quote s
  | number n => exact spells_number n

/-! ## Lists -/

theorem readDatum_blank {c : Char} (hc : isBlank c = true) (fuel : Nat) (s : List Char) :
    readDatum fuel (c :: s) = readDatum fuel s := by
  cases fuel with
  | zero => simp [readDatum]
  | succ fuel => simp [readDatum, hc]

theorem readItems_blanks {blanks : List Char} (h : ∀ c ∈ blanks, isBlank c = true) (fuel : Nat)
    (done : List Datum) (s : List Char) :
    readItems fuel done (blanks ++ s) = readItems fuel done s := by
  cases fuel with
  | zero => simp [readItems]
  | succ fuel => simp [readItems, List.dropWhile_append_of_pos h]

theorem readItems_close (fuel : Nat) (done : List Datum) (rest : List Char) :
    readItems (fuel + 1) done (')' :: rest) = some (.list done, rest) := by
  simp [readItems, isBlank]

theorem readItems_item {t : String} {d : Datum} (h : Spells t d) {fuel : Nat} {done : List Datum}
    {rest : List Char} (hrest : Apart t rest) (hfuel : 2 * t.toList.length + 1 ≤ fuel) :
    readItems (fuel + 1) done (t.toList ++ rest) =
      if d.isDot && !done.isEmpty then do
        let (tail, rest) ← readDatum fuel rest
        match rest.dropWhile isBlank with
        | ')' :: rest => return (.dotted done tail, rest)
        | _ => none
      else readItems fuel (done ++ [d]) rest := by
  obtain ⟨c, cs, hcs, hblank, hclose⟩ := h.starts
  obtain ⟨fuel, rfl⟩ : ∃ k, fuel = k + 1 := ⟨fuel - 1, by omega⟩
  have hread := h.reads fuel rest hrest (by omega)
  have hkeep : (t.toList ++ rest).dropWhile isBlank = t.toList ++ rest := by
    rw [hcs, List.cons_append, List.dropWhile_cons_of_neg (by simp [hblank])]
  rw [readItems, hkeep]
  split
  · rename_i heq
    simp [hcs, hclose] at heq
  · rw [hread]
    rfl

/-- What is between an item and the next, or the end of the list, keeps them apart. -/
theorem apart_next {lead trail : List Char} (hlead : ∀ c ∈ lead, isBlank c = true)
    (htrail : ∀ c ∈ trail, isBlank c = true) (hsep : lead ++ trail ≠ []) (t : String)
    (ts : List String) (rest : List Char) :
    Apart t (trail ++ ((ts.flatMap fun t => lead ++ (t.toList ++ trail)) ++ ')' :: rest)) := by
  refine .inr fun c hc => ?_
  have hblank : ∀ {c}, isBlank c = true → isDelimiter c = true := fun h => by simp [isDelimiter, h]
  cases trail with
  | cons b trail =>
    obtain rfl : b = c := by simpa using hc
    exact hblank (htrail b (by simp))
  | nil =>
    cases ts with
    | nil =>
      obtain rfl : ')' = c := by simpa using hc
      rfl
    | cons next ts =>
      cases lead with
      | nil => exact absurd rfl hsep
      | cons b lead =>
        obtain rfl : b = c := by simpa using hc
        exact hblank (hlead b (by simp))

/-- Items with blanks before and after them, up to the end of their list. -/
theorem readItems_items {lead trail : List Char} (hlead : ∀ c ∈ lead, isBlank c = true)
    (htrail : ∀ c ∈ trail, isBlank c = true) (hsep : lead ++ trail ≠ []) {ts : List String}
    {ds : List Datum} (h : List.Forall₂ Spells ts ds) (hdots : ∀ d ∈ ds, d.isDot = false)
    {fuel : Nat} {done : List Datum} {rest : List Char}
    (hfuel : 2 * (ts.flatMap fun t => lead ++ t.toList ++ trail).length + 2 ≤ fuel) :
    readItems fuel done ((ts.flatMap fun t => lead ++ t.toList ++ trail) ++ ')' :: rest) =
      some (.list (done ++ ds), rest) := by
  induction h generalizing fuel done with
  | nil =>
    obtain ⟨fuel, rfl⟩ : ∃ k, fuel = k + 1 := ⟨fuel - 1, by omega⟩
    simpa using readItems_close fuel done rest
  | @cons t d ts ds ht hts ih =>
    obtain ⟨hdot, hdots⟩ := List.forall_mem_cons.mp hdots
    obtain ⟨fuel, rfl⟩ : ∃ k, fuel = k + 1 := ⟨fuel - 1, by omega⟩
    simp only [List.flatMap_cons, List.append_assoc, List.length_append] at hfuel ih ⊢
    have hapart := apart_next hlead htrail hsep t ts rest
    obtain ⟨_, _, hcs, -, -⟩ := ht.starts
    have hlength : 0 < t.toList.length := by simp [hcs]
    rw [readItems_blanks hlead, readItems_item ht hapart (by omega), hdot, Bool.false_and,
      if_neg (by simp), readItems_blanks htrail, ih hdots (by omega)]
    simp

theorem toList_intercalate (t : String) (ts : List String) :
    (String.intercalate " " (t :: ts)).toList = t.toList ++ ts.flatMap fun t => ' ' :: t.toList := by
  induction ts generalizing t with
  | nil => simp
  | cons next ts ih =>
    rw [String.intercalate_cons_cons, String.toList_append, String.toList_append, ih]
    simp

theorem toList_parens (t : String) (ts : List String) :
    (parens (t :: ts)).toList =
      '(' :: (t.toList ++ ((ts.flatMap fun t => [' '] ++ t.toList ++ []) ++ [')'])) := by
  rw [parens, String.toList_append, String.toList_append, toList_intercalate]
  simp

theorem apart_close (t : String) (rest : List Char) : Apart (t ++ ")") rest :=
  .inl ⟨')', by simp, by decide⟩

theorem readDatum_open (fuel : Nat) (s : List Char) :
    readDatum (fuel + 1) ('(' :: s) = readItems fuel [] s := by
  simp [readDatum, isBlank]

/-- A list is spelled by its items. A dot is one only at the start. -/
theorem spells_parens {ts : List String} {ds : List Datum} (h : List.Forall₂ Spells ts ds)
    (hdots : ∀ d ∈ ds.tail, d.isDot = false) : Spells (parens ts) (.list ds) := by
  have hblank : ∀ c ∈ [' '], isBlank c = true := by simp; decide
  cases h with
  | nil =>
    refine ⟨⟨'(', [')'], by simp [parens], by decide, by decide⟩, fun fuel rest _ hfuel => ?_⟩
    obtain ⟨fuel, rfl⟩ : ∃ k, fuel = k + 1 := by
      simp only [parens, String.intercalate_nil, String.toList_append] at hfuel
      exact ⟨fuel - 1, by simp at hfuel; omega⟩
    have hopen := readDatum_open (fuel + 1) (')' :: rest)
    rw [readItems_close] at hopen
    simpa [parens] using hopen
  | @cons t d ts ds ht hts =>
    have hlist := toList_parens t ts
    refine ⟨⟨'(', _, hlist, by decide, by decide⟩, fun fuel rest _ hfuel => ?_⟩
    have hnone : ∀ c ∈ ([] : List Char), isBlank c = true := by simp
    have hapart := apart_next hblank hnone (by simp) t ts rest
    rw [hlist] at hfuel ⊢
    simp only [List.length_cons, List.length_append, List.length_nil] at hfuel
    obtain ⟨fuel, rfl⟩ : ∃ k, fuel = k + 1 := ⟨fuel - 1, by omega⟩
    rw [List.cons_append, readDatum_open, List.append_assoc, List.append_assoc]
    rw [readItems_item ht (by simpa using hapart) (by omega)]
    simp only [List.isEmpty_nil, Bool.not_true, Bool.and_false, Bool.false_eq_true, if_false]
    exact readItems_items hblank hnone (by simp) hts hdots (by omega)

/-- Items with a line or more for each, between the lines of the parentheses. -/
theorem spells_block {lead trail : String} (hlead : ∀ c ∈ lead.toList, isBlank c = true)
    (htrail : ∀ c ∈ trail.toList, isBlank c = true) (hsep : lead.toList ++ trail.toList ≠ [])
    {ts : List String} {ds : List Datum} (h : List.Forall₂ Spells ts ds)
    (hdots : ∀ d ∈ ds, d.isDot = false) :
    Spells ("(\n" ++ String.join (ts.map fun t => lead ++ t ++ trail) ++ ")") (.list ds) := by
  have hjoin : ∀ items : List String,
      (String.join (items.map fun t => lead ++ t ++ trail)).toList =
        items.flatMap fun t => lead.toList ++ t.toList ++ trail.toList := by
    intro items
    induction items with
    | nil => rfl
    | cons t items ih => simp [String.join_cons, ih]
  have hlist : ("(\n" ++ String.join (ts.map fun t => lead ++ t ++ trail) ++ ")").toList =
      '(' :: (['\n'] ++ ((ts.flatMap fun t => lead.toList ++ t.toList ++ trail.toList) ++ [')'])) := by
    simp [hjoin]
  refine ⟨⟨'(', _, hlist, by decide, by decide⟩, fun fuel rest _ hfuel => ?_⟩
  rw [hlist] at hfuel ⊢
  simp only [List.length_cons, List.length_append, List.length_nil] at hfuel
  rw [List.cons_append, readDatum_open, List.append_assoc, readItems_blanks (by simp; decide),
    List.append_assoc]
  exact readItems_items hlead htrail hsep h hdots (by omega)

/-- A pair is spelled by its parts with the dot between them. -/
theorem spells_dotted {h t : String} {a d : Datum} (hh : Spells h a) (ht : Spells t d) :
    Spells ("(" ++ h ++ " . " ++ t ++ ")") (.dotted [a] d) := by
  have hlist : ("(" ++ h ++ " . " ++ t ++ ")").toList =
      '(' :: (h.toList ++ ([' '] ++ (".".toList ++ ' ' :: (t.toList ++ [')'])))) := by
    simp
  have hdot : Spells "." (.symbol ".") := spells_symbol (c := '.') (by simp) (by decide) (by simp; decide)
  refine ⟨⟨'(', _, hlist, by decide, by decide⟩, fun fuel rest _ hfuel => ?_⟩
  rw [hlist] at hfuel ⊢
  simp only [List.length_cons, List.length_append, List.length_nil] at hfuel
  obtain ⟨fuel, rfl⟩ : ∃ k, fuel = k + 1 + 1 + 1 := ⟨fuel - 3, by omega⟩
  have htail := ht.reads fuel (')' :: rest) (.inr (by simp; rfl)) (by omega)
  rw [List.cons_append, readDatum_open, List.append_assoc]
  rw [readItems_item hh (.inr (by simp; rfl)) (by omega), List.append_assoc]
  simp only [List.isEmpty_nil, Bool.not_true, Bool.and_false, Bool.false_eq_true, if_false]
  rw [readItems_blanks (by simp; decide), List.append_assoc]
  rw [readItems_item hdot (.inr (by simp; rfl)) (by simp; omega)]
  simp [Datum.isDot, readDatum_blank (c := ' ') rfl, htail, isBlank]

/-! ## Responses -/

def IsWord (w : String) : Prop :=
  w ≠ "" ∧ ∀ c ∈ w.toList, Text.isBlank c = false ∧ c ∉ ['(', ')', '"', '\\']

instance (w : String) : Decidable (IsWord w) :=
  decidable_of_iff
    (w ≠ "" ∧ w.toList.all fun c => !Text.isBlank c && !(['(', ')', '"', '\\'].contains c))
    (by simp [IsWord])

theorem IsWord.spells {w : String} (h : IsWord w) : Spells w (.ofWord w) := by
  refine spells_word h.1 fun c hc => ?_
  obtain ⟨hblank, hplain⟩ := h.2 c hc
  refine Bool.eq_false_iff.mpr fun hdelimiter => ?_
  rcases isDelimiter_cases hdelimiter with rfl | rfl | rfl | rfl | rfl
  · cases hblank
  · cases hblank
  · simp at hplain
  · simp at hplain
  · simp at hplain

def Datum.word? : Datum → Option String
  | .number n => some (Response.number n)
  | .symbol name => some name
  | _ => none

theorem word?_ofWord (w : String) : (Datum.ofWord w).word? = some w := by
  unfold Datum.ofWord
  split
  · split
    · rename_i hw
      rw [Datum.word?, hw]
    · rfl
  · rfl

theorem forall₂_spells {α : Type} {f : α → String} {g : α → Datum} (l : List α)
    (h : ∀ a ∈ l, Spells (f a) (g a)) : List.Forall₂ Spells (l.map f) (l.map g) := by
  rw [List.forall₂_map_left_iff, List.forall₂_map_right_iff, List.forall₂_same]
  exact h

theorem isDot_datum {details : List Atom} {d : Datum} (hd : d ∈ details.map Atom.datum) :
    d.isDot = false := by
  obtain ⟨a, -, rfl⟩ := List.mem_map.mp hd
  cases a <;> rfl

theorem spells_list (items : List Atom) : Spells (list items) (.list (items.map Atom.datum)) :=
  spells_parens (forall₂_spells items fun a _ => spells_atom a)
    fun _ hd => isDot_datum (List.mem_of_mem_tail hd)

def errorDatum (kind message : String) (details : List Atom) : Datum :=
  .dotted [.symbol "error"] (.list (.ofWord kind :: .text message :: details.map Atom.datum))

theorem spells_error {kind : String} (hkind : IsWord kind) (message : String)
    (details : List Atom) :
    Spells (error kind message details) (errorDatum kind message details) := by
  have hsymbol : Spells "error" (.symbol "error") :=
    spells_symbol (c := 'e') (by simp) (by decide) (by simp; decide)
  have hparts : Spells (parens (kind :: quote message :: details.map Atom.render))
      (.list (.ofWord kind :: .text message :: details.map Atom.datum)) := by
    refine spells_parens (.cons hkind.spells (.cons (spells_quote message) ?_)) ?_
    · exact forall₂_spells details fun a _ => spells_atom a
    · exact List.forall_mem_cons.mpr ⟨rfl, fun _ hd => isDot_datum hd⟩
  exact spells_dotted hsymbol hparts

theorem written?_eq_none {values : List Atom} {text : String} :
    written? values text = none ↔ ∃ n, .number n ∈ values ∧ Text.isWritable n = false := by
  have hvalue : ∀ a : Atom, a.isWritable = false ↔ ∃ n, .number n = a ∧ Text.isWritable n = false := by
    intro a
    cases a <;> simp [Atom.isWritable]
  simp only [written?, ite_eq_right_iff, reduceCtorEq, imp_false, List.all_eq_true, not_forall,
    Bool.not_eq_true, hvalue]
  constructor
  · rintro ⟨_, ha, n, rfl, hn⟩
    exact ⟨n, ha, hn⟩
  · rintro ⟨n, ha, hn⟩
    exact ⟨_, ha, n, rfl, hn⟩

theorem eq_of_written? {values : List Atom} {text t : String} (h : written? values text = some t) :
    t = text := by
  unfold written? at h
  split at h
  · exact (Option.some.inj h).symm
  · cases h

/-- The text is there unless a number is too long to be written, and is then read as the value. -/
structure ReadBack (text? : Option String) (values : List Atom) (d : Datum) : Prop where
  unwritten : text? = none ↔ ∃ n, .number n ∈ values ∧ Text.isWritable n = false
  reads : ∀ t, text? = some t → ∀ rest, read (t.toList ++ rest) = some (d, rest)

theorem readBack_list (items : List Atom) :
    ReadBack (list? items) items (.list (items.map Atom.datum)) := by
  refine ⟨written?_eq_none, fun t ht rest => ?_⟩
  rw [eq_of_written? ht]
  exact (spells_list items).read (apart_close _ rest)

theorem readBack_error {kind : String} (hkind : IsWord kind) (message : String)
    (details : List Atom) :
    ReadBack (error? kind message details) details (errorDatum kind message details) := by
  refine ⟨written?_eq_none, fun t ht rest => ?_⟩
  rw [eq_of_written? ht]
  exact (spells_error hkind message details).read (apart_close _ rest)

theorem ReadBack.unique {text? text?' : Option String} {values values' : List Atom} {d d' : Datum}
    (h : ReadBack text? values d) (h' : ReadBack text?' values' d') {t : String}
    (ht : text? = some t) (ht' : text?' = some t) : d = d' := by
  have hread := h.reads t ht []
  rw [h'.reads t ht' []] at hread
  cases hread
  rfl

theorem datum_injective {a b : List Atom} (h : a.map Atom.datum = b.map Atom.datum) : a = b := by
  refine List.map_injective_iff.mpr (fun x y hxy => ?_) h
  cases x <;> cases y <;> cases hxy <;> rfl

/-- **What is written is read back.** A string is, before any text. A list of values is, and an
error of any kind that is a word, if their numbers can be written. So texts that are the same were
written for the same values. -/
theorem values_read_back (s : String) (rest : List Char) (items details : List Atom)
    (kind message : String) :
    read ((quote s).toList ++ rest) = some (.text s, rest) ∧
    ReadBack (list? items) items (.list (items.map Atom.datum)) ∧
    (IsWord kind →
      ReadBack (error? kind message details) details
          (.dotted [.symbol "error"]
            (.list (.ofWord kind :: .text message :: details.map Atom.datum))) ∧
        (Datum.ofWord kind).word? = some kind) ∧
    (∀ s', quote s = quote s' → s = s') ∧
    (∀ items' t, list? items = some t → list? items' = some t → items = items') ∧
    ∀ kind' message' details' t, IsWord kind → IsWord kind' →
      error? kind message details = some t → error? kind' message' details' = some t →
      kind = kind' ∧ message = message' ∧ details = details' := by
  have hquote (s : String) (rest : List Char) :
      read ((quote s).toList ++ rest) = some (.text s, rest) :=
    (spells_quote s).read (apart_quote s rest)
  refine ⟨hquote s rest, readBack_list items, fun hkind =>
    ⟨readBack_error hkind message details, word?_ofWord kind⟩, fun s' h => ?_,
    fun items' t ht ht' => ?_, fun kind' message' details' t hkind hkind' ht ht' => ?_⟩
  · have hread := hquote s []
    rw [h, hquote s' []] at hread
    cases hread
    rfl
  · have hsame := (readBack_list items).unique (readBack_list items') ht ht'
    exact datum_injective (Datum.list.inj hsame)
  · have hsame := (readBack_error hkind message details).unique
      (readBack_error hkind' message' details') ht ht'
    obtain ⟨-, hlist⟩ := Datum.dotted.inj hsame
    obtain ⟨hword, htail⟩ := List.cons.inj (Datum.list.inj hlist)
    obtain ⟨hmessage, hdetails⟩ := List.cons.inj htail
    have hkinds := congrArg Datum.word? hword
    rw [word?_ofWord, word?_ofWord] at hkinds
    exact ⟨Option.some.inj hkinds, Datum.text.inj hmessage, datum_injective hdetails⟩

/-- A dot as the kind, a message that ends in a backslash, and a string with parentheses and quotes. -/
theorem values_read_back_dot :
    IsWord "." ∧
      read (error "." "a\\" [.text "\") (", .number (-70)]).toList =
        some (.dotted [.symbol "error"]
          (.list [.symbol ".", .text "a\\", .text "\") (", .number (-70)]), []) := by
  have hword : IsWord "." := by decide
  have htext : error? "." "a\\" [.text "\") (", .number (-70)] =
      some (error "." "a\\" [.text "\") (", .number (-70)]) := by decide +kernel
  have hback := values_read_back "" [] [] [.text "\") (", .number (-70)] "." "a\\"
  have hread := (hback.2.2.1 hword).1.reads _ htext []
  rw [List.append_nil, ofWord_symbol (c := '.') (by simp) (by decide)] at hread
  exact ⟨hword, hread⟩

end Response

/-- A session that has no results answers with the error, if that can be written. -/
theorem Session.refuseCompletion_eq {σ : Type} (file : String) (line column : Int)
    (s : Session σ) :
    refuseCompletion file line column s =
      match Response.error? "complete-error" "failed to perform code completion"
        [.text file, .number line, .number column] with
      | some payload => writeError payload s
      | none => (.error .tooManyDigits, s) := by
  unfold refuseCompletion isWritable Response.error? Response.written?
  simp only [List.all_cons, List.all_nil, Response.Atom.isWritable, Bool.true_and, Bool.and_true]
  split <;> rfl

namespace Response

/-- There is no error for a place that cannot be written, and a session stops there. -/
theorem place_unwritten :
    let column := Int.ofNat (Nat.pow 10 Text.maxDigits)
    IsWord "complete-error" ∧
      error? "complete-error" "failed to perform code completion"
        [.text "a.c", .number 1, .number column] = none ∧
      ∀ s : Session Unit, Session.refuseCompletion "a.c" 1 column s = (.error .tooManyDigits, s) := by
  intro column
  have hnone : error? "complete-error" "failed to perform code completion"
      [.text "a.c", .number 1, .number column] = none := by decide +kernel
  refine ⟨by decide, hnone, fun s => ?_⟩
  rw [Session.refuseCompletion_eq, hnone]

end Response

end CodeSense
