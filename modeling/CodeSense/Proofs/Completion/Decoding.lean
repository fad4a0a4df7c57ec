import CodeSense.Completion.Candidate

/-!
# What decoding makes of a completion

Every chunk has its wording, and the kinds that a text omits are left out of it
(`wordingWithout`). Decoding goes through the chunks once. The first typed text splits them
(`Splits`), and all texts of a candidate and all its offsets follow from the split
(`decode_laidOut`).
-/

namespace CodeSense

/-! ## Fields in a text -/

namespace Text

/-- The characters from `start` up to `stop`, without the one at `stop`. -/
def cut (text : String) (start stop : Int) : String :=
  String.ofList (text.toList.extract start.toNat stop.toNat)

theorem cut_all (text : String) : cut text 0 text.length = text := by
  simp [cut, ← String.length_toList]

theorem cut_append_of_le {text : String} {stop : Int} (h : stop ≤ text.length) (more : String)
    (start : Int) : cut (text ++ more) start stop = cut text start stop := by
  have hstop : stop.toNat ≤ text.toList.length := by
    rw [String.length_toList]
    omega
  unfold cut
  rw [String.toList_append, List.extract_eq_take_drop, List.extract_eq_take_drop, ← List.drop_take,
    ← List.drop_take, List.take_append_of_le_length hstop]

theorem cut_append_left (text more : String) : cut (text ++ more) 0 text.length = text := by
  rw [cut_append_of_le (by omega), cut_all]

theorem cut_append_right (text more : String) :
    cut (text ++ more) text.length (text ++ more).length = more := by
  have hlength : (text ++ more).length - text.length = more.toList.length := by
    rw [String.length_append, String.length_toList, Nat.add_sub_cancel_left]
  unfold cut
  rw [Int.toNat_natCast, Int.toNat_natCast, List.extract_eq_take_drop, hlength, String.toList_append,
    ← String.length_toList, List.drop_left, List.take_length, String.ofList_toList]

/-- The spans mark the fields in the text: two numbers for each field, where it begins and where it
ends, in the order of the text. -/
structure Marks (text : String) (spans : List Int) (fields : List String) : Prop where
  length : spans.length = 2 * fields.length
  ordered : spans.Pairwise (· ≤ ·)
  bounded : ∀ n ∈ spans, 0 ≤ n ∧ n ≤ text.length
  cut : ∀ k field, fields[k]? = some field → ∃ start stop,
    spans[2 * k]? = some start ∧ spans[2 * k + 1]? = some stop ∧ cut text start stop = field

variable {text : String} {spans : List Int} {fields : List String}

theorem marks_nil (text : String) : Marks text [] [] :=
  ⟨rfl, .nil, by simp, by simp⟩

theorem Marks.grow (h : Marks text spans fields) (more : String) :
    Marks (text ++ more) spans fields := by
  refine ⟨h.length, h.ordered, fun n hn => ?_, fun k field hfield => ?_⟩
  · have hn := h.bounded n hn
    rw [String.length_append]
    omega
  · obtain ⟨start, stop, hstart, hstop, hcut⟩ := h.cut k field hfield
    refine ⟨start, stop, hstart, hstop, ?_⟩
    rw [cut_append_of_le (h.bounded stop (List.mem_of_getElem? hstop)).2, hcut]

theorem Marks.snoc (h : Marks text spans fields) (field : String) :
    Marks (text ++ field) (spans ++ [(text.length : Int), ((text ++ field).length : Int)])
      (fields ++ [field]) := by
  have hgrown := h.grow field
  refine ⟨?_, ?_, fun n hn => ?_, fun k f hf => ?_⟩
  · simp only [List.length_append, List.length_cons, List.length_nil, h.length]
    omega
  · rw [List.pairwise_append]
    refine ⟨h.ordered, List.pairwise_pair.mpr ?_, fun n hn m hm => ?_⟩
    · rw [String.length_append]
      omega
    · have hle := (h.bounded n hn).2
      simp only [List.mem_cons, List.not_mem_nil, or_false, String.length_append] at hm
      omega
  · rcases List.mem_append.mp hn with hn | hn
    · exact hgrown.bounded n hn
    · simp only [List.mem_cons, List.not_mem_nil, or_false, String.length_append] at hn ⊢
      omega
  · rcases Nat.lt_or_ge k fields.length with hk | hk
    · rw [List.getElem?_append_left hk] at hf
      obtain ⟨start, stop, hstart, hstop, hcut⟩ := hgrown.cut k f hf
      have hlength := h.length
      refine ⟨start, stop, ?_, ?_, hcut⟩
      · rw [List.getElem?_append_left (by omega), hstart]
      · rw [List.getElem?_append_left (by omega), hstop]
    · -- the new field is the last one
      obtain ⟨rfl, rfl⟩ : k = fields.length ∧ field = f := by
        rw [List.getElem?_append_right hk, List.getElem?_singleton] at hf
        split at hf
        · exact ⟨by omega, Option.some.inj hf⟩
        · cases hf
      refine ⟨_, _, ?_, ?_, cut_append_right text field⟩
      · rw [← h.length, List.getElem?_append_right (by omega), Nat.sub_self]
        rfl
      · rw [← h.length, List.getElem?_append_right (by omega), Nat.add_sub_cancel_left]
        rfl

end Text

/-! ## Wording -/

def Chunk.wording (c : Chunk) : String := c.kind.literal?.getD c.text

def wordingWithout (omitted : List ChunkKind) (chunks : List Chunk) : String :=
  String.join ((chunks.filter (·.kind ∉ omitted)).map Chunk.wording)

variable {omitted : List ChunkKind}

@[simp] theorem wordingWithout_nil : wordingWithout omitted [] = "" := rfl

theorem wordingWithout_append (a b : List Chunk) :
    wordingWithout omitted (a ++ b) = wordingWithout omitted a ++ wordingWithout omitted b := by
  simp [wordingWithout, String.join_append]

theorem wordingWithout_singleton (c : Chunk) :
    wordingWithout omitted [c] = if c.kind ∈ omitted then "" else c.wording := by
  by_cases h : c.kind ∈ omitted <;> simp [wordingWithout, h, String.join_cons]

theorem wordingWithout_cons (c : Chunk) (chunks : List Chunk) :
    wordingWithout omitted (c :: chunks) =
      (if c.kind ∈ omitted then "" else c.wording) ++ wordingWithout omitted chunks := by
  rw [← wordingWithout_singleton, ← wordingWithout_append, List.singleton_append]

theorem Chunk.shown_eq (c : Chunk) :
    c.shown = if c.kind ∈ [.optional, .resultType] then "" else c.wording := by
  rcases c with ⟨kind, text⟩
  cases kind <;> rfl

theorem Chunk.inserted_eq (c : Chunk) :
    c.inserted = if c.kind ∈ [.informative, .optional, .resultType] then "" else c.wording := by
  rcases c with ⟨kind, text⟩
  cases kind <;> rfl

theorem Chunk.inserted_of_isPlaceholder {c : Chunk} (h : c.kind.isPlaceholder = true) :
    c.inserted = c.text := by
  rcases c with ⟨kind, text⟩
  cases kind <;> first | rfl | cases h

/-- The texts of the chunks that the user is meant to fill in. -/
def fieldTexts (chunks : List Chunk) : List String :=
  (chunks.filter (·.kind ∈ [.placeholder, .currentParameter])).map (·.text)

theorem fieldTexts_cons (c : Chunk) (chunks : List Chunk) :
    fieldTexts (c :: chunks) =
      (if c.kind.isPlaceholder then [c.text] else []) ++ fieldTexts chunks := by
  rcases c with ⟨kind, text⟩
  cases kind <;> rfl

/-! ## Drafts -/

namespace Draft

variable {d : Draft} {t : String}

theorem display_eq (d : Draft) (c : Chunk) :
    d.display c = { d with
      resultType := if c.kind = .resultType then c.text else d.resultType
      prototype := d.prototype ++ c.shown } := by
  unfold display
  by_cases h : c.kind = .resultType
  · simp [h, Chunk.shown_eq]
  · simp [h]

theorem append_eq (d : Draft) (c : Chunk) :
    d.append c = { d with
      post := d.post ++ c.inserted
      spans := d.spans ++
        if c.kind.isPlaceholder then [d.post.length, (d.post ++ c.inserted).length] else [] } := by
  unfold append
  by_cases h : c.kind.isPlaceholder = true <;> simp [h]

theorem add_open (h : d.typedText = none) (c : Chunk) :
    d.add c = { d.display c with
      typedText := if c.kind = .typedText then some c.text else none
      annotationStart :=
        if c.kind = .typedText then (d.prototype ++ c.shown).length else d.annotationStart } := by
  unfold add
  rw [display_eq]
  simp only [h]
  split <;> simp

theorem add_latched (h : d.typedText = some t) (c : Chunk) : d.add c = (d.display c).append c := by
  unfold add
  rw [display_eq]
  simp only [h]

theorem add_typedText (d : Draft) (c : Chunk) :
    (d.add c).typedText = d.typedText.or (if c.kind = .typedText then some c.text else none) := by
  cases h : d.typedText with
  | none => rw [add_open h, Option.none_or]
  | some t => rw [add_latched h, append_eq, display_eq, Option.some_or, h]

theorem add_prototype (d : Draft) (c : Chunk) : (d.add c).prototype = d.prototype ++ c.shown := by
  cases h : d.typedText with
  | none => rw [add_open h, display_eq]
  | some t => rw [add_latched h, append_eq, display_eq]

theorem add_resultType (d : Draft) (c : Chunk) :
    (d.add c).resultType = if c.kind = .resultType then c.text else d.resultType := by
  cases h : d.typedText with
  | none => rw [add_open h, display_eq]
  | some t => rw [add_latched h, append_eq, display_eq]

/-! ## All chunks -/

theorem foldl_typedText (d : Draft) (chunks : List Chunk) :
    (chunks.foldl add d).typedText =
      d.typedText.or ((chunks.find? (·.kind = .typedText)).map (·.text)) := by
  induction chunks generalizing d with
  | nil => simp
  | cons c chunks ih =>
    rw [List.foldl_cons, ih, add_typedText, Option.or_assoc, List.find?_cons]
    by_cases h : c.kind = .typedText <;> simp [h]

theorem foldl_prototype (d : Draft) (chunks : List Chunk) :
    (chunks.foldl add d).prototype =
      d.prototype ++ wordingWithout [.optional, .resultType] chunks := by
  induction chunks generalizing d with
  | nil => simp
  | cons c chunks ih =>
    rw [List.foldl_cons, ih, add_prototype, wordingWithout_cons, ← Chunk.shown_eq,
      String.append_assoc]

theorem foldl_resultType (d : Draft) (chunks : List Chunk) :
    (chunks.foldl add d).resultType =
      ((chunks.filter (·.kind = .resultType)).getLast?.map (·.text)).getD d.resultType := by
  induction chunks generalizing d with
  | nil => rfl
  | cons c chunks ih =>
    rw [List.foldl_cons, ih, add_resultType, List.filter_cons]
    by_cases h : c.kind = .resultType
    · simp only [h, decide_true, ite_true, List.getLast?_cons]
      cases (chunks.filter (·.kind = .resultType)).getLast? <;> simp
    · simp [h]

/-- Chunks before the first typed text insert nothing. -/
theorem foldl_open (h : d.typedText = none) {chunks : List Chunk}
    (hchunks : ∀ c ∈ chunks, c.kind ≠ .typedText) :
    (chunks.foldl add d).post = d.post ∧ (chunks.foldl add d).spans = d.spans := by
  induction chunks generalizing d with
  | nil => exact ⟨rfl, rfl⟩
  | cons c chunks ih =>
    obtain ⟨hc, hrest⟩ := List.forall_mem_cons.mp hchunks
    have hadd := add_open h c
    rw [display_eq] at hadd
    have hopen : (d.add c).typedText = none := by rw [add_typedText, h, if_neg hc, Option.none_or]
    obtain ⟨hpost, hspans⟩ := ih hopen hrest
    rw [List.foldl_cons, hpost, hspans, hadd]
    exact ⟨rfl, rfl⟩

/-- The spans go on marking the fields while the text grows. -/
theorem add_marks (h : d.typedText = some t) {fields : List String}
    (hm : Text.Marks d.post (d.spans.map Int.ofNat) fields) (c : Chunk) :
    Text.Marks (d.add c).post ((d.add c).spans.map Int.ofNat)
      (fields ++ if c.kind.isPlaceholder then [c.text] else []) := by
  rw [add_latched h, append_eq, display_eq]
  by_cases hc : c.kind.isPlaceholder = true
  · rw [Chunk.inserted_of_isPlaceholder hc]
    simpa [hc] using hm.snoc c.text
  · simpa [hc] using hm.grow c.inserted

theorem foldl_latched (h : d.typedText = some t) {fields : List String}
    (hm : Text.Marks d.post (d.spans.map Int.ofNat) fields) (chunks : List Chunk) :
    let d' := chunks.foldl add d
    d'.annotationStart = d.annotationStart ∧
      d'.post = d.post ++ wordingWithout [.informative, .optional, .resultType] chunks ∧
      Text.Marks d'.post (d'.spans.map Int.ofNat) (fields ++ fieldTexts chunks) := by
  induction chunks generalizing d fields with
  | nil => simpa [fieldTexts] using hm
  | cons c chunks ih =>
    have hlatched : (d.add c).typedText = some t := by rw [add_typedText, h, Option.some_or]
    obtain ⟨hstart, hpost, hmarks⟩ := ih hlatched (add_marks h hm c)
    have hadd : d.add c = (d.display c).append c := add_latched h c
    rw [append_eq, display_eq] at hadd
    rw [List.foldl_cons, fieldTexts_cons, wordingWithout_cons, ← Chunk.inserted_eq,
      ← List.append_assoc, ← String.append_assoc]
    refine ⟨?_, ?_, hmarks⟩
    · rw [hstart, hadd]
    · rw [hpost, hadd]

end Draft

/-! ## Candidates -/

structure Completion.Splits (r : Completion) (before : List Chunk) (first : Chunk)
    (after : List Chunk) : Prop where
  chunks : r.chunks = before ++ first :: after
  typed : first.kind = .typedText
  untyped : ∀ c ∈ before, c.kind ≠ .typedText

structure Candidate.LaidOut (c : Candidate) (before : List Chunk) (first : Chunk)
    (after : List Chunk) : Prop where
  typedText : c.typedText = first.text
  resultType : c.resultType =
    (((before ++ first :: after).filter (·.kind = .resultType)).getLast?.map (·.text)).getD ""
  prototype : c.prototype = wordingWithout [.optional, .resultType] (before ++ [first]) ++
    wordingWithout [.optional, .resultType] after
  annotationStart : c.annotationStart =
    (wordingWithout [.optional, .resultType] (before ++ [first])).length
  post : c.postCompletionText = wordingWithout [.informative, .optional, .resultType] after
  spans : Text.Marks c.postCompletionText c.placeholderSpans (fieldTexts after)

namespace Completion

variable {r : Completion} {c : Candidate}

theorem decode_eq_none_iff :
    r.decode = none ↔ r.availability = .notAvailable ∨ ∀ c ∈ r.chunks, c.kind ≠ .typedText := by
  unfold decode
  by_cases h : r.availability = .notAvailable
  · simp [h]
  · simp [h, Draft.foldl_typedText]

theorem exists_splits (h : r.decode = some c) : ∃ before first after, r.Splits before first after := by
  cases hfirst : r.chunks.find? (·.kind = .typedText) with
  | none =>
    have hnone : r.decode = none := decode_eq_none_iff.mpr (.inr (by simpa using hfirst))
    rw [hnone] at h
    cases h
  | some first =>
    obtain ⟨htyped, before, after, hchunks, hbefore⟩ := List.find?_eq_some_iff_append.mp hfirst
    exact ⟨before, first, after, hchunks, by simpa using htyped, by simpa using hbefore⟩

theorem Splits.draft {before after : List Chunk} {first : Chunk} (h : r.Splits before first after) :
    let d := r.chunks.foldl Draft.add {}
    d.typedText = some first.text ∧
      d.annotationStart = (wordingWithout [.optional, .resultType] (before ++ [first])).length ∧
      d.post = wordingWithout [.informative, .optional, .resultType] after ∧
      Text.Marks d.post (d.spans.map Int.ofNat) (fieldTexts after) := by
  let d₀ := before.foldl Draft.add {}
  have hopen : d₀.typedText = none := by
    rw [Draft.foldl_typedText, List.find?_eq_none.mpr (by simpa using h.untyped)]
    rfl
  obtain ⟨hpost₀, hspans₀⟩ := Draft.foldl_open (d := {}) rfl h.untyped
  -- the typed text is shown before the annotation starts, and not inserted
  have hprototype : d₀.prototype ++ first.shown =
      wordingWithout [.optional, .resultType] (before ++ [first]) := by
    rw [Draft.foldl_prototype, String.empty_append, wordingWithout_append, wordingWithout_singleton,
      ← Chunk.shown_eq]
  have hadd := Draft.add_open hopen first
  rw [Draft.display_eq, hprototype, if_pos h.typed, if_pos h.typed, hpost₀, hspans₀] at hadd
  have hlatched : (d₀.add first).typedText = some first.text := by rw [hadd]
  have hmarks : Text.Marks (d₀.add first).post ((d₀.add first).spans.map Int.ofNat) [] := by
    rw [hadd]
    exact Text.marks_nil _
  obtain ⟨hstart, hpost, hmarks⟩ := Draft.foldl_latched hlatched hmarks after
  rw [h.chunks, List.foldl_append, List.foldl_cons]
  refine ⟨?_, ?_, ?_, hmarks⟩
  · rw [Draft.foldl_typedText, hlatched, Option.some_or]
  · rw [hstart, hadd]
  · rw [hpost, hadd, String.empty_append]

theorem decode_laidOut (h : r.decode = some c) :
    ∃ before first after, r.Splits before first after ∧ c.LaidOut before first after := by
  obtain ⟨before, first, after, hsplits⟩ := exists_splits h
  refine ⟨before, first, after, hsplits, ?_⟩
  obtain ⟨htyped, hstart, hpost, hmarks⟩ := hsplits.draft
  have hprototype := Draft.foldl_prototype {} r.chunks
  have hresult := Draft.foldl_resultType {} r.chunks
  unfold decode at h
  split at h
  · cases h
  · dsimp only at h
    rw [htyped] at h
    cases h
    refine ⟨rfl, ?_, ?_, ?_, hpost, hmarks⟩
    · rw [← hsplits.chunks]
      exact hresult
    · rw [← wordingWithout_append, List.append_assoc, List.singleton_append, ← hsplits.chunks]
      exact hprototype.trans (String.empty_append ..)
    · exact congrArg Int.ofNat hstart

/-- **Placeholders are marked.** The text after the typed text is what the chunks there say, but for
informative and optional ones and result types, and the spans of a candidate mark the placeholders
in it, each with its whole text and nothing else. -/
theorem placeholders_marked (h : r.decode = some c) :
    ∃ before first after, r.Splits before first after ∧
      c.postCompletionText = wordingWithout [.informative, .optional, .resultType] after ∧
      Text.Marks c.postCompletionText c.placeholderSpans (fieldTexts after) := by
  obtain ⟨before, first, after, hsplits, hlaid⟩ := decode_laidOut h
  exact ⟨before, first, after, hsplits, hlaid.post, hlaid.spans⟩

/-- A placeholder before the typed text, an empty one, one after a chunk that is not inserted, and a
second typed text. -/
theorem placeholders_marked_empty :
    let r : Completion := { priority := 1, chunks := [⟨.placeholder, "p"⟩, ⟨.typedText, "f"⟩,
      ⟨.leftParen, "x"⟩, ⟨.placeholder, ""⟩, ⟨.comma, ""⟩, ⟨.informative, "in"⟩,
      ⟨.currentParameter, "é y"⟩, ⟨.typedText, "g"⟩, ⟨.optional, "o"⟩, ⟨.rightParen, ""⟩] }
    let c : Candidate := {
      typedText := "f", priority := 1, prototype := "pf(, iné yg)", annotationStart := 2
      postCompletionText := "(, é yg)", placeholderSpans := [1, 1, 3, 6] }
    r.decode = some c ∧ ∃ before first after, r.Splits before first after ∧
      c.postCompletionText = wordingWithout [.informative, .optional, .resultType] after ∧
      Text.Marks c.postCompletionText c.placeholderSpans (fieldTexts after) := by
  intro r c
  have hdecode : r.decode = some c := by decide +kernel
  exact ⟨hdecode, placeholders_marked hdecode⟩

/-! ## Prototypes -/

end Completion

theorem wordingWithout_filter (kind : ChunkKind) (omitted : List ChunkKind) (chunks : List Chunk) :
    wordingWithout omitted (chunks.filter (·.kind ≠ kind)) =
      wordingWithout (kind :: omitted) chunks := by
  have hkept : (chunks.filter (·.kind ≠ kind)).filter (·.kind ∉ omitted) =
      chunks.filter (·.kind ∉ kind :: omitted) := by
    rw [List.filter_filter]
    refine List.filter_congr fun c _ => ?_
    by_cases h : c.kind = kind <;> simp [h]
  unfold wordingWithout
  rw [hkept]

structure Candidate.Consistent (c : Candidate) (before : List Chunk) (first : Chunk)
    (after : List Chunk) : Prop where
  typedText : c.typedText = first.text
  /-- Of several result types the last one counts. -/
  resultType : c.resultType =
    (((before ++ first :: after).filter (·.kind = .resultType)).getLast?.map (·.text)).getD ""
  prototype : c.prototype = wordingWithout [.optional, .resultType] (before ++ first :: after)
  bounded : 0 ≤ c.annotationStart ∧ c.annotationStart ≤ c.prototype.length
  head : Text.cut c.prototype 0 c.annotationStart =
    wordingWithout [.optional, .resultType] (before ++ [first])
  typedEnd : c.typedText.toList <:+ (Text.cut c.prototype 0 c.annotationStart).toList
  annotation : Text.cut c.prototype c.annotationStart c.prototype.length =
    wordingWithout [.optional, .resultType] after
  /-- The annotation without what only informs. -/
  post : c.postCompletionText =
    wordingWithout [.optional, .resultType] (after.filter (·.kind ≠ .informative))
  same : (∀ d ∈ after, d.kind ≠ .informative) →
    Text.cut c.prototype c.annotationStart c.prototype.length = c.postCompletionText

theorem Candidate.LaidOut.consistent {c : Candidate} {before after : List Chunk} {first : Chunk}
    (h : c.LaidOut before first after) (htyped : first.kind = .typedText) :
    c.Consistent before first after := by
  have hhead : Text.cut c.prototype 0 c.annotationStart =
      wordingWithout [.optional, .resultType] (before ++ [first]) := by
    rw [h.prototype, h.annotationStart, Text.cut_append_left]
  have htail : Text.cut c.prototype c.annotationStart c.prototype.length =
      wordingWithout [.optional, .resultType] after := by
    rw [h.annotationStart, h.prototype, Text.cut_append_right]
  have hpost : c.postCompletionText =
      wordingWithout [.optional, .resultType] (after.filter (·.kind ≠ .informative)) := by
    rw [h.post, wordingWithout_filter]
  refine ⟨h.typedText, h.resultType, ?_, ?_, hhead, ?_, htail, hpost, fun hafter => ?_⟩
  · rw [h.prototype, ← wordingWithout_append, List.append_assoc, List.singleton_append]
  · rw [h.annotationStart, h.prototype, String.length_append]
    omega
  · have hfirst : wordingWithout [.optional, .resultType] [first] = first.text := by
      simp [wordingWithout_singleton, htyped, Chunk.wording, ChunkKind.literal?]
    rw [hhead, wordingWithout_append, hfirst, h.typedText, String.toList_append]
    exact List.suffix_append _ _
  · rw [htail, hpost, List.filter_eq_self.mpr (by simpa using hafter)]

namespace Completion

/-- **Candidates are consistent.** A completion is no candidate exactly if it is not available or
has no typed text, and a candidate's texts agree with the chunks of its completion and with each
other. -/
theorem decode_consistent (r : Completion) :
    (r.decode = none ↔
      r.availability = .notAvailable ∨ ∀ c ∈ r.chunks, c.kind ≠ .typedText) ∧
    ∀ c, r.decode = some c → ∃ before first after, r.Splits before first after ∧
      c.Consistent before first after := by
  refine ⟨decode_eq_none_iff, fun c h => ?_⟩
  obtain ⟨before, first, after, hsplits, hlaid⟩ := decode_laidOut h
  exact ⟨before, first, after, hsplits, hlaid.consistent hsplits.typed⟩

/-- Two result types, two typed texts, and a text that only informs between them. -/
theorem decode_consistent_informed :
    let r : Completion := { priority := 1, availability := .deprecated, chunks := [
      ⟨.resultType, "int"⟩, ⟨.text, "::"⟩, ⟨.typedText, "f"⟩, ⟨.informative, " const"⟩,
      ⟨.typedText, "g"⟩, ⟨.resultType, "bool"⟩, ⟨.semiColon, "."⟩] }
    let c : Candidate := {
      typedText := "f", priority := 1, resultType := "bool", prototype := "::f constg;"
      annotationStart := 3, postCompletionText := "g;", availability := .deprecated }
    r.decode = some c ∧ ∃ before first after, r.Splits before first after ∧
      c.Consistent before first after := by
  intro r c
  have hdecode : r.decode = some c := by decide +kernel
  exact ⟨hdecode, (decode_consistent r).2 c hdecode⟩

end Completion

end CodeSense
