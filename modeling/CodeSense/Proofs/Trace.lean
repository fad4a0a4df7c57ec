import CodeSense.Completion.Candidate
import CodeSense.Engine

/-!
# Traces of engine calls

What the calls of a trace brought and what they gave back, which handles are out in between,
and properties that every call has towards the calls before it.
-/

namespace CodeSense

namespace Request

def unit? : Request → Option Handle
  | reparse unit _ | disposeUnit unit | codeComplete unit .. | diagnostics unit
  | typeAt unit .. => some unit
  | _ => none

def set? : Request → Option Handle
  | completionResults set | completionDiagnostics set | disposeCompletion set => some set
  | _ => none

def setRead? : Request → Option Handle
  | completionResults set | completionDiagnostics set => some set
  | _ => none

def unitDisposed? : Request → Option Handle
  | disposeUnit unit => some unit
  | _ => none

def setDisposed? : Request → Option Handle
  | disposeCompletion set => some set
  | _ => none

end Request

/-- Whether a candidate is to be shown for the entry that cannot be. -/
def ResultEntry.isTooLong (entry : ResultEntry) : Bool :=
  entry.completion.decode.any (·.render?.isNone)

/-- Whether an answer has a number in it that cannot be written where it is to be. -/
def Request.tooLong : (r : Request) → r.Answer → Bool
  | .parse .., (code, handle) => handle.isNone && !Text.isWritable code
  | .reparse .., code => !Text.isWritable code
  | .completionResults _, entries => entries.any (·.isTooLong)
  | .completionDiagnostics _, listing | .diagnostics _, listing =>
    listing.items.any (·.render?.isNone)
  | _, _ => false

namespace Call

def TooLong (c : Call) : Prop := ∃ a, c.reply.result = .ok a ∧ c.request.tooLong a = true

def parsed? : Call → Option (String × List String × Handle)
  | ⟨.parse file flags _ _, reply⟩ =>
    match reply.result with
    | .ok (_, handle) => handle.map (file, flags, ·)
    | .error _ => none
  | _ => none

def computed? : Call → Option (Handle × Handle)
  | ⟨.codeComplete unit _ _ _ _, reply⟩ =>
    match reply.result with
    | .ok set => set.map (unit, ·)
    | .error _ => none
  | _ => none

/-- The faults that a call met, or left for those who read its answer. -/
def faults : Call → List Fault
  | ⟨.completionResults _, reply⟩ =>
    match reply.result with
    | .ok entries => entries.filterMap (·.unreadable)
    | .error e => [e]
  | ⟨.completionDiagnostics _, reply⟩ | ⟨.diagnostics _, reply⟩ =>
    match reply.result with
    | .ok listing => listing.broken.toList
    | .error e => [e]
  | ⟨_, reply⟩ =>
    match reply.result with
    | .ok _ => []
    | .error e => [e]

def Answered (c : Call) : Prop := ∃ a, c.reply.result = .ok a

instance (c : Call) : Decidable c.Answered :=
  match h : c.reply.result with
  | .ok a => .isTrue ⟨a, h⟩
  | .error _ => .isFalse fun ⟨_, ha⟩ => by rw [h] at ha; cases ha

theorem computed?_eq_none {c : Call} (h : c.request.kind ≠ .codeComplete) :
    c.computed? = none := by
  obtain ⟨r, reply⟩ := c
  cases r <;> first | rfl | exact absurd rfl h

theorem mem_faults_of_error {c : Call} {e : Fault} (h : c.reply.result = .error e) :
    e ∈ c.faults := by
  obtain ⟨r, reply⟩ := c
  dsimp only at h
  cases r <;> simp [faults, h]

end Call

namespace Trace

def parsed (calls : List Call) : List (String × List String × Handle) :=
  calls.filterMap (·.parsed?)

def unitsMade (calls : List Call) : List Handle := (parsed calls).map (·.2.2)

def unitsDisposed (calls : List Call) : List Handle :=
  calls.filterMap (·.request.unitDisposed?)

def computed (calls : List Call) : List (Handle × Handle) := calls.filterMap (·.computed?)

def setsMade (calls : List Call) : List Handle := (computed calls).map (·.2)

def setsDisposed (calls : List Call) : List Handle := calls.filterMap (·.request.setDisposed?)

def parseCount (calls : List Call) : Nat := calls.countP (·.request.kind = .parse)

def pauseCount (calls : List Call) : Nat := calls.countP (·.request.kind = .pause)

def LiveUnit (calls : List Call) (unit : Handle) : Prop :=
  unit ∈ unitsMade calls ∧ unit ∉ unitsDisposed calls

def LiveSet (calls : List Call) (set : Handle) : Prop :=
  set ∈ setsMade calls ∧ set ∉ setsDisposed calls

def Answered (calls : List Call) : Prop := ∀ c ∈ calls, c.Answered

def Failed (calls : List Call) (e : Fault) : Prop := ∃ c ∈ calls, c.reply.result = .error e

def HasTooLong (calls : List Call) : Prop := ∃ c ∈ calls, c.TooLong

def Raised (calls : List Call) (e : Fault) : Prop := ∃ c ∈ calls, e ∈ c.faults

/-- Nobody met a fault, nor will by reading an answer. -/
def Faultless (calls : List Call) : Prop := ∀ c ∈ calls, c.faults = []

instance (calls : List Call) : Decidable (Faultless calls) :=
  inferInstanceAs (Decidable (∀ c ∈ calls, c.faults = []))

instance (calls : List Call) : Decidable (Answered calls) :=
  inferInstanceAs (Decidable (∀ c ∈ calls, c.Answered))

variable {calls more : List Call} {c : Call} {e : Fault}

@[simp] theorem parsed_append (a b : List Call) : parsed (a ++ b) = parsed a ++ parsed b :=
  List.filterMap_append

@[simp] theorem unitsMade_append (a b : List Call) :
    unitsMade (a ++ b) = unitsMade a ++ unitsMade b := by
  simp [unitsMade]

@[simp] theorem unitsDisposed_append (a b : List Call) :
    unitsDisposed (a ++ b) = unitsDisposed a ++ unitsDisposed b :=
  List.filterMap_append

@[simp] theorem computed_append (a b : List Call) :
    computed (a ++ b) = computed a ++ computed b :=
  List.filterMap_append

@[simp] theorem setsMade_append (a b : List Call) :
    setsMade (a ++ b) = setsMade a ++ setsMade b := by
  simp [setsMade]

@[simp] theorem setsDisposed_append (a b : List Call) :
    setsDisposed (a ++ b) = setsDisposed a ++ setsDisposed b :=
  List.filterMap_append

theorem parseCount_append (a b : List Call) :
    parseCount (a ++ b) = parseCount a + parseCount b :=
  List.countP_append

theorem pauseCount_append (a b : List Call) :
    pauseCount (a ++ b) = pauseCount a + pauseCount b :=
  List.countP_append

@[simp] theorem answered_append (a b : List Call) :
    Answered (a ++ b) ↔ Answered a ∧ Answered b :=
  List.forall_mem_append

theorem not_answered_of_failed (h : Failed calls e) : ¬ Answered calls := by
  intro ha
  obtain ⟨c, hc, he⟩ := h
  obtain ⟨a, hok⟩ := ha c hc
  rw [he] at hok
  cases hok

theorem Failed.raised (h : Failed calls e) : Raised calls e := by
  obtain ⟨c, hc, he⟩ := h
  exact ⟨c, hc, Call.mem_faults_of_error he⟩

theorem Faultless.not_raised (h : Faultless calls) : ¬ Raised calls e := by
  rintro ⟨c, hc, he⟩
  rw [h c hc] at he
  cases he

theorem Faultless.answered (h : Faultless calls) : Answered calls := by
  intro c hc
  rcases hreply : c.reply.result with e | a
  · exact absurd ⟨c, hc, Call.mem_faults_of_error hreply⟩ h.not_raised
  · exact ⟨a, hreply⟩

theorem failed_snoc {r : Request} {reply : Reply r.Answer} (h : reply.result = .error e) :
    Failed (calls ++ [⟨r, reply⟩]) e :=
  ⟨⟨r, reply⟩, by simp, h⟩

theorem Failed.mono (h : Failed calls e) (hsub : calls ⊆ more) : Failed more e := by
  obtain ⟨c, hc, he⟩ := h
  exact ⟨c, hsub hc, he⟩

theorem Failed.append (h : Failed calls e) : Failed (calls ++ more) e :=
  h.mono (List.subset_append_left ..)

theorem Raised.append (h : Raised calls e) : Raised (calls ++ more) e := by
  obtain ⟨c, hc, he⟩ := h
  exact ⟨c, List.mem_append_left _ hc, he⟩

/-! ## Properties of every call -/

/-- Every call has the property `P` towards the calls before it. -/
def Throughout (P : List Call → Call → Prop) (calls : List Call) : Prop :=
  ∀ before c after, calls = before ++ c :: after → P before c

theorem throughout_nil (P : List Call → Call → Prop) : Throughout P [] := by
  intro before c after h
  cases before <;> cases h

theorem Throughout.of_append {P : List Call → Call → Prop} (h : Throughout P (calls ++ more)) :
    Throughout P calls :=
  fun before d after hd => h before d (after ++ more) (by simp [hd])

theorem throughout_snoc {P : List Call → Call → Prop} :
    Throughout P (calls ++ [c]) ↔ Throughout P calls ∧ P calls c := by
  constructor
  · intro h
    exact ⟨h.of_append, h calls c [] rfl⟩
  · rintro ⟨h, hc⟩ before d after hd
    -- the call is the last one, or it stood in the trace before
    rcases List.eq_nil_or_concat after with rfl | ⟨after, d', rfl⟩
    · obtain ⟨rfl, hlast⟩ := List.append_inj' hd rfl
      cases hlast
      exact hc
    · rw [List.concat_eq_append, ← List.cons_append, ← List.append_assoc] at hd
      obtain ⟨hd, -⟩ := List.append_inj' hd rfl
      exact h before d after hd

theorem throughout_append {P : List Call → Call → Prop} (h : Throughout P calls)
    (hmore : ∀ before, ∀ c ∈ more, P before c) : Throughout P (calls ++ more) := by
  induction more generalizing calls with
  | nil => rwa [List.append_nil]
  | cons c more ih =>
    rw [List.append_cons]
    refine ih (throughout_snoc.mpr ⟨h, hmore _ c (List.mem_cons_self ..)⟩) fun before d hd => ?_
    exact hmore before d (List.mem_cons_of_mem _ hd)

def NamesLiveUnit (before : List Call) (c : Call) : Prop :=
  ∀ unit, c.request.unit? = some unit → LiveUnit before unit

def NamesLiveSet (before : List Call) (c : Call) : Prop :=
  ∀ set, c.request.set? = some set → LiveSet before set

end Trace

end CodeSense
