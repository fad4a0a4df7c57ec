import CodeSense.Act
import CodeSense.Cache
import CodeSense.Settings

/-!
# The unit pool

One parsed unit per file is kept for reuse, as long as the compiler arguments stay the
same. Units are counted: the pool itself holds one reference, every request that succeeds
hands out another, and each is given back by `release`.
-/

namespace CodeSense

structure Pool (σ : Type) where
  engine : σ
  journal : Journal := {}
  cache : Cache := {}

namespace Pool

variable {σ : Type}

def log (origin : Origin) (level : Level) (message : String) : Act (Pool σ) Unit :=
  .modify fun p => { p with journal := p.journal.record ⟨level, origin, message⟩ }

/-- Logs an entry with these numbers in it. If one of them cannot be written, that may be the
fault `e`. -/
def logNumbers (origin : Origin) (level : Level) (numbers : List Int) (message : String)
    (e : Fault) : Act (Pool σ) Unit := do
  if numbers.all Text.isWritable then log origin level message
  else do
    let journal ← .gets (·.journal)
    .when (journal.refuses level) (.fail e)

def modifyCache (f : Cache → Cache) : Act (Pool σ) Unit :=
  .modify fun p => { p with cache := f p.cache }

def get? (u : UnitRef) : Act (Pool σ) (Option UnitRecord) := .gets (·.cache.get? u)

/-- Calls the engine. What it has to say for the log is logged also when it fails. -/
def call (E : Engine σ) (r : Request) : Act (Pool σ) r.Answer := fun p =>
  let (reply, engine) := E.call r p.engine
  (reply.result, { p with engine, journal := reply.notes.foldl Journal.record p.journal })

/-! ## References -/

def retain (u : UnitRef) (amount : Int) : Act (Pool σ) Unit := modifyCache (·.retain u amount)

def discard (E : Engine σ) (u : UnitRef) : Act (Pool σ) Unit := do
  match ← get? u with
  | none => return
  | some record =>
    if record.released then return
    else do
      modifyCache (·.markReleased u)
      call E (.disposeUnit record.handle)

/-- Gives back one reference, and with the last one the unit. -/
def release (E : Engine σ) (u : UnitRef) : Act (Pool σ) Unit := do
  retain u (-1)
  match ← get? u with
  | none => return
  | some record =>
    if record.refCount < 0 then .fail (.overReleased record.file record.refCount)
    else if record.refCount = 0 then discard E u
    else return

/-! ## Keeping -/

def add (file : String) (flags : List String) (handle : Handle) : Act (Pool σ) UnitRef := do
  let cache ← .gets (·.cache)
  if cache.has file then .fail (.alreadyCached file)
  else do
    modifyCache (·.insert { file, flags, handle })
    return cache.records.length

def drop (E : Engine σ) (file : String) : Act (Pool σ) Unit := do
  match ← .gets (·.cache.kept.get? file) with
  | none => return
  | some u => do
    modifyCache (·.forget file)
    release E u

def evict (E : Engine σ) (file : String) (u : UnitRef) : Act (Pool σ) Unit := do
  log .units .debug ("tu_cache: flags changed for " ++ file ++ ", evicting")
  modifyCache (·.forget file)
  modifyCache (·.countEviction)
  release E u

/-- The kept unit of a file. One with other flags is evicted. -/
def find (E : Engine σ) (file : String) (flags : List String) : Act (Pool σ) (Option UnitRef) := do
  let cache ← .gets (·.cache)
  match cache.kept.get? file with
  | none => return none
  | some u =>
    if (cache.get? u).any (sameFlags ·.flags flags) then return some u
    else do
      evict E file u
      return none

/-! ## Parsing -/

/-- Up to `left` more attempts, the next being number `k`. Only a crash without a unit is
worth another one. -/
def attemptParse (E : Engine σ) (settings : Settings) (file : String) (flags : List String)
    (overlays : List Overlay) : (left k : Nat) → Act (Pool σ) (Int × Option Handle)
  | 0, _ => return (ErrorCode.success, none)
  | left + 1, k => do
    let (code, handle) ← call E (.parse file flags overlays UnitOption.standard)
    if handle.isSome ∨ code ≠ ErrorCode.crashed then return (code, handle)
    else do
      -- no attempt has a longer number than there are attempts
      logNumbers .units .info [settings.parseAttempts] ("Engine crashed parsing " ++ file ++
        " (attempt " ++ toString k ++ "/" ++ toString settings.parseAttempts ++ ")")
        (.unreported { file, code })
      if left = 0 then return (code, none)
      else do
        modifyCache (·.countRetry)
        call E (.pause settings.retryDelay)
        attemptParse E settings file flags overlays left (k + 1)

def parseWithRetry (E : Engine σ) (settings : Settings) (file : String) (flags : List String)
    (overlays : List Overlay) : Act (Pool σ) Handle := do
  match ← attemptParse E settings file flags overlays settings.parseAttempts.toNat 1 with
  | (_, some handle) => return handle
  | (code, none) => do
    logNumbers .units .info [code] ("Parse failed: " ++ toString code) (.unreported { file, code })
    .fail (.ofFailure { file, code })

def findOrParse (E : Engine σ) (settings : Settings) (file : String) (flags : List String)
    (overlays : List Overlay) : Act (Pool σ) UnitRef := do
  match ← find E file flags with
  | some u => do
    modifyCache (·.countHit)
    return u
  | none => do
    modifyCache (·.countMiss)
    let handle ← parseWithRetry E settings file flags overlays
    add file flags handle

/-- Brings a unit up to date with the overlays. One for which that fails is not kept. -/
def refresh (E : Engine σ) (file : String) (overlays : List Overlay) (u : UnitRef) :
    Act (Pool σ) Unit := do
  match ← get? u with
  | none => return
  | some record => do
    let code ← call E (.reparse record.handle overlays)
    if code = ErrorCode.success then return
    else do
      logNumbers .units .info [code] ("ReParse failed, err " ++ toString code) .tooManyDigits
      drop E file
      .fail (.ofFailure { file, code, reason := "reparse" })

/-- A reference to a file's unit, up to date with the overlays. -/
def parse (E : Engine σ) (settings : Settings) (file : String) (flags : List String)
    (overlays : List Overlay) : Act (Pool σ) UnitRef := do
  let u ← findOrParse E settings file (settings.compilerArguments flags) overlays
  refresh E file overlays u
  retain u 1
  return u

/-- Like `parse`, but a kept unit is handed out as it is. -/
def obtain (E : Engine σ) (settings : Settings) (file : String) (flags : List String)
    (overlays : List Overlay) : Act (Pool σ) UnitRef := do
  match ← find E file (settings.compilerArguments flags) with
  | some u => do
    modifyCache (·.countHit)
    retain u 1
    return u
  | none => parse E settings file flags overlays

/-! ## Teardown -/

def discardAll (E : Engine σ) : List UnitRef → Act (Pool σ) Unit
  | [] => return
  | u :: rest => do
    modifyCache (·.dropReferences u)
    discard E u
    discardAll E rest

/-- Gives back all kept units whatever their references, and closes the engine. -/
def teardown (E : Engine σ) : Act (Pool σ) Unit := do
  let cache ← .gets (·.cache)
  if cache.closed then return
  else do
    modifyCache ({ · with closed := true })
    discardAll E (cache.kept.map (·.2))
    modifyCache ({ · with kept := [] })
    call E .close

end Pool

end CodeSense
