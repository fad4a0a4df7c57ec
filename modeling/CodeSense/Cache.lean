import CodeSense.Engine
import CodeSense.Keyed

/-!
# Unit records

All records of parsed units ever made, with their reference counts, and which of them is
kept for which file.
-/

namespace CodeSense

structure UnitRecord where
  file : String
  flags : List String
  handle : Handle
  refCount : Int := 1
  released : Bool := false
  deriving DecidableEq, Repr

/-- Flags are the same when they agree word by word, in order. -/
def sameFlags (a b : List String) : Bool := a == b

structure Stats where
  hits : Nat := 0
  misses : Nat := 0
  evictions : Nat := 0
  retries : Nat := 0
  deriving DecidableEq, Repr

/-- A record's number, in the order in which records were made. -/
abbrev UnitRef := Nat

structure Cache where
  records : List UnitRecord := []
  kept : Keyed String UnitRef := []
  stats : Stats := {}
  closed : Bool := false
  deriving DecidableEq, Repr

namespace Cache

def get? (c : Cache) (u : UnitRef) : Option UnitRecord := c.records[u]?

def has (c : Cache) (file : String) : Bool := c.kept.has file

def size (c : Cache) : Nat := c.kept.length

def units (c : Cache) : List UnitRecord := c.kept.filterMap fun p => c.get? p.2

def update (c : Cache) (u : UnitRef) (f : UnitRecord → UnitRecord) : Cache :=
  { c with records := c.records.modify u f }

def retain (c : Cache) (u : UnitRef) (amount : Int) : Cache :=
  c.update u fun r => { r with refCount := r.refCount + amount }

def dropReferences (c : Cache) (u : UnitRef) : Cache := c.update u ({ · with refCount := 0 })

def markReleased (c : Cache) (u : UnitRef) : Cache := c.update u ({ · with released := true })

def insert (c : Cache) (record : UnitRecord) : Cache :=
  { c with
    records := c.records ++ [record]
    kept := c.kept.put record.file c.records.length }

def forget (c : Cache) (file : String) : Cache := { c with kept := c.kept.erase file }

def countHit (c : Cache) : Cache := { c with stats.hits := c.stats.hits + 1 }

def countMiss (c : Cache) : Cache := { c with stats.misses := c.stats.misses + 1 }

def countEviction (c : Cache) : Cache := { c with stats.evictions := c.stats.evictions + 1 }

def countRetry (c : Cache) : Cache := { c with stats.retries := c.stats.retries + 1 }

end Cache

end CodeSense
