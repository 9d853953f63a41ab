/-
A cache of verdicts.

A verdict is stored under the name that the caller gives a schema and the fingerprint of the value.
A look-up is a hit when there is an entry that is not too old and that belongs to the value: an
entry that is too old is removed, one that belongs to another value with the same hash is left
alone. Either look-up counts as a use of the entry. Times are in milliseconds on a clock that the
caller reads.
-/
import ValueSchema.Cache.Fingerprint
import ValueSchema.Cache.Recency
import ValueSchema.Issue.Basic

set_option autoImplicit false

namespace ValueSchema

/-- What an entry is stored under. -/
structure CacheKey where
  schemaId : String
  fingerprint : Fingerprint
deriving DecidableEq, Repr

/-- A stored verdict with the value it is about. -/
structure CacheEntry where
  value : Value
  verdict : Verdict
  expiresAt : Option Nat

/-- The entry is too old. -/
def CacheEntry.isExpired (e : CacheEntry) (now : Nat) : Bool :=
  match e.expiresAt with
  | some at_ => decide (at_ ≤ now)
  | none => false

/-- A cache: its entries, the most recent one first, and its counters. -/
structure Cache where
  config : CacheConfig
  contentHash : ContentHash
  entries : List (CacheKey × CacheEntry)
  hits : Nat
  misses : Nat

namespace Cache

/-- An empty cache that hashes contents in a given way. -/
def emptyWith (contentHash : ContentHash) (config : CacheConfig) : Cache :=
  ⟨config, contentHash, [], 0, 0⟩

/-- An empty cache. -/
def empty (config : CacheConfig) : Cache := emptyWith Fingerprint.standardHash config

def size (c : Cache) : Nat := c.entries.length

/-- What a value is stored under. -/
def keyOf (c : Cache) (v : Value) (schemaId : String) : CacheKey :=
  ⟨schemaId, .ofValue c.contentHash c.config.fingerprint v⟩

def withEntries (c : Cache) (entries : List (CacheKey × CacheEntry)) : Cache :=
  { c with entries := entries }

def countHit (c : Cache) : Cache := { c with hits := c.hits + 1 }

def countMiss (c : Cache) : Cache := { c with misses := c.misses + 1 }

/-- The entry belongs to the value. -/
def belongs (c : Cache) (e : CacheEntry) (v : Value) : Bool :=
  match c.config.fingerprint with
  | .structural => e.value.sameContent v
  | .identity => true

/-- Looks a verdict up. -/
def get (c : Cache) (now : Nat) (v : Value) (schemaId : String) : Option Verdict × Cache :=
  let key := c.keyOf v schemaId
  match Recency.find? key c.entries with
  | none => (none, c.countMiss)
  | some e =>
    if e.isExpired now then (none, (c.withEntries (Recency.remove key c.entries)).countMiss)
    else
      let used := c.withEntries (Recency.promote key c.entries)
      if c.belongs e v then (some e.verdict, used.countHit) else (none, used.countMiss)

/-- Stores a verdict. -/
def set (c : Cache) (now : Nat) (v : Value) (schemaId : String) (verdict : Verdict) : Cache :=
  let entry : CacheEntry := ⟨v, verdict, c.config.timeToLiveMs.map (now + ·)⟩
  c.withEntries (Recency.write c.config.capacity (c.keyOf v schemaId) entry c.entries)

/-- Looks a verdict up, or reaches one and stores it. -/
def getOrJudge (c : Cache) (now : Nat) (v : Value) (schemaId : String)
    (judge : Value → Option Verdict) : Option (Verdict × Cache) :=
  match c.get now v schemaId with
  | (some verdict, used) => some (verdict, used)
  | (none, used) =>
    match judge v with
    | none => none
    | some verdict => some (verdict, used.set now v schemaId verdict)

/-- Drops all entries and starts counting anew. -/
def clear (c : Cache) : Cache := { c with entries := [], hits := 0, misses := 0 }

/-- Removes the entries that are too old and tells how many there were. -/
def purgeExpired (c : Cache) (now : Nat) : Nat × Cache :=
  let kept := c.entries.filter fun e => !e.2.isExpired now
  (c.entries.length - kept.length, c.withEntries kept)

/-- The share of hits among look-ups, zero before the first one. -/
def hitRate (c : Cache) : Double :=
  if c.hits + c.misses = 0 then Double.zero
  else (Double.ofNat c.hits).div (Double.ofNat (c.hits + c.misses))

end Cache

end ValueSchema
