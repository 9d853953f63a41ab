/-
How a cache is set up.

A cache is bounded by a number of entries, by the age of entries, or by both, and tells containers
apart by identity or by content.
-/
import ValueSchema.Settings

set_option autoImplicit false

namespace ValueSchema

/-- What a cache is bounded by first of all. -/
inductive CachePolicy
  | lru
  | ttl
deriving DecidableEq, Repr

/-- How containers are told apart. -/
inductive FingerprintMode
  | identity
  | structural
deriving DecidableEq, Repr

/-- The settings of a cache; times are in milliseconds. -/
structure CacheConfig where
  policy : CachePolicy
  maxSize : Option Nat
  ttlMs : Option Nat
  fingerprint : FingerprintMode
deriving DecidableEq, Repr

namespace CacheConfig

/-- The settings of a cache that is given none. -/
def standard : CacheConfig := ⟨.lru, some 1000, none, .identity⟩

/-- At most so many entries. -/
def ofSize (maxSize : Nat) : CacheConfig := { standard with maxSize := some maxSize }

/-- Entries of a bounded age, given in microseconds and kept in whole milliseconds. -/
def ofAge (microseconds : Nat) : CacheConfig :=
  { standard with policy := .ttl, ttlMs := some (min (microseconds / 1000) (Nat.pow 2 64 - 1)) }

def withMaxSize (c : CacheConfig) (maxSize : Option Nat) : CacheConfig :=
  { c with maxSize := maxSize }

def withTtlMs (c : CacheConfig) (ms : Nat) : CacheConfig := { c with ttlMs := some ms }

def withFingerprint (c : CacheConfig) (mode : FingerprintMode) : CacheConfig :=
  { c with fingerprint := mode }

/-- The age that entries may reach. A cache bounded by age has a standard one. -/
def timeToLiveMs (c : CacheConfig) : Option Nat :=
  match c.ttlMs, c.policy with
  | some ms, _ => some ms
  | none, .ttl => some 60000
  | none, .lru => none

/-- The number of entries that fit; a cache for none still holds one. -/
def capacity (c : CacheConfig) : Option Nat := c.maxSize.map fun n => max n 1

/-- A configuration from settings. -/
def ofJson? : Json → Option CacheConfig
  | .object members => do
    let member (name : String) : Option Json := Keyed.find? name members
    some
      { policy := ← Setting.wordOr? standard.policy [("lru", .lru), ("ttl", .ttl)]
          (member "policy")
        maxSize := ← Setting.optionalOr? standard.maxSize (member "max_size")
        ttlMs := ← Setting.optionalOr? standard.ttlMs (member "ttl_ms")
        fingerprint := ← Setting.wordOr? standard.fingerprint
          [("identity", .identity), ("structural", .structural)] (member "fingerprint") }
  | _ => none

end CacheConfig

end ValueSchema
