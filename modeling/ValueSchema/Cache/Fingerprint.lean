/-
What a cache looks values up by.

Values that are not containers are looked up by value, the zeros apart. A container is looked up
by its identity or by a hash of its content. A hash can collide, so a container found by its hash
still has to be compared.
-/
import ValueSchema.Cache.Config
import ValueSchema.Value.Content

set_option autoImplicit false

namespace ValueSchema

/-- What a value is looked up by. -/
inductive Fingerprint
  | key (k : Value.Key)
  | content (hash : UInt64)
deriving DecidableEq, Repr

/-- A hash of contents. -/
abbrev ContentHash := List Value.Token → UInt64

namespace Fingerprint

/-- Mixes the hashes of the tokens in order. -/
def standardHash : ContentHash := fun tokens =>
  tokens.foldl (fun acc t => mixHash acc (hash t)) 7

/-- The fingerprint of a value. -/
def ofValue (contentHash : ContentHash) (mode : FingerprintMode) (v : Value) : Fingerprint :=
  match mode with
  | .structural =>
    if v.isComposite then content (contentHash v.contentTokens) else key v.exactKey
  | .identity => key v.exactKey

end Fingerprint

end ValueSchema
