/-
Values up to allocation.

Two values have the same content when they were built alike at every level: the same kinds,
numbers word for word with one NaN, symbols by token, elements and fields in the same order.
`contentTokens` lists what a hash of the content reads; values with the same content have the
same tokens.
-/
import ValueSchema.Value.Equality

set_option autoImplicit false

namespace ValueSchema

namespace Value

mutual

/-- The same constructors and contents at every level, identities disregarded. -/
def sameContent : Value → Value → Bool
  | array _ xs, array _ ys => sameContentItems xs ys
  | set _ xs, set _ ys => sameContentItems xs ys
  | object _ xs, object _ ys => sameContentFields xs ys
  | map _ xs, map _ ys => sameContentEntries xs ys
  | a, b => if a.isComposite || b.isComposite then false else a.exactKey == b.exactKey

def sameContentItems : List Value → List Value → Bool
  | [], [] => true
  | x :: xs, y :: ys => sameContent x y && sameContentItems xs ys
  | _, _ => false

def sameContentFields : List (String × Value) → List (String × Value) → Bool
  | [], [] => true
  | (k, x) :: xs, (l, y) :: ys => k == l && sameContent x y && sameContentFields xs ys
  | _, _ => false

def sameContentEntries : List (Value × Value) → List (Value × Value) → Bool
  | [], [] => true
  | (k, x) :: xs, (l, y) :: ys =>
    sameContent k l && sameContent x y && sameContentEntries xs ys
  | _, _ => false

end

/-! ## What a hash of the content reads -/

/-- One item of the sequence that a content hash consumes. -/
inductive Token
  | kind (name : String)
  | count (n : Nat)
  | field (name : String)
  | leaf (key : Key)
deriving DecidableEq, Repr, Hashable

/-- The kind of a value, NaN being a number. -/
def kindName : Value → String
  | number _ => "number"
  | v => v.typeName

mutual

/-- The content of a value as a sequence: kinds, sizes, field names and leaves. -/
def contentTokens : Value → List Token
  | array _ items => .kind "array" :: .count items.length :: itemTokens items
  | set _ items => .kind "set" :: .count items.length :: itemTokens items
  | object _ fields => .kind "object" :: .count fields.length :: fieldTokens fields
  | map _ entries => .kind "map" :: .count entries.length :: entryTokens entries
  | v => [.kind v.kindName, .leaf v.exactKey]

def itemTokens : List Value → List Token
  | [] => []
  | v :: rest => contentTokens v ++ itemTokens rest

def fieldTokens : List (String × Value) → List Token
  | [] => []
  | (k, v) :: rest => .field k :: (contentTokens v ++ fieldTokens rest)

def entryTokens : List (Value × Value) → List Token
  | [] => []
  | (k, v) :: rest => contentTokens k ++ contentTokens v ++ entryTokens rest

end

end Value

end ValueSchema
