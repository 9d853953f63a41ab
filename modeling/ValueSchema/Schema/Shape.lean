/-
The algebra of object shapes, and unions of shapes told apart by a tag.

Shapes are extended, merged, narrowed and loosened into further shapes. A tagged union is built
from shapes only when every one declares the tag as a literal and no two literals agree, so the
tag of a value selects at most one of them.
-/
import ValueSchema.Schema.Basic

set_option autoImplicit false

namespace ValueSchema

namespace Shape

variable {σ : Type}

def withUnknown (s : Shape σ) (unknown : UnknownKeys) : Shape σ := ⟨s.fields, unknown, s.limits⟩

def withLimits (s : Shape σ) (limits : Limits) : Shape σ := ⟨s.fields, s.unknown, limits⟩

def withFields (s : Shape σ) (fields : List (String × σ)) : Shape σ :=
  ⟨fields, s.unknown, s.limits⟩

/-- Adds fields; one that is declared already is replaced at its place. -/
def extend (s : Shape σ) (fields : List (String × σ)) : Shape σ :=
  s.withFields (Keyed.insertAll s.fields fields)

/-- Adds the fields of another shape and takes over its treatment of unknown keys. -/
def merge (s other : Shape σ) : Shape σ := (s.extend other.fields).withUnknown other.unknown

/-- The listed fields only. -/
def pick (s : Shape σ) (keys : List String) : Shape σ :=
  s.withFields (s.fields.filter fun f => keys.contains f.1)

/-- The fields that are not listed. -/
def without (s : Shape σ) (keys : List String) : Shape σ :=
  s.withFields (s.fields.filter fun f => !keys.contains f.1)

end Shape

/-- The schema without the wrappers that let undefined pass; of one that lets null pass as well
that much is kept. -/
def Schema.required : Schema → Schema
  | .modified .optional inner => inner.required
  | .modified .nullish inner => .modified .nullable inner.required
  | s => s

namespace Shape

/-- Every field may be absent. -/
def loosened (s : Shape Schema) : Shape Schema := s.map (.modified .optional)

/-- No field is optional by an outer wrapper. -/
def required (s : Shape Schema) : Shape Schema := s.map Schema.required

/-- The declared keys as a schema. -/
def keySchema (s : Shape Schema) : Schema := .words s.keys

/-- The literal that a shape declares under a key. -/
def literal? (key : String) (s : Shape Schema) : Option Value :=
  match s.find? key with
  | some (.literal v) => some v
  | _ => none

end Shape

/-! ## Tagged unions -/

/-- Why a tagged union cannot be built. -/
inductive SchemaError
  | missingDiscriminator (discriminator : String) (index : Nat)
  | duplicateDiscriminator (v : Value)

def SchemaError.message : SchemaError → String
  | .missingDiscriminator discriminator index =>
    "option " ++ Nat.repr index ++ " has no literal field `" ++ discriminator ++ "`"
  | .duplicateDiscriminator v =>
    "discriminator value " ++ v.display ++ " is used by more than one option"

namespace Tagged

/-- The first fault among options from a position on, given the keys of the literals before. -/
def fault? (discriminator : String) (seen : List Value.Key) (index : Nat) :
    List (Shape Schema) → Option SchemaError
  | [] => none
  | option :: rest =>
    match option.literal? discriminator with
    | none => some (.missingDiscriminator discriminator index)
    | some v =>
      if seen.contains v.key then some (.duplicateDiscriminator v)
      else fault? discriminator (v.key :: seen) (index + 1) rest

/-- The literals that the options declare under the tag. -/
def literals (discriminator : String) (options : List (Shape Schema)) : List (Option Value) :=
  options.map (Shape.literal? discriminator)

end Tagged

/-- A union of shapes told apart by the literal under one key. -/
def Schema.taggedUnion (discriminator : String) (options : List (Shape Schema)) :
    Except SchemaError Schema :=
  match Tagged.fault? discriminator [] 0 options with
  | some fault => .error fault
  | none => .ok (.tagged discriminator options)

end ValueSchema
