/-
Schemas.

A schema says which values are accepted and what they become. Leaves look at one value, containers
hand the parts of a value to further schemas, unions and intersections judge one value several
times, modifiers change what happens around a schema, and a lazy reference names a definition, so
that schemas can describe values of any depth.

Schemas are plain data. The shape of an object is written over any type of children, as the same
shape later holds the evaluators of its fields.
-/
import ValueSchema.Leaf.Text
import ValueSchema.Leaf.Number
import ValueSchema.Leaf.Date
import ValueSchema.Leaf.Plain
import ValueSchema.Leaf.Choice
import ValueSchema.UserCode.Basic

set_option autoImplicit false

namespace ValueSchema

/-! ## Settings of containers -/

/-- What becomes of the keys of an object that its schema does not declare. -/
inductive UnknownKeys
  | strip
  | passthrough
  | strict
deriving DecidableEq, Repr, Inhabited

/-- The declared fields of an object, in order and each declared once, with the treatment of
other keys. -/
structure Shape (σ : Type) where
  fields : List (String × σ)
  unknown : UnknownKeys
  limits : Limits

namespace Shape

variable {σ τ : Type}

/-- Fields written in order; unknown keys are dropped. -/
def ofFields (fields : List (String × σ)) : Shape σ :=
  ⟨Keyed.ofList fields, .strip, Limits.standard⟩

/-- Other children under the same keys. -/
def map (f : σ → τ) (s : Shape σ) : Shape τ := ⟨Keyed.mapValues f s.fields, s.unknown, s.limits⟩

def keys (s : Shape σ) : List String := Keyed.keys s.fields

def find? (s : Shape σ) (key : String) : Option σ := Keyed.find? key s.fields

end Shape

/-- What is asked of an array as a whole. -/
structure ArrayBounds where
  min : Option Nat
  max : Option Nat
  length : Option Nat
  nonempty : Bool
  unique : Bool
  limits : Limits
deriving DecidableEq, Repr

/-- Any array. -/
def ArrayBounds.any : ArrayBounds := ⟨none, none, none, false, false, Limits.standard⟩

/-- What is asked of a set as a whole. -/
structure SetBounds where
  min : Option Nat
  max : Option Nat
  limits : Limits
deriving DecidableEq, Repr

/-- Any set. -/
def SetBounds.any : SetBounds := ⟨none, none, Limits.standard⟩

/-! ## Modifiers -/

/-- What happens around a schema. -/
inductive Modifier
  /-- Undefined passes. -/
  | optional
  /-- Null passes. -/
  | nullable
  /-- Undefined and null pass. -/
  | nullish
  /-- Undefined is replaced by a value, which is then judged. -/
  | default (v : Value)
  /-- A rejected value is replaced by a value, which is not judged. -/
  | fallback (v : Value)
  /-- Issues about the value itself get a message. -/
  | message (text : String)
  /-- The output has to pass a predicate. -/
  | refine (check : Predicate) (message : String)
  /-- The output has to pass a refiner. -/
  | superRefine (refiner : Refiner)
  /-- The output is mapped. -/
  | transform (mapper : Mapper)
  /-- The input is mapped. -/
  | preprocess (mapper : Mapper)
  | refineAsync (check : DeferredPredicate) (message : String)
  | transformAsync (mapper : DeferredMapper)
  | preprocessAsync (mapper : DeferredMapper)

namespace Modifier

def name : Modifier → String
  | optional => "optional"
  | nullable => "nullable"
  | nullish => "nullish"
  | default _ => "default"
  | fallback _ => "catch"
  | message _ => "message"
  | refine _ _ => "refine"
  | superRefine _ => "super_refine"
  | transform _ => "transform"
  | preprocess _ => "preprocess"
  | refineAsync _ _ => "refine_async"
  | transformAsync _ => "transform_async"
  | preprocessAsync _ => "preprocess_async"

/-- Whether a value passes can only be told from the output of the schema inside. -/
def needsOutput : Modifier → Bool
  | refine _ _ => true
  | superRefine _ => true
  | transform _ => true
  | preprocess _ => true
  | _ => false

/-- The modifier acts in asynchronous judgements only. -/
def isAsync : Modifier → Bool
  | refineAsync _ _ => true
  | transformAsync _ => true
  | preprocessAsync _ => true
  | _ => false

end Modifier

/-! ## Schemas -/

/-- A lazy reference: the name of a definition, and the number that tells this reference from
others to the same definition. -/
structure Reference where
  name : String
  cell : Nat
deriving DecidableEq, Repr, Inhabited

/-- A schema. -/
inductive Schema
  | text (t : TextSchema)
  | number (n : NumberSchema)
  | integer (n : IntegerSchema)
  | date (d : DateSchema)
  | plain (p : PlainSchema)
  | literal (v : Value)
  | words (options : List String)
  | enumeration (entries : List (String × Value))
  | object (shape : Shape Schema)
  | array (element : Schema) (bounds : ArrayBounds)
  | tuple (items : List Schema) (rest : Option Schema) (limits : Limits)
  | record (key : Option Schema) (value : Schema) (limits : Limits)
  | map (key value : Schema) (limits : Limits)
  | set (element : Schema) (bounds : SetBounds)
  | union (options : List Schema)
  /-- A union of objects, each of which has a literal of its own under one key. -/
  | tagged (discriminator : String) (options : List (Shape Schema))
  | intersection (branches : List Schema)
  | lazy (ref : Reference)
  | modified (modifier : Modifier) (inner : Schema)
  /-- The output of one schema is judged by the next. -/
  | pipe (first next : Schema)

namespace Schema

instance : Inhabited Schema := ⟨plain .any⟩

/-- The name of the kind of a schema. -/
def kindName : Schema → String
  | text _ => "string"
  | number _ => "number"
  | integer _ => "bigint"
  | date _ => "date"
  | plain p => p.name
  | literal _ => "literal"
  | words _ => "enum"
  | enumeration _ => "native_enum"
  | object _ => "object"
  | array _ _ => "array"
  | tuple _ _ _ => "tuple"
  | record _ _ _ => "record"
  | map _ _ _ => "map"
  | set _ _ => "set"
  | union _ => "union"
  | tagged _ _ => "discriminated_union"
  | intersection _ => "intersection"
  | lazy _ => "lazy"
  | modified _ _ => "modified"
  | pipe _ _ => "modified"

/-- A value that matches one of two schemas. -/
def or (s t : Schema) : Schema := union [s, t]

/-- A value that matches two schemas. -/
def and (s t : Schema) : Schema := intersection [s, t]

end Schema

end ValueSchema
