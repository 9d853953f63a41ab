/-
Dynamic values.

The values that reach a schema from outside: the two kinds of nothing, booleans, numbers and
big integers, texts, symbols, dates, and four containers. A container has an identity besides
its contents, as two lists of the same elements built apart are two containers. Identities of
values that came from outside are numbered. A container built during an evaluation is named
after the place in the evaluation that built it, so evaluation needs no counter and an output
depends on nothing but the schema, the value and the context.
-/
import ValueSchema.Double
import ValueSchema.Timestamp
import ValueSchema.Keyed

set_option autoImplicit false

namespace ValueSchema

/-! ## Identities -/

/-- A place in an evaluation: the way to it from the root, innermost step first. -/
abbrev Place := List Nat

/-- The identity of a container: numbered when it came from outside, or named after the run
and the place that built it. -/
inductive Ident
  | given (number : Nat)
  | made (run : Nat) (place : Place)
deriving DecidableEq, Repr, Inhabited, Hashable

/-- Where an evaluation stands: the run it belongs to and its place in it. The container built
there is named after both. -/
structure Site where
  run : Nat
  place : Place
deriving DecidableEq, Repr, Inhabited, Hashable

namespace Site

/-- The start of a run. -/
def root (run : Nat) : Site := ⟨run, []⟩

/-- The site of the `n`-th part of an evaluation. -/
def child (s : Site) (n : Nat) : Site := ⟨s.run, n :: s.place⟩

/-- The identity of the container that is built here. -/
def ident (s : Site) : Ident := .made s.run s.place

end Site

/-! ## Values -/

/-- A token that is equal only to itself, with an optional description. -/
structure Symbol where
  token : String
  description : Option String
deriving DecidableEq, Repr, Inhabited

/-- A dynamic value. -/
inductive Value
  | undefined
  | null
  | bool (b : Bool)
  | number (n : Double)
  | bigint (n : Int)
  | string (s : String)
  | symbol (s : Symbol)
  | date (d : Option Timestamp)
  | array (id : Ident) (items : List Value)
  | object (id : Ident) (fields : List (String × Value))
  | map (id : Ident) (entries : List (Value × Value))
  | set (id : Ident) (items : List Value)
deriving Inhabited

namespace Value

/-- The name of a value's type in messages. NaN has a name of its own. -/
def typeName : Value → String
  | undefined => "undefined"
  | null => "null"
  | bool _ => "boolean"
  | number n => if n.isNaN then "nan" else "number"
  | bigint _ => "bigint"
  | string _ => "string"
  | symbol _ => "symbol"
  | date _ => "date"
  | array _ _ => "array"
  | object _ _ => "object"
  | map _ _ => "map"
  | set _ _ => "set"

def isUndefined : Value → Bool
  | undefined => true
  | _ => false

def isNull : Value → Bool
  | null => true
  | _ => false

/-- The identity of a container. -/
def ident? : Value → Option Ident
  | array id _ => some id
  | object id _ => some id
  | map id _ => some id
  | set id _ => some id
  | _ => none

/-- Containers are compared by identity. -/
def isComposite (v : Value) : Bool := v.ident?.isSome

def string? : Value → Option String
  | string s => some s
  | _ => none

def number? : Value → Option Double
  | number n => some n
  | _ => none

def bool? : Value → Option Bool
  | bool b => some b
  | _ => none

def array? : Value → Option (List Value)
  | array _ items => some items
  | _ => none

def object? : Value → Option (List (String × Value))
  | object _ fields => some fields
  | _ => none

/-- A field of an object. -/
def get? (v : Value) (key : String) : Option Value := v.object?.bind (Keyed.find? key)

/-- An object from entries; a repeated key keeps its first place and its last value. -/
def ofEntries (id : Ident) (entries : List (String × Value)) : Value :=
  object id (Keyed.ofList entries)

/-- The number of an element count. -/
def ofCount (n : Nat) : Value := number (Double.ofNat n)

/-! ## Height -/

mutual

/-- How many containers lie around the innermost part of a value. -/
def height : Value → Nat
  | array _ items => itemsHeight items + 1
  | object _ fields => fieldsHeight fields + 1
  | map _ entries => entriesHeight entries + 1
  | set _ items => itemsHeight items + 1
  | _ => 0

def itemsHeight : List Value → Nat
  | [] => 0
  | v :: rest => max (height v) (itemsHeight rest)

def fieldsHeight : List (String × Value) → Nat
  | [] => 0
  | (_, v) :: rest => max (height v) (fieldsHeight rest)

def entriesHeight : List (Value × Value) → Nat
  | [] => 0
  | (k, v) :: rest => max (max (height k) (height v)) (entriesHeight rest)

end

/-! ## Runs

A run that starts above every run found in its input builds containers that are new to it. -/

def identRun : Ident → Nat
  | .given _ => 0
  | .made run _ => run + 1

mutual

/-- One more than the greatest run that built a part of a value. -/
def nextRun : Value → Nat
  | array id items => max (identRun id) (nextRunItems items)
  | object id fields => max (identRun id) (nextRunFields fields)
  | map id entries => max (identRun id) (nextRunEntries entries)
  | set id items => max (identRun id) (nextRunItems items)
  | _ => 0

def nextRunItems : List Value → Nat
  | [] => 0
  | v :: rest => max (nextRun v) (nextRunItems rest)

def nextRunFields : List (String × Value) → Nat
  | [] => 0
  | (_, v) :: rest => max (nextRun v) (nextRunFields rest)

def nextRunEntries : List (Value × Value) → Nat
  | [] => 0
  | (k, v) :: rest => max (max (nextRun k) (nextRun v)) (nextRunEntries rest)

end

end Value

end ValueSchema
