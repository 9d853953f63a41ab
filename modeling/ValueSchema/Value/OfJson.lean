/-
Values of JSON documents.

Every kind of document has its kind of value, and numbers become the nearest double. Containers
are numbered in the order in which they close.
-/
import ValueSchema.Json.Basic
import ValueSchema.Value.Basic
import ValueSchema.Decimal.Reading

set_option autoImplicit false

namespace ValueSchema.Value

mutual

/-- The value of a document whose containers are numbered from a number on, and the next number. -/
def numberedOfJson (next : Nat) : Json → Value × Nat
  | .null => (null, next)
  | .bool b => (bool b, next)
  | .number text => (number ((Decimal.double? text).getD Double.nan), next)
  | .string s => (string s, next)
  | .array items =>
    let (values, next) := itemsOfJson next items
    (array (.given next) values, next + 1)
  | .object members =>
    let (fields, next) := fieldsOfJson next members
    (ofEntries (.given next) fields, next + 1)

def itemsOfJson (next : Nat) : List Json → List Value × Nat
  | [] => ([], next)
  | j :: rest =>
    let (v, next) := numberedOfJson next j
    let (values, next) := itemsOfJson next rest
    (v :: values, next)

def fieldsOfJson (next : Nat) : List (String × Json) → List (String × Value) × Nat
  | [] => ([], next)
  | (key, j) :: rest =>
    let (v, next) := numberedOfJson next j
    let (fields, next) := fieldsOfJson next rest
    ((key, v) :: fields, next)

end

/-- The value of a document. -/
def ofJson (j : Json) : Value := (numberedOfJson 0 j).1

end ValueSchema.Value
