/-
JSON documents.

A document keeps the members of its objects in the order in which they were written and its
numbers as the text that was written, so nothing is lost by holding one.
-/
import ValueSchema.Keyed
import ValueSchema.Text.Quoted

set_option autoImplicit false

namespace ValueSchema

/-- A JSON document. -/
inductive Json
  | null
  | bool (b : Bool)
  | number (text : String)
  | string (s : String)
  | array (items : List Json)
  | object (members : List (String × Json))
deriving Inhabited

namespace Json

/-- A member of an object. -/
def get? (j : Json) (key : String) : Option Json :=
  match j with
  | object members => Keyed.find? key members
  | _ => none

/-- The number of a count. -/
def ofNat (n : Nat) : Json := number (Nat.repr n)

/-- A document or `null`. -/
def ofOption {α : Type} (f : α → Json) : Option α → Json
  | some a => f a
  | none => null

mutual

/-- The text of a document, without spaces. -/
def render : Json → String
  | null => "null"
  | bool b => if b then "true" else "false"
  | number text => text
  | string s => Text.jsonString s
  | array items => "[" ++ String.intercalate "," (renderItems items) ++ "]"
  | object members =>
    "\x7b" ++ String.intercalate "," (renderMembers members) ++ "\x7d"

def renderItems : List Json → List String
  | [] => []
  | j :: rest => render j :: renderItems rest

def renderMembers : List (String × Json) → List String
  | [] => []
  | (key, j) :: rest => (Text.jsonString key ++ ":" ++ render j) :: renderMembers rest

end

end Json

end ValueSchema
