/-
The two texts of a value: a short display for messages, and JSON.

The display shows a primitive in full and a container by its kind and size. JSON has no
undefined, no big integers, symbols, dates, maps or sets: nothing and invalid dates become
`null`, big integers, symbols and dates their texts, maps lists of pairs and sets lists.
-/
import ValueSchema.Value.Basic
import ValueSchema.Decimal.Layout
import ValueSchema.Text.Quoted

set_option autoImplicit false

namespace ValueSchema

def Symbol.text (s : Symbol) : String := "Symbol(" ++ s.description.getD "" ++ ")"

namespace Value

def intText (n : Int) : String := if n < 0 then "-" ++ Nat.repr n.natAbs else Nat.repr n.natAbs

def sized (kind : String) (n : Nat) : String := kind ++ "(" ++ Nat.repr n ++ ")"

/-- The short text of a value in messages. -/
def display : Value → String
  | undefined => "undefined"
  | null => "null"
  | bool b => if b then "true" else "false"
  | number n => Decimal.plainText n
  | bigint n => intText n ++ "n"
  | string s => Text.quote s
  | symbol s => s.text
  | date none => "Invalid Date"
  | date (some t) => t.text
  | array _ items => sized "Array" items.length
  | object _ _ => "Object"
  | map _ entries => sized "Map" entries.length
  | set _ items => sized "Set" items.length

def commaSeparated (parts : List String) : String := String.intercalate "," parts

mutual

/-- The JSON text of a value, without spaces. -/
def json : Value → String
  | undefined => "null"
  | null => "null"
  | bool b => if b then "true" else "false"
  | number n => Decimal.dataText n
  | bigint n => Text.jsonString (intText n)
  | string s => Text.jsonString s
  | symbol s => Text.jsonString s.text
  | date none => "null"
  | date (some t) => Text.jsonString t.text
  | array _ items => "[" ++ commaSeparated (jsonItems items) ++ "]"
  | set _ items => "[" ++ commaSeparated (jsonItems items) ++ "]"
  | object _ fields => "\x7b" ++ commaSeparated (jsonFields fields) ++ "\x7d"
  | map _ entries => "[" ++ commaSeparated (jsonEntries entries) ++ "]"

def jsonItems : List Value → List String
  | [] => []
  | v :: rest => json v :: jsonItems rest

def jsonFields : List (String × Value) → List String
  | [] => []
  | (k, v) :: rest => (Text.jsonString k ++ ":" ++ json v) :: jsonFields rest

def jsonEntries : List (Value × Value) → List String
  | [] => []
  | (k, v) :: rest => ("[" ++ json k ++ "," ++ json v ++ "]") :: jsonEntries rest

end

end Value

end ValueSchema
