/-
Settings as a configuration file gives them.

Settings are the members of an object. Members that are not known are passed over and members
that are missing keep their standard value; a member of the wrong kind spoils the whole.
-/
import ValueSchema.Guard.Limits
import ValueSchema.Json.Basic
import ValueSchema.Decimal.Reading

set_option autoImplicit false

namespace ValueSchema

namespace Setting

/-- A natural number that fits a machine word. -/
def natural? : Json → Option Nat
  | .number text => (Decimal.natural? text.toList).filter fun n => n < Nat.pow 2 64
  | _ => none

/-- A member that is a natural number, or the standard value. -/
def naturalOr? (standard : Nat) (member : Option Json) : Option Nat :=
  match member with
  | none => some standard
  | some j => natural? j

/-- A member that is a natural number or nothing, or the standard value. -/
def optionalOr? (standard : Option Nat) (member : Option Json) : Option (Option Nat) :=
  match member with
  | none => some standard
  | some .null => some none
  | some j => (natural? j).map some

/-- A member that is one of a few words, or the standard value. A word may stand as the only
member of an object whose content is nothing. -/
def wordOr? {α : Type} (standard : α) (words : List (String × α)) (member : Option Json) :
    Option α :=
  match member with
  | none => some standard
  | some (.string w) => words.lookup w
  | some (.object [(w, .null)]) => words.lookup w
  | some _ => none

end Setting

/-- Limits from settings. -/
def Limits.ofJson? : Json → Option Limits
  | .object members => do
    let member (name : String) (standard : Nat) : Option Nat :=
      Setting.naturalOr? standard (Keyed.find? name members)
    let standard := Limits.standard
    some
      { maxDepth := ← member "max_depth" standard.maxDepth
        maxRegexInputLen := ← member "max_regex_input_len" standard.maxRegexInputLen
        regexTimeoutMs := ← member "regex_timeout_ms" standard.regexTimeoutMs
        maxPatternLen := ← member "max_pattern_len" standard.maxPatternLen }
  | _ => none

end ValueSchema
