/-
Schemas that list what they accept: one literal, a few words, or the values of an enumeration
with names. Literals and enumerated values agree with an input as under `sameValueZero`.
-/
import ValueSchema.Context
import ValueSchema.Value.Equality

set_option autoImplicit false

namespace ValueSchema

/-! ## Literals -/

namespace Literal

def accepts (literal v : Value) : Bool := literal.sameValueZero v

def run (literal : Value) (c : Context) (v : Value) : Verdict :=
  if literal.sameValueZero v then .ok v
  else
    Verdict.reject (((c.issue .invalidLiteral
      ("Invalid literal value, expected " ++ literal.display)).withExpected
      literal.display).withReceived v)

end Literal

/-! ## Enumerations -/

/-- The rejection of a value that is none of those expected. -/
def Choice.reject (expected : String) (c : Context) (v : Value) : Verdict :=
  Verdict.reject (((c.issue .invalidEnumValue
    ("Invalid enum value. Expected " ++ expected ++ ", received " ++ v.display)).withExpected
    expected).withReceived v)

namespace Words

/-- The words in single quotes, between bars. -/
def expected (options : List String) : String :=
  String.intercalate " | " (options.map fun o => "'" ++ o ++ "'")

def accepts (options : List String) (v : Value) : Bool :=
  match v with
  | .string s => options.contains s
  | _ => false

def run (options : List String) (c : Context) (v : Value) : Verdict :=
  if accepts options v then .ok v else Choice.reject (expected options) c v

end Words

namespace Enumeration

/-- The values between bars. -/
def expected (entries : List (String × Value)) : String :=
  String.intercalate " | " (entries.map fun e => e.2.display)

def accepts (entries : List (String × Value)) (v : Value) : Bool :=
  entries.any fun e => e.2.sameValueZero v

def run (entries : List (String × Value)) (c : Context) (v : Value) : Verdict :=
  if accepts entries v then .ok v else Choice.reject (expected entries) c v

end Enumeration

end ValueSchema
