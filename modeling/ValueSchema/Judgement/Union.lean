/-
Unions, plain and tagged.

A plain union takes the output of the first option that accepts and keeps no issue of an option.
A tagged union lets the literal under one key select the option and answers as that option does.
-/
import ValueSchema.Judgement.Basic
import ValueSchema.Schema.Shape

set_option autoImplicit false

namespace ValueSchema

/-! ## Plain unions -/

namespace Union

/-- The issue that no option accepts. -/
def noMatch (c : Context) (options : Nat) : Issue :=
  (c.issue .unionNoMatch "Invalid input: value does not match any union option").withDetail
    "options" (Value.ofCount options)

/-- The output of the first option from a position on that accepts. -/
def firstOutput? (s : Site) (v : Value) (c : Context) : Nat → List Judge → Option (Option Value)
  | _, [] => some none
  | n, judge :: rest => do
    match ← judge (s.child n) v c with
    | .ok output => some (some output)
    | .error _ => firstOutput? s v c (n + 1) rest

/-- Judges by the first option that accepts. -/
def judge (options : List Judge) : Judge := fun s v c => do
  match ← firstOutput? s v c 0 options with
  | some output => some (.ok output)
  | none => some (Verdict.reject (noMatch c options.length))

/-- The place of the first option from a position on that passes. -/
def firstPassing? (s : Site) (v : Value) (depth : Nat) : Nat → List Test → Option (Option Nat)
  | _, [] => some none
  | n, test :: rest => do
    if ← test (s.child n) v depth then some (some n) else firstPassing? s v depth (n + 1) rest

/-- Tests whether some option passes. -/
def test (options : List Test) : Test := fun s v depth =>
  (firstPassing? s v depth 0 options).map Option.isSome

end Union

/-! ## Tagged unions -/

namespace Tagged

/-- The place of the option whose literal has a key. -/
def placeOf? (key : Value.Key) (literals : List (Option Value)) : Option Nat :=
  literals.findIdx? fun l =>
    match l with
    | some v => v.key == key
    | none => false

/-- The place of the option that the tag of an object selects. -/
def select? (discriminator : String) (literals : List (Option Value))
    (fields : List (String × Value)) : Option Nat :=
  (Keyed.find? discriminator fields).bind fun tag => placeOf? tag.key literals

/-- The literals between bars. -/
def expected (literals : List (Option Value)) : String :=
  String.intercalate " | " (literals.filterMap fun l => l.map Value.display)

/-- The issue of an object whose tag selects nothing. -/
def noMatch (discriminator : String) (literals : List (Option Value)) (c : Context)
    (fields : List (String × Value)) : Issue :=
  let i := ((c.atKey discriminator).issue .invalidDiscriminator
    ("Invalid discriminator value. Expected " ++ expected literals)).withExpected
    (expected literals)
  match Keyed.find? discriminator fields with
  | some tag => i.withReceived tag
  | none => i

/-- Judges an object by the option that its tag selects. -/
def judge (discriminator : String) (literals : List (Option Value)) (options : List Judge) :
    Judge := fun s v c =>
  match v with
  | .object _ fields =>
    match (select? discriminator literals fields).bind fun n => options[n]?.map (n, ·) with
    | some (n, judge) => judge (s.child n) v c
    | none => some (Verdict.reject (noMatch discriminator literals c fields))
  | v => some (Verdict.reject (c.typeMismatch .notObject "object" v))

/-- Tests an object by the option that its tag selects. -/
def test (discriminator : String) (literals : List (Option Value)) (options : List Test) :
    Test := fun s v depth =>
  match v with
  | .object _ fields =>
    match (select? discriminator literals fields).bind fun n => options[n]?.map (n, ·) with
    | some (n, test) => test (s.child n) v depth
    | none => some false
  | _ => some false

end Tagged

end ValueSchema
