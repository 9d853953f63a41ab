/-
Objects with declared fields.

The type comes first, then the guard with depth and keys, then every declared field in the order
of the declarations, a missing one standing as undefined, and last the keys that are not declared.
All issues are collected. A field whose output is undefined is left out of the output.
-/
import ValueSchema.Judgement.Basic
import ValueSchema.Guard.Object
import ValueSchema.Schema.Basic

set_option autoImplicit false

namespace ValueSchema

/-! ## The input of an object or a record -/

/-- The fields of an object that the guard lets through. -/
def guardedFields (limits : Limits) (c : Context) (v : Value) :
    Except Issue (List (String × Value)) :=
  match v with
  | .object _ fields =>
    match Guard.checkObject (Keyed.keys fields) c.depth limits with
    | .ok () => .ok fields
    | .error r => .error (r.issue c)
  | v => .error (c.typeMismatch .notObject "object" v)

/-- The fields of an object that the guard lets through at a depth. -/
def guardedFields? (limits : Limits) (depth : Nat) (v : Value) :
    Option (List (String × Value)) :=
  match v with
  | .object _ fields =>
    if (Guard.checkObject (Keyed.keys fields) depth limits).isOk then some fields else none
  | _ => none

/-! ## Unknown keys -/

/-- The fields of an object that are not declared. -/
def undeclared (declared : List String) (fields : List (String × Value)) :
    List (String × Value) :=
  fields.filter fun f => !declared.contains f.1

namespace UnknownKeys

/-- The issues of the fields that are not declared. -/
def issues (u : UnknownKeys) (limits : Limits) (c : Context) (extra : List (String × Value)) :
    List Issue :=
  match u with
  | strip => []
  | passthrough => extra.filterMap fun f => Guard.scan limits (c.childKey f.1) f.2
  | strict =>
    extra.map fun f =>
      (c.childKey f.1).issue .objectUnknownKey ("Unrecognized key: " ++ Text.quote f.1)

/-- The fields that are not declared raise no issue. -/
def accepts (u : UnknownKeys) (limits : Limits) (depth : Nat) (extra : List (String × Value)) :
    Bool :=
  match u with
  | strip => true
  | passthrough => extra.all fun f => Guard.scanAccepts limits (depth + 1) f.2
  | strict => extra.isEmpty

/-- The fields that are not declared and yet kept. -/
def kept (u : UnknownKeys) (extra : List (String × Value)) : List (String × Value) :=
  match u with
  | passthrough => extra
  | _ => []

end UnknownKeys

/-! ## Objects -/

/-- The field of an object under a key, or undefined. -/
def fieldOr (key : String) (fields : List (String × Value)) : Value :=
  (Keyed.find? key fields).getD .undefined

namespace Shape

/-- The verdicts on the declared fields from a position on. -/
def judgeFields (s : Site) (c : Context) (input : List (String × Value)) :
    Nat → List (String × Judge) → Option (List (String × Verdict))
  | _, [] => some []
  | n, (key, judge) :: rest => do
    let verdict ← judge (s.child n) (fieldOr key input) (c.childKey key)
    let others ← judgeFields s c input (n + 1) rest
    some ((key, verdict) :: others)

/-- The outputs of the declared fields. -/
def fieldOutputs (verdicts : List (String × Verdict)) : List (String × Value) :=
  verdicts.filterMap fun e =>
    match e.2 with
    | .ok .undefined => none
    | .ok v => some (e.1, v)
    | .error _ => none

/-- Judges an object field by field. -/
def judge (shape : Shape Judge) : Judge := fun s v c =>
  match guardedFields shape.limits c v with
  | .error i => some (Verdict.reject i)
  | .ok input => do
    let verdicts ← judgeFields s c input 0 shape.fields
    let extra := undeclared shape.keys input
    some (Verdict.finish
      (Verdict.allIssues (verdicts.map Prod.snd) ++ shape.unknown.issues shape.limits c extra)
      (.object s.ident (fieldOutputs verdicts ++ shape.unknown.kept extra)))

/-- The declared fields from a position on pass. -/
def testFields (s : Site) (depth : Nat) (input : List (String × Value)) :
    Nat → List (String × Test) → Option Bool
  | _, [] => some true
  | n, (key, test) :: rest =>
    Test.both (test (s.child n) (fieldOr key input) (depth + 1)) fun _ =>
      testFields s depth input (n + 1) rest

/-- Tests an object field by field. -/
def test (shape : Shape Test) : Test := fun s v depth =>
  match guardedFields? shape.limits depth v with
  | none => some false
  | some input =>
    Test.both (testFields s depth input 0 shape.fields) fun _ =>
      some (shape.unknown.accepts shape.limits depth (undeclared shape.keys input))

end Shape

end ValueSchema
