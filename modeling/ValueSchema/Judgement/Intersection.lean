/-
Intersections.

Every branch judges the same value and all issues are collected. The outputs of branches that all
accept are merged from the left: outputs that agree are one, objects merge field by field, arrays
of one length element by element, and anything else is a conflict.
-/
import ValueSchema.Judgement.Basic
import ValueSchema.Value.Equality

set_option autoImplicit false

namespace ValueSchema

namespace Intersection

/-! ## Merging outputs -/

/-- Two outputs need no merging. -/
def agree (a b : Value) : Bool := a.equal b || a.sameValueZero b

mutual

/-- Merges an output into another; containers that need merging are built anew. -/
def merge (s : Site) (a : Value) : Value → Option Value
  | .object id right =>
    if agree a (.object id right) then some a
    else
      match a with
      | .object _ left => (mergeFields s left 0 left right).map (.object s.ident)
      | _ => none
  | .array id right =>
    if agree a (.array id right) then some a
    else
      match a with
      | .array _ left =>
        if left.length = right.length then (mergeItems s 0 left right).map (.array s.ident)
        else none
      | _ => none
  | b => if agree a b then some a else none
termination_by structural right => right

/-- Writes the fields on the right into what was gathered so far, each merged with the field on
the left if there is one. -/
def mergeFields (s : Site) (left : List (String × Value)) (n : Nat)
    (merged : List (String × Value)) : List (String × Value) → Option (List (String × Value))
  | [] => some merged
  | (key, v) :: rest =>
    match Keyed.find? key left with
    | none => mergeFields s left (n + 1) (Keyed.insert key v merged) rest
    | some present =>
      match merge (s.child n) present v with
      | none => none
      | some both => mergeFields s left (n + 1) (Keyed.insert key both merged) rest
termination_by structural right => right

/-- Merges two lists of one length element by element. -/
def mergeItems (s : Site) (n : Nat) (left : List Value) : List Value → Option (List Value)
  | [] => some []
  | v :: rest =>
    match left with
    | [] => some []
    | present :: others =>
      match merge (s.child n) present v, mergeItems s (n + 1) others rest with
      | some both, some merged => some (both :: merged)
      | _, _ => none
termination_by structural right => right

end

/-- Merges further outputs into one, from a place on. -/
def mergeFrom (s : Site) (n : Nat) (gathered : Value) : List Value → Option Value
  | [] => some gathered
  | v :: rest =>
    match merge (s.child n) gathered v with
    | none => none
    | some both => mergeFrom s (n + 1) both rest

/-- The output of branches that all accepted; no branch at all makes undefined. -/
def mergeAll (s : Site) (outputs : List Value) : Option Value :=
  match outputs with
  | [] => some .undefined
  | first :: rest => mergeFrom s 0 first rest

/-! ## Judging -/

/-- The verdicts of the branches from a position on. -/
def judgeBranches (s : Site) (v : Value) (c : Context) :
    Nat → List Judge → Option (List Verdict)
  | _, [] => some []
  | n, judge :: rest => do
    let verdict ← judge (s.child n) v c
    let others ← judgeBranches s v c (n + 1) rest
    some (verdict :: others)

/-- The verdict of an intersection from the verdicts of its branches. -/
def combine (s : Site) (c : Context) (verdicts : List Verdict) : Verdict :=
  match Issues.ofList? (Verdict.allIssues verdicts) with
  | some issues => .error issues
  | none =>
    match mergeAll (s.child verdicts.length) (Verdict.outputs verdicts) with
    | some output => .ok output
    | none =>
      Verdict.reject (c.issue .intersectionConflict "Intersection results could not be merged")

/-- Judges by all branches. -/
def judge (branches : List Judge) : Judge := fun s v c =>
  (judgeBranches s v c 0 branches).map (combine s c)

end Intersection

end ValueSchema
