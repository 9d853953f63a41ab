/-
Judgements: what schemas come to.

A schema is evaluated to two functions of a value. The judge answers with an output or with issues
and reads where the value stands; the test only tells whether the judge would answer with an
output. Judges and tests of containers are put together from those of their parts, so the
interpreted and the compiled form of a schema share them.

Lazy references make judging partial: `none` says that a reference could not be followed, and any
judgement that needs such a part comes to `none` itself. Tests stop at the first part that
decides.
-/
import ValueSchema.Context

set_option autoImplicit false

namespace ValueSchema

/-- What became of a value at a site and a context, unless a reference could not be followed. -/
abbrev Judge := Site → Value → Context → Option Verdict

/-- Whether a value at a site and a depth passes. -/
abbrev Test := Site → Value → Nat → Option Bool

/-- The judge and the test of a schema. -/
structure Evaluator where
  judge : Judge
  test : Test

instance : Inhabited Evaluator := ⟨⟨fun _ _ _ => none, fun _ _ _ => none⟩⟩

namespace Evaluator

/-- The evaluator of a reference that cannot be followed. -/
def unresolved : Evaluator := ⟨fun _ _ _ => none, fun _ _ _ => none⟩

/-- A schema that looks at one value only. -/
def leaf (run : Context → Value → Verdict) (accepts : Value → Bool) : Evaluator :=
  ⟨fun _ v c => some (run c v), fun _ v _ => some (accepts v)⟩

end Evaluator

/-- The test that judges in full. -/
def Judge.toTest (judge : Judge) : Test := fun s v depth =>
  (judge s v (Context.withDepth depth)).map Except.isOk

/-! ## Verdicts on parts -/

namespace Verdict

def issues : Verdict → List Issue
  | .ok _ => []
  | .error e => e.toList

def output? : Verdict → Option Value
  | .ok v => some v
  | .error _ => none

/-- The issues of several verdicts in order. -/
def allIssues (verdicts : List Verdict) : List Issue := verdicts.flatMap issues

/-- The outputs among several verdicts in order. -/
def outputs (verdicts : List Verdict) : List Value := verdicts.filterMap output?

end Verdict

/-- Two tests in order; the second one is asked only when the first one passed. -/
def Test.both (first : Option Bool) (second : Unit → Option Bool) : Option Bool :=
  match first with
  | some true => second ()
  | other => other

/-! ## Elements by position -/

/-- The verdicts on the elements of a sequence from a position on. -/
def judgeFrom (judgeAt : Nat → Judge) (s : Site) (c : Context) :
    Nat → List Value → Option (List Verdict)
  | _, [] => some []
  | n, v :: rest => do
    let verdict ← judgeAt n (s.child n) v (c.childIndex n)
    let others ← judgeFrom judgeAt s c (n + 1) rest
    some (verdict :: others)

/-- The verdicts on the elements of a sequence. -/
def judgeAll (judgeAt : Nat → Judge) (s : Site) (c : Context) (items : List Value) :
    Option (List Verdict) :=
  judgeFrom judgeAt s c 0 items

/-- The elements of a sequence from a position on pass. -/
def testFrom (testAt : Nat → Test) (s : Site) (depth : Nat) : Nat → List Value → Option Bool
  | _, [] => some true
  | n, v :: rest =>
    Test.both (testAt n (s.child n) v (depth + 1)) fun _ => testFrom testAt s depth (n + 1) rest

/-- The elements of a sequence pass. -/
def testAll (testAt : Nat → Test) (s : Site) (depth : Nat) (items : List Value) : Option Bool :=
  testFrom testAt s depth 0 items

end ValueSchema
