/-
Modifiers around judgements.

Modifiers that replace undefined or null do so before the schema inside sees the value;
refinements and mappers work on its output, preprocessing on its input. Asynchronous modifiers act
in asynchronous judgements only and let everything through in the others. A test asks the schema
inside for a test as long as the modifier does not depend on its output.
-/
import ValueSchema.Judgement.Basic
import ValueSchema.Schema.Basic

set_option autoImplicit false

namespace ValueSchema

/-- Whether asynchronous modifiers act. -/
inductive Mode
  | sync
  | async
deriving DecidableEq, Repr

/-- The output of an accepting verdict is handed on. -/
def Verdict.andThen (verdict : Verdict) (next : Value → Option Verdict) : Option Verdict :=
  match verdict with
  | .ok v => next v
  | .error e => some (.error e)

/-- The output of one judge is judged by the next. -/
def Judge.pipe (first next : Judge) : Judge := fun s v c => do
  let verdict ← first (s.child 0) v c
  verdict.andThen fun output => next (s.child 1) output c

/-- The input is mapped before it is judged. -/
def Judge.mapInput (answer : Site → Value → Except Crash Mapped) (inner : Judge) : Judge :=
  fun s v c =>
    (Verdict.ofMapped (answer (s.child 0) v) c).andThen fun input => inner (s.child 1) input c

/-- The output is mapped. -/
def Judge.mapOutput (answer : Site → Value → Except Crash Mapped) (inner : Judge) : Judge :=
  fun s v c => do
    let verdict ← inner (s.child 0) v c
    verdict.andThen fun output => some (Verdict.ofMapped (answer (s.child 1) output) c)

/-- The output has to pass. -/
def Judge.checkOutput (check : Context → Value → Verdict) (inner : Judge) : Judge :=
  fun s v c => do
    let verdict ← inner s v c
    verdict.andThen fun output => some (check c output)

namespace Modifier

/-- Judges around a judge. -/
def judge (mode : Mode) (m : Modifier) (inner : Judge) : Judge :=
  match m with
  | optional => fun s v c => if v.isUndefined then some (.ok .undefined) else inner s v c
  | nullable => fun s v c => if v.isNull then some (.ok .null) else inner s v c
  | nullish => fun s v c => if v.isUndefined || v.isNull then some (.ok v) else inner s v c
  | default standard => fun s v c => inner s (if v.isUndefined then standard else v) c
  | fallback replacement => fun s v c => do
    match ← inner s v c with
    | .ok output => some (.ok output)
    | .error _ => some (.ok replacement)
  | message text => fun s v c =>
    (inner s v c).map fun verdict => verdict.mapError (Issues.overrideMessage c.path text)
  | refine check text =>
    inner.checkOutput fun c output => Verdict.ofCheck (check output) text c output
  | superRefine refiner => inner.checkOutput fun c output => Verdict.ofRefiner refiner c output
  | transform mapper => inner.mapOutput mapper
  | preprocess mapper => inner.mapInput mapper
  | refineAsync check text =>
    match mode with
    | .sync => inner
    | .async =>
      inner.checkOutput fun c output => Verdict.ofCheck (check output).await text c output
  | transformAsync mapper =>
    match mode with
    | .sync => inner
    | .async => inner.mapOutput fun s v => (mapper s v).await
  | preprocessAsync mapper =>
    match mode with
    | .sync => inner
    | .async => inner.mapInput fun s v => (mapper s v).await

/-- Tests around a test; `full` judges with the modifier and everything inside it. -/
def test (m : Modifier) (inner : Test) (full : Judge) : Test :=
  match m with
  | optional => fun s v depth => if v.isUndefined then some true else inner s v depth
  | nullable => fun s v depth => if v.isNull then some true else inner s v depth
  | nullish => fun s v depth =>
    if v.isUndefined || v.isNull then some true else inner s v depth
  | default standard => fun s v depth => inner s (if v.isUndefined then standard else v) depth
  | fallback _ => fun _ _ _ => some true
  | refine _ _ => full.toTest
  | superRefine _ => full.toTest
  | transform _ => full.toTest
  | preprocess _ => full.toTest
  | _ => inner

end Modifier

end ValueSchema
