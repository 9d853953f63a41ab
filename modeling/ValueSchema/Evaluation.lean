/-
Evaluation of schemas.

Every schema comes to an evaluator, built from the evaluators of its children once what lazy
references mean is settled. That meaning comes from a family of definitions, unfolded a bounded
number of times: as long as every cycle of references passes through a container, the depth guard
ends the descent before the bound is reached, and the bound is never seen.
-/
import ValueSchema.Judgement.Object
import ValueSchema.Judgement.Sequence
import ValueSchema.Judgement.Entry
import ValueSchema.Judgement.Union
import ValueSchema.Judgement.Intersection
import ValueSchema.Judgement.Modified
import ValueSchema.Judgement.Awaited

set_option autoImplicit false

namespace ValueSchema

/-! ## Evaluators of single schemas -/

/-- What lazy references mean. -/
abbrev Resolution := Reference → Evaluator

namespace Schema

mutual

/-- The evaluator of a schema. -/
def evaluator (mode : Mode) (resolve : Resolution) : Schema → Evaluator
  | text t => .leaf t.run t.accepts
  | number n => .leaf n.run n.accepts
  | integer n => .leaf n.run n.accepts
  | date d => .leaf d.run d.accepts
  | plain p => .leaf p.run p.accepts
  | literal v => .leaf (Literal.run v) (Literal.accepts v)
  | words options => .leaf (Words.run options) (Words.accepts options)
  | enumeration entries => .leaf (Enumeration.run entries) (Enumeration.accepts entries)
  | object shape =>
    let children := shapeEvaluator mode resolve shape
    ⟨(children.map Evaluator.judge).judge, (children.map Evaluator.test).test⟩
  | array element bounds =>
    let child := evaluator mode resolve element
    ⟨bounds.judge child.judge, bounds.test child.test⟩
  | tuple items rest limits =>
    let children := evaluators mode resolve items
    let child := evaluator? mode resolve rest
    ⟨Tuple.judge (children.map Evaluator.judge) (child.map Evaluator.judge) limits,
      Tuple.test (children.map Evaluator.test) (child.map Evaluator.test) limits⟩
  | record key value limits =>
    let keyChild := evaluator? mode resolve key
    let valueChild := evaluator mode resolve value
    ⟨Record.judge (keyChild.map Evaluator.judge) valueChild.judge limits,
      Record.test (keyChild.map Evaluator.test) valueChild.test limits⟩
  | map key value limits =>
    let keyChild := evaluator mode resolve key
    let valueChild := evaluator mode resolve value
    ⟨Dictionary.judge keyChild.judge valueChild.judge limits,
      Dictionary.test keyChild.test valueChild.test limits⟩
  | set element bounds =>
    let child := evaluator mode resolve element
    ⟨bounds.judge child.judge, bounds.test child.test⟩
  | union options =>
    let children := evaluators mode resolve options
    ⟨Union.judge (children.map Evaluator.judge), Union.test (children.map Evaluator.test)⟩
  | tagged discriminator options =>
    let children := shapeEvaluators mode resolve options
    let literals := Tagged.literals discriminator options
    ⟨Tagged.judge discriminator literals
        (children.map fun child => (child.map Evaluator.judge).judge),
      Tagged.test discriminator literals
        (children.map fun child => (child.map Evaluator.test).test)⟩
  | intersection branches =>
    let children := evaluators mode resolve branches
    let judge := Intersection.judge (children.map Evaluator.judge)
    ⟨judge, judge.toTest⟩
  | lazy ref =>
    ⟨fun s v c => (resolve ref).judge s v c, fun s v depth => (resolve ref).test s v depth⟩
  | modified modifier inner =>
    let child := evaluator mode resolve inner
    let judge := modifier.judge mode child.judge
    ⟨judge, modifier.test child.test judge⟩
  | pipe first next =>
    let firstChild := evaluator mode resolve first
    let nextChild := evaluator mode resolve next
    let judge := firstChild.judge.pipe nextChild.judge
    ⟨judge, judge.toTest⟩

/-- The evaluators of several schemas. -/
def evaluators (mode : Mode) (resolve : Resolution) : List Schema → List Evaluator
  | [] => []
  | s :: rest => evaluator mode resolve s :: evaluators mode resolve rest

/-- The evaluator of a schema that may be absent. -/
def evaluator? (mode : Mode) (resolve : Resolution) : Option Schema → Option Evaluator
  | none => none
  | some s => some (evaluator mode resolve s)

/-- The evaluators of fields. -/
def fieldEvaluators (mode : Mode) (resolve : Resolution) :
    List (String × Schema) → List (String × Evaluator)
  | [] => []
  | (key, s) :: rest =>
    (key, evaluator mode resolve s) :: fieldEvaluators mode resolve rest

/-- The shape of evaluators of a shape of schemas. -/
def shapeEvaluator (mode : Mode) (resolve : Resolution) : Shape Schema → Shape Evaluator
  | ⟨fields, unknown, limits⟩ => ⟨fieldEvaluators mode resolve fields, unknown, limits⟩

/-- The shapes of evaluators of several shapes of schemas. -/
def shapeEvaluators (mode : Mode) (resolve : Resolution) :
    List (Shape Schema) → List (Shape Evaluator)
  | [] => []
  | shape :: rest => shapeEvaluator mode resolve shape :: shapeEvaluators mode resolve rest

end

end Schema

/-! ## Waiting judges of single schemas -/

namespace Schema

mutual

/-- The judge of a schema that waits for deferred code. -/
def awaiter (resolve : Reference → Judge) : Schema → Judge
  | text t => fun _ v c => some (t.run c v)
  | number n => fun _ v c => some (n.run c v)
  | integer n => fun _ v c => some (n.run c v)
  | date d => fun _ v c => some (d.run c v)
  | plain p => fun _ v c => some (p.run c v)
  | literal expected => fun _ v c => some (Literal.run expected c v)
  | words options => fun _ v c => some (Words.run options c v)
  | enumeration entries => fun _ v c => some (Enumeration.run entries c v)
  | object shape => (shapeAwaiter resolve shape).await
  | array element bounds => bounds.await (awaiter resolve element)
  | tuple items rest limits =>
    Tuple.await (awaiters resolve items) (awaiter? resolve rest) limits
  | record key value limits =>
    Record.await (awaiter? resolve key) (awaiter resolve value) limits
  | map key value limits =>
    Dictionary.await (awaiter resolve key) (awaiter resolve value) limits
  | set element bounds => bounds.await (awaiter resolve element)
  | union options => Union.await (awaiters resolve options)
  | tagged discriminator options =>
    Tagged.judge discriminator (Tagged.literals discriminator options)
      ((shapeAwaiters resolve options).map Shape.await)
  | intersection branches => Intersection.await (awaiters resolve branches)
  | lazy ref => resolve ref
  | modified modifier inner => modifier.await (awaiter resolve inner)
  | pipe first next => (awaiter resolve first).pipe (awaiter resolve next)

/-- The waiting judges of several schemas. -/
def awaiters (resolve : Reference → Judge) : List Schema → List Judge
  | [] => []
  | s :: rest => awaiter resolve s :: awaiters resolve rest

/-- The waiting judge of a schema that may be absent. -/
def awaiter? (resolve : Reference → Judge) : Option Schema → Option Judge
  | none => none
  | some s => some (awaiter resolve s)

/-- The waiting judges of fields. -/
def fieldAwaiters (resolve : Reference → Judge) : List (String × Schema) → List (String × Judge)
  | [] => []
  | (key, s) :: rest => (key, awaiter resolve s) :: fieldAwaiters resolve rest

/-- The shape of waiting judges of a shape of schemas. -/
def shapeAwaiter (resolve : Reference → Judge) : Shape Schema → Shape Judge
  | ⟨fields, unknown, limits⟩ => ⟨fieldAwaiters resolve fields, unknown, limits⟩

/-- The shapes of waiting judges of several shapes of schemas. -/
def shapeAwaiters (resolve : Reference → Judge) : List (Shape Schema) → List (Shape Judge)
  | [] => []
  | shape :: rest => shapeAwaiter resolve shape :: shapeAwaiters resolve rest

end

end Schema

/-! ## Families of definitions -/

/-- The definitions that lazy references name. -/
abbrev Family := List (String × Schema)

/-- What references mean when definitions are unfolded at most so many times inside each other. -/
def Family.resolution (family : Family) (mode : Mode) : Nat → Resolution
  | 0, _ => .unresolved
  | budget + 1, ref =>
    match Keyed.find? ref.name family with
    | some definition => definition.evaluator mode (family.resolution mode budget)
    | none => .unresolved

/-- What references mean to judges that wait. -/
def Family.awaited (family : Family) : Nat → Reference → Judge
  | 0, _ => fun _ _ _ => none
  | budget + 1, ref =>
    match Keyed.find? ref.name family with
    | some definition => definition.awaiter (family.awaited budget)
    | none => fun _ _ _ => none

namespace Schema

mutual

/-- The greatest depth that a container of a schema allows. -/
def depthLimit : Schema → Nat
  | object shape => shapeDepthLimit shape
  | array element bounds => max bounds.limits.maxDepth (depthLimit element)
  | tuple items rest limits =>
    max limits.maxDepth (max (depthLimits items) (depthLimit? rest))
  | record key value limits => max limits.maxDepth (max (depthLimit? key) (depthLimit value))
  | map key value limits => max limits.maxDepth (max (depthLimit key) (depthLimit value))
  | set element bounds => max bounds.limits.maxDepth (depthLimit element)
  | union options => depthLimits options
  | tagged _ options => shapeDepthLimits options
  | intersection branches => depthLimits branches
  | modified _ inner => depthLimit inner
  | pipe first next => max (depthLimit first) (depthLimit next)
  | _ => 0

def depthLimits : List Schema → Nat
  | [] => 0
  | s :: rest => max (depthLimit s) (depthLimits rest)

def depthLimit? : Option Schema → Nat
  | none => 0
  | some s => depthLimit s

def fieldDepthLimits : List (String × Schema) → Nat
  | [] => 0
  | (_, s) :: rest => max (depthLimit s) (fieldDepthLimits rest)

def shapeDepthLimit : Shape Schema → Nat
  | ⟨fields, _, limits⟩ => max limits.maxDepth (fieldDepthLimits fields)

def shapeDepthLimits : List (Shape Schema) → Nat
  | [] => 0
  | shape :: rest => max (shapeDepthLimit shape) (shapeDepthLimits rest)

end

end Schema

/-- The greatest depth that a container of a definition allows. -/
def Family.depthLimit (family : Family) : Nat := Schema.fieldDepthLimits family

/-- How often definitions are unfolded inside each other at most: a container that is reached at
one level more than the limit refuses, and between two containers every definition is unfolded at
most once. The height of the value covers schemas that descend through it by preprocessing. -/
def Family.budget (family : Family) (schema : Schema) (v : Value) : Nat :=
  (max schema.depthLimit family.depthLimit + v.height + 3) * (family.length + 1)

/-! ## Judging values -/

namespace Schema

mutual

/-- One more than the greatest run that built a constant of a schema. -/
def nextRun : Schema → Nat
  | literal v => v.nextRun
  | enumeration entries => Value.nextRunFields entries
  | object shape => shapeNextRun shape
  | array element _ => nextRun element
  | tuple items rest _ => max (nextRuns items) (nextRun? rest)
  | record key value _ => max (nextRun? key) (nextRun value)
  | map key value _ => max (nextRun key) (nextRun value)
  | set element _ => nextRun element
  | union options => nextRuns options
  | tagged _ options => shapeNextRuns options
  | intersection branches => nextRuns branches
  | modified modifier inner =>
    max (match modifier with
      | .default v => v.nextRun
      | .fallback v => v.nextRun
      | _ => 0) (nextRun inner)
  | pipe first next => max (nextRun first) (nextRun next)
  | _ => 0

def nextRuns : List Schema → Nat
  | [] => 0
  | s :: rest => max (nextRun s) (nextRuns rest)

def nextRun? : Option Schema → Nat
  | none => 0
  | some s => nextRun s

def fieldNextRuns : List (String × Schema) → Nat
  | [] => 0
  | (_, s) :: rest => max (nextRun s) (fieldNextRuns rest)

def shapeNextRun : Shape Schema → Nat
  | ⟨fields, _, _⟩ => fieldNextRuns fields

def shapeNextRuns : List (Shape Schema) → Nat
  | [] => 0
  | shape :: rest => max (shapeNextRun shape) (shapeNextRuns rest)

end

end Schema

/-- Where the judgement of a value starts, so that what it builds is new to the value and to the
constants of the schema. -/
def Family.start (family : Family) (schema : Schema) (v : Value) : Site :=
  Site.root (max v.nextRun (max schema.nextRun (Schema.fieldNextRuns family)))

/-- The evaluator of a schema for the judgement of a value. -/
def Family.evaluator (family : Family) (mode : Mode) (schema : Schema) (v : Value) : Evaluator :=
  schema.evaluator mode (family.resolution mode (family.budget schema v))

namespace Schema

/-- Judges a value at a context. -/
def validateIn (schema : Schema) (family : Family) (v : Value) (c : Context) : Option Verdict :=
  (family.evaluator .sync schema v).judge (family.start schema v) v c

/-- Judges a value at the root. -/
def validate (schema : Schema) (family : Family) (v : Value) : Option Verdict :=
  schema.validateIn family v Context.root

/-- Judges a value under a path. -/
def validateAt (schema : Schema) (family : Family) (v : Value) (path : String) :
    Option Verdict :=
  schema.validateIn family v (Context.atPath path)

/-- Judges a value and drops the output. -/
def assert (schema : Schema) (family : Family) (v : Value) : Option (Except Issues Unit) :=
  (schema.validate family v).map fun verdict => verdict.map fun _ => ()

/-- Judges a value at a context and waits for deferred code. -/
def validateAsyncIn (schema : Schema) (family : Family) (v : Value) (c : Context) :
    Option Verdict :=
  schema.awaiter (family.awaited (family.budget schema v)) (family.start schema v) v c

/-- Tests a value at a depth. -/
def acceptsIn (schema : Schema) (family : Family) (v : Value) (depth : Nat) : Option Bool :=
  (family.evaluator .sync schema v).test (family.start schema v) v depth

/-- Tests a value. -/
def accepts (schema : Schema) (family : Family) (v : Value) : Option Bool :=
  schema.acceptsIn family v 0

/-- The judgement of a value needs the definition behind one lazy reference, as it comes to
nothing without. -/
def resolves (schema : Schema) (family : Family) (v : Value) (cell : Nat) : Bool :=
  let resolve := family.resolution .sync (family.budget schema v)
  let without (ref : Reference) : Evaluator :=
    if ref.cell = cell then .unresolved else resolve ref
  ((schema.evaluator .sync without).judge (family.start schema v) v Context.root).isNone

end Schema

end ValueSchema
