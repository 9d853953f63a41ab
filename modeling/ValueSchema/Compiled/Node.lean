/-
Compiled schemas.

Compiling walks a schema once. Text and number schemas get their plans; every node whose output
can be told from an accepted input gets a builder for it and judges by testing first, so that only
rejected inputs are judged in full. Lazy references are left to their definitions, and nodes that
run caller's code, intersections and pipes are judged in full always.

The statistics count what the walk has met.
-/
import ValueSchema.Compiled.Output
import ValueSchema.Evaluation

set_option autoImplicit false

namespace ValueSchema

/-! ## Statistics -/

/-- Counts of nodes: all of them, those compiled and those left to their definitions, and those
with a builder for the output. -/
structure CompileStats where
  nodes : Nat
  specialized : Nat
  delegated : Nat
  fastPath : Nat
deriving DecidableEq, Repr

namespace CompileStats

def zero : CompileStats := ⟨0, 0, 0, 0⟩

def add (a b : CompileStats) : CompileStats :=
  ⟨a.nodes + b.nodes, a.specialized + b.specialized, a.delegated + b.delegated,
    a.fastPath + b.fastPath⟩

/-- The count of one node that was compiled. -/
def specializedNode (fast : Bool) : CompileStats := ⟨1, 1, 0, if fast then 1 else 0⟩

/-- The count of one lazy reference. -/
def delegatedNode : CompileStats := ⟨1, 0, 1, 0⟩

end CompileStats

/-! ## Nodes -/

/-- A compiled schema: its evaluator, the output of accepted inputs if it can be told from them,
and the statistics of the walk. -/
structure Node where
  judge : Judge
  test : Test
  output : Option Output
  stats : CompileStats

namespace Node

/-- The judge that tests first and judges in full only what the test rejects. -/
def fastJudge (judge : Judge) (test : Test) (output : Output) : Judge := fun s v c => do
  if ← test s v c.depth then (output.apply s v c.depth).map .ok else judge s v c

/-- The statistics of several nodes. -/
def allStats (children : List Node) : CompileStats :=
  children.foldl (fun acc child => acc.add child.stats) CompileStats.zero

/-- A node from its judge, its test, its output and its children. -/
def new (judge : Judge) (test : Test) (output : Option Output) (children : List Node) : Node :=
  ⟨match output with
    | some o => fastJudge judge test o
    | none => judge,
    test, output, (CompileStats.specializedNode output.isSome).add (allStats children)⟩

/-- A node that looks at one value only and has an output of its own. -/
def leafWith (run : Context → Value → Verdict) (accepts : Value → Bool) (output : Output) :
    Node :=
  new (fun _ v c => some (run c v)) (fun _ v _ => some (accepts v)) (some output) []

/-- A node that looks at one value only and puts it out. -/
def leaf (run : Context → Value → Verdict) (accepts : Value → Bool) : Node :=
  leafWith run accepts .same

/-- The node of texts. -/
def text (t : TextSchema) : Node :=
  let plan := t.plan
  let accepts (v : Value) : Bool :=
    match v with
    | .string s => plan.accepts s
    | _ => false
  let output : Output :=
    if t.transforms.isEmpty then .same
    else
      .build fun _ v _ =>
        match v with
        | .string s => some (.string (t.output s))
        | v => some v
  leafWith t.run accepts output

/-- The node of numbers. -/
def number (n : NumberSchema) : Node :=
  let plan := n.plan
  let accepts (v : Value) : Bool :=
    match v with
    | .number x => plan.accepts x
    | _ => false
  leaf n.run accepts

/-- The outputs under the keys of a shape, if every field has its output. -/
def shapeOutput? (shape : Shape Node) : Option (Shape Output) :=
  (Output.all? (shape.fields.map fun f => f.2.output)).map fun outputs =>
    ⟨(shape.fields.map Prod.fst).zip outputs, shape.unknown, shape.limits⟩

/-- The node of objects. -/
def object (shape : Shape Node) : Node :=
  new (shape.map judge).judge (shape.map test).test ((shapeOutput? shape).map Output.object)
    (shape.fields.map Prod.snd)

/-- The node of arrays. -/
def array (element : Node) (bounds : ArrayBounds) : Node :=
  new (bounds.judge element.judge) (bounds.test element.test)
    (element.output.map Output.array) [element]

/-- The output of a child that may be absent, if a present one has its output. -/
def childOutput? : Option Node → Option (Option Output)
  | none => some none
  | some child => child.output.map some

/-- The node of tuples. -/
def tuple (items : List Node) (rest : Option Node) (limits : Limits) : Node :=
  let output : Option Output := do
    some (Output.tuple (← Output.all? (items.map Node.output)) (← childOutput? rest))
  new (Tuple.judge (items.map judge) (rest.map judge) limits)
    (Tuple.test (items.map test) (rest.map test) limits) output (items ++ rest.toList)

/-- The node of records. -/
def record (key : Option Node) (value : Node) (limits : Limits) : Node :=
  let output : Option Output := do
    some (Output.record (← childOutput? key) (← value.output))
  new (Record.judge (key.map judge) value.judge limits)
    (Record.test (key.map test) value.test limits) output (key.toList ++ [value])

/-- The node of maps. -/
def map (key value : Node) (limits : Limits) : Node :=
  let output : Option Output := do
    some (Output.map (← key.output) (← value.output))
  new (Dictionary.judge key.judge value.judge limits)
    (Dictionary.test key.test value.test limits) output [key, value]

/-- The node of sets. -/
def set (element : Node) (bounds : SetBounds) : Node :=
  new (bounds.judge element.judge) (bounds.test element.test)
    (element.output.map Output.set) [element]

/-- The node of unions. -/
def union (options : List Node) : Node :=
  let tests := options.map test
  new (Union.judge (options.map judge)) (Union.test tests)
    ((Output.all? (options.map Node.output)).map (Output.union tests)) options

/-- The node of tagged unions. -/
def tagged (discriminator : String) (literals : List (Option Value)) (options : List Node) :
    Node :=
  new (Tagged.judge discriminator literals (options.map judge))
    (Tagged.test discriminator literals (options.map test))
    ((Output.all? (options.map Node.output)).map (Output.tagged discriminator literals)) options

/-- The node of intersections. -/
def intersection (branches : List Node) : Node :=
  let judge := Intersection.judge (branches.map Node.judge)
  new judge judge.toTest none branches

/-- The node of lazy references. -/
def lazy (resolve : Resolution) (ref : Reference) : Node :=
  ⟨fun s v c => (resolve ref).judge s v c, fun s v depth => (resolve ref).test s v depth, none,
    CompileStats.delegatedNode⟩

/-- The node of a modifier. -/
def modified (m : Modifier) (inner : Node) : Node :=
  let judge := m.judge .sync inner.judge
  new judge (m.test inner.test judge) (inner.output.bind (Output.modified m inner.test)) [inner]

/-- The node of a pipe. -/
def pipe (first next : Node) : Node :=
  let judge := first.judge.pipe next.judge
  new judge judge.toTest none [first, next]

end Node

/-! ## Compiling -/

namespace Schema

mutual

/-- The compiled form of a schema. -/
def compile (resolve : Resolution) : Schema → Node
  | text t => .text t
  | number n => .number n
  | integer n => .leaf n.run n.accepts
  | date d => .leaf d.run d.accepts
  | plain p => .leaf p.run p.accepts
  | literal v => .leaf (Literal.run v) (Literal.accepts v)
  | words options => .leaf (Words.run options) (Words.accepts options)
  | enumeration entries => .leaf (Enumeration.run entries) (Enumeration.accepts entries)
  | object shape => .object (compileShape resolve shape)
  | array element bounds => .array (compile resolve element) bounds
  | tuple items rest limits => .tuple (compileAll resolve items) (compile? resolve rest) limits
  | record key value limits => .record (compile? resolve key) (compile resolve value) limits
  | map key value limits => .map (compile resolve key) (compile resolve value) limits
  | set element bounds => .set (compile resolve element) bounds
  | union options => .union (compileAll resolve options)
  | tagged discriminator options =>
    .tagged discriminator (Tagged.literals discriminator options)
      ((compileShapes resolve options).map Node.object)
  | intersection branches => .intersection (compileAll resolve branches)
  | lazy ref => .lazy resolve ref
  | modified m inner => .modified m (compile resolve inner)
  | pipe first next => .pipe (compile resolve first) (compile resolve next)

def compileAll (resolve : Resolution) : List Schema → List Node
  | [] => []
  | s :: rest => compile resolve s :: compileAll resolve rest

def compile? (resolve : Resolution) : Option Schema → Option Node
  | none => none
  | some s => some (compile resolve s)

def compileFields (resolve : Resolution) : List (String × Schema) → List (String × Node)
  | [] => []
  | (key, s) :: rest => (key, compile resolve s) :: compileFields resolve rest

def compileShape (resolve : Resolution) : Shape Schema → Shape Node
  | ⟨fields, unknown, limits⟩ => ⟨compileFields resolve fields, unknown, limits⟩

def compileShapes (resolve : Resolution) : List (Shape Schema) → List (Shape Node)
  | [] => []
  | shape :: rest => compileShape resolve shape :: compileShapes resolve rest

end

/-- The statistics of compiling a schema. -/
def compileStats (schema : Schema) : CompileStats :=
  (schema.compile fun _ => .unresolved).stats

end Schema

/-! ## Judging values -/

/-- The compiled form of a schema for the judgement of a value. -/
def Family.compiled (family : Family) (schema : Schema) (v : Value) : Node :=
  schema.compile (family.resolution .sync (family.budget schema v))

namespace Schema

/-- Judges a value at a context by the compiled schema. -/
def validateCompiledIn (schema : Schema) (family : Family) (v : Value) (c : Context) :
    Option Verdict :=
  (family.compiled schema v).judge (family.start schema v) v c

/-- Judges a value at the root by the compiled schema. -/
def validateCompiled (schema : Schema) (family : Family) (v : Value) : Option Verdict :=
  schema.validateCompiledIn family v Context.root

/-- Tests a value at a depth by the compiled schema. -/
def acceptsCompiledIn (schema : Schema) (family : Family) (v : Value) (depth : Nat) :
    Option Bool :=
  (family.compiled schema v).test (family.start schema v) v depth

/-- Asynchronous judgements of a compiled schema are those of the schema. -/
def validateCompiledAsyncIn (schema : Schema) (family : Family) (v : Value) (c : Context) :
    Option Verdict :=
  schema.validateAsyncIn family v c

end Schema

end ValueSchema
