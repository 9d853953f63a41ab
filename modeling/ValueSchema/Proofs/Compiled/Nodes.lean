/-
Compiled schemas layer by layer.

A node is compiled to the layer of its kind over its compiled children. A node whose output can be
told from an accepted input then judges by testing first, and that is all that compiling changes:
the parts are put together as an evaluator puts them together, and plans accept what the checks
accept that they were folded from.
-/
import ValueSchema.Compiled.Node
import ValueSchema.Proofs.Layer
import ValueSchema.Proofs.Plans

set_option autoImplicit false

namespace ValueSchema

/-- The two functions of a compiled node. -/
def Node.evaluator (n : Node) : Evaluator := ⟨n.judge, n.test⟩

namespace Schema

variable (resolve : Resolution)

/-! ## Lists of schemas -/

theorem compileAll_eq_map (l : List Schema) : compileAll resolve l = l.map (compile resolve) := by
  induction l with
  | nil => rfl
  | cons s rest ih => simp only [compileAll, List.map_cons, ih]

theorem compile?_eq_map (o : Option Schema) : compile? resolve o = o.map (compile resolve) := by
  cases o <;> rfl

theorem compileFields_eq_mapValues (l : List (String × Schema)) :
    compileFields resolve l = Keyed.mapValues (compile resolve) l := by
  induction l with
  | nil => rfl
  | cons f rest ih => simp only [compileFields, ih, Keyed.mapValues, List.map_cons]

theorem compileShape_eq_map (shape : Shape Schema) :
    compileShape resolve shape = shape.map (compile resolve) := by
  obtain ⟨fields, unknown, limits⟩ := shape
  simp only [compileShape, Shape.map, compileFields_eq_mapValues]

/-- An option of a tagged union is compiled as the object that it is. -/
theorem compileShapes_eq_map (l : List (Shape Schema)) :
    (compileShapes resolve l).map Node.object = l.map fun o => (object o).compile resolve := by
  induction l with
  | nil => rfl
  | cons shape rest ih => simp only [compileShapes, List.map_cons, ih, compile]

/-! ## Nodes -/

/-- The layer of a node over its compiled children: what compiling makes of the node before its
judge is put behind its test. -/
def raw (s : Schema) : Evaluator :=
  s.layer .sync resolve fun t => (t.compile resolve).evaluator

/-- A compiled text tests as the text schema does. -/
theorem text_test (t : TextSchema) : (Node.text t).test = fun _ v _ => some (t.accepts v) := by
  funext s v depth
  cases v with
  | string text => exact congrArg some (t.plan_accepts_eq text)
  | _ => rfl

/-- A compiled number tests as the number schema does. -/
theorem number_test (n : NumberSchema) :
    (Node.number n).test = fun _ v _ => some (n.accepts v) := by
  funext s v depth
  cases v with
  | number x => exact congrArg some (n.plan_accepts_eq x)
  | _ => rfl

/-- What is behind a node: the judge and the test of its layer. -/
def Over (n : Node) (e : Evaluator) : Prop :=
  n.test = e.test
    ∧ n.judge = match n.output with
      | some o => Node.fastJudge e.judge e.test o
      | none => e.judge

theorem over_new (judge : Judge) (test : Test) (output : Option Output) (children : List Node) :
    Over (Node.new judge test output children) ⟨judge, test⟩ := by
  cases output <;> exact ⟨rfl, rfl⟩

/-- The tests of plans are replaced by those they are equal to. -/
theorem over_of_test {n : Node} {judge : Judge} {test : Test} (h : n.test = test)
    (hn : Over n ⟨judge, n.test⟩) : Over n ⟨judge, test⟩ :=
  h ▸ hn

/-- The node of a schema over nodes of its children. -/
def nodeLayer (child : Schema → Node) : Schema → Node
  | text t => .text t
  | number n => .number n
  | integer n => .leaf n.run n.accepts
  | date d => .leaf d.run d.accepts
  | plain p => .leaf p.run p.accepts
  | literal v => .leaf (Literal.run v) (Literal.accepts v)
  | words options => .leaf (Words.run options) (Words.accepts options)
  | enumeration entries => .leaf (Enumeration.run entries) (Enumeration.accepts entries)
  | object shape => .object (shape.map child)
  | array element bounds => .array (child element) bounds
  | tuple items rest limits => .tuple (items.map child) (rest.map child) limits
  | record key value limits => .record (key.map child) (child value) limits
  | map key value limits => .map (child key) (child value) limits
  | set element bounds => .set (child element) bounds
  | union options => .union (options.map child)
  | tagged discriminator options =>
    .tagged discriminator (Tagged.literals discriminator options)
      (options.map fun o => child (object o))
  | intersection branches => .intersection (branches.map child)
  | lazy ref => .lazy resolve ref
  | modified m inner => .modified m (child inner)
  | pipe first next => .pipe (child first) (child next)

/-- **A schema is compiled layer by layer.** -/
theorem compile_eq_nodeLayer (s : Schema) :
    s.compile resolve = s.nodeLayer resolve (compile resolve) := by
  cases s <;>
    simp only [compile, nodeLayer, compileAll_eq_map, compile?_eq_map, compileShape_eq_map,
      compileShapes_eq_map]

/-- **A node is its layer behind a test.** -/
theorem nodeLayer_over (child : Schema → Node) (s : Schema) :
    Over (s.nodeLayer resolve child) (s.layer .sync resolve fun t => (child t).evaluator) := by
  cases s with
  | text t => exact over_of_test (text_test t) (over_new _ _ _ _)
  | number n => exact over_of_test (number_test n) (over_new _ _ _ _)
  | integer n => exact over_new _ _ _ _
  | date d => exact over_new _ _ _ _
  | plain p => exact over_new _ _ _ _
  | literal v => exact over_new _ _ _ _
  | words options => exact over_new _ _ _ _
  | enumeration entries => exact over_new _ _ _ _
  -- what a node maps over its children, the layer maps over the schemas
  | object shape =>
    simp only [nodeLayer, Node.object, Shape.map_map]
    exact over_new _ _ _ _
  | array element bounds => exact over_new _ _ _ _
  | tuple items rest limits =>
    simp only [nodeLayer, Node.tuple, List.map_map, Option.map_map, Function.comp_def]
    exact over_new _ _ _ _
  | record key value limits =>
    simp only [nodeLayer, Node.record, Option.map_map, Function.comp_def]
    exact over_new _ _ _ _
  | map key value limits => exact over_new _ _ _ _
  | set element bounds => exact over_new _ _ _ _
  | union options =>
    simp only [nodeLayer, Node.union, List.map_map, Function.comp_def]
    exact over_new _ _ _ _
  | tagged discriminator options =>
    simp only [nodeLayer, Node.tagged, List.map_map, Function.comp_def]
    exact over_new _ _ _ _
  | intersection branches =>
    simp only [nodeLayer, Node.intersection, List.map_map, Function.comp_def]
    exact over_new _ _ _ _
  | lazy ref => exact ⟨rfl, rfl⟩
  | modified m inner => exact over_new _ _ _ _
  | pipe first next => exact over_new _ _ _ _

/-- A schema is compiled to its layer behind a test. -/
theorem compile_over (s : Schema) : Over (s.compile resolve) (s.raw resolve) := by
  rw [compile_eq_nodeLayer]
  exact nodeLayer_over resolve (compile resolve) s

theorem compile_test (s : Schema) : (s.compile resolve).test = (s.raw resolve).test :=
  (compile_over resolve s).1

variable {resolve}

theorem compile_judge_of_none {s : Schema} (h : (s.compile resolve).output = none) :
    (s.compile resolve).judge = (s.raw resolve).judge := by
  rw [(compile_over resolve s).2, h]

theorem compile_judge_of_some {s : Schema} {o : Output}
    (h : (s.compile resolve).output = some o) :
    (s.compile resolve).judge = Node.fastJudge (s.raw resolve).judge (s.raw resolve).test o := by
  rw [(compile_over resolve s).2, h]

end Schema

end ValueSchema
