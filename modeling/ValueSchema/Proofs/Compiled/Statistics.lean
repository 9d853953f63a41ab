/-
What compiling counts.

Compiling visits the tree of a schema and counts as it goes. The tree can be told without
compiling: a node and everything below it, each node as often as it stands there, and nothing of
what is behind lazy references. The counts are read off that tree. Every node of it is counted once,
lazy references apart from all others, and a node counts as fast exactly if nothing in its own tree
has to be judged in full, which compiling decides child by child and the census over the whole tree.

The induction carries all counts at once, as a node adds its own to those of its children.
-/
import ValueSchema.Proofs.Compiled.Nodes

set_option autoImplicit false

namespace ValueSchema

/-- The children under the keys of a shape are mapped one by one. -/
theorem Shape.map_snd_fields {σ τ : Type} (f : σ → τ) (s : Shape σ) :
    (s.map f).fields.map Prod.snd = (s.fields.map Prod.snd).map f := by
  simp only [Shape.map, Keyed.mapValues, List.map_map, Function.comp_def]

/-! ## The tree of a schema -/

namespace Schema

/-- The nodes of the tree of a schema: the node itself and all nodes below it, each as often as it
occurs. Nothing stands below a lazy reference. -/
def nodes (s : Schema) : List Schema := s :: s.children.attach.flatMap fun t => nodes t.1
termination_by sizeOf s
decreasing_by exact sizeOf_lt_of_mem_children t.2

theorem nodes_eq (s : Schema) : s.nodes = s :: s.children.flatMap nodes := by
  rw [nodes, List.flatMap_subtype (fun _ _ => rfl), List.unattach_attach]

def isLazy : Schema → Bool
  | lazy _ => true
  | _ => false

/-- A node that is judged in full always, as its output cannot be told from an accepted input: what
is behind a lazy reference is not known yet, and intersections, pipes and code that decides about
outputs have to be run. -/
def judgedInFull : Schema → Bool
  | lazy _ => true
  | intersection _ => true
  | modified m _ => m.needsOutput
  | pipe _ _ => true
  | _ => false

/-- Nothing in the tree of a schema has to be judged in full. -/
def isFast (s : Schema) : Bool := s.nodes.all fun t => !t.judgedInFull

theorem isFast_eq (s : Schema) : s.isFast = (!s.judgedInFull && s.children.all isFast) := by
  rw [isFast, nodes_eq, List.all_cons, List.all_flatMap]
  rfl

/-- What a node itself is counted as. -/
def ownStats (s : Schema) (fast : Bool) : CompileStats :=
  if s.isLazy then .delegatedNode else .specializedNode fast

/-- The counts of some nodes. -/
def census (l : List Schema) : CompileStats where
  nodes := l.length
  specialized := l.countP fun t => !t.isLazy
  delegated := l.countP isLazy
  fastPath := l.countP isFast

theorem census_cons (s : Schema) (l : List Schema) :
    census (s :: l) = (s.ownStats s.isFast).add (census l) := by
  have hfast : s.isLazy = true → s.isFast = false := by
    intro h
    have hfull : s.judgedInFull = true := by
      cases s with
      | lazy ref => rfl
      | _ => cases h
    rw [isFast_eq, hfull]
    rfl
  unfold census ownStats
  simp only [List.length_cons, List.countP_cons]
  -- a node is counted as compiled or as left to its definition, and never fast in the second case
  cases hlazy : s.isLazy with
  | true =>
    rw [hfast hlazy]
    simp [CompileStats.add, CompileStats.delegatedNode, Nat.add_comm]
  | false =>
    cases s.isFast <;> simp [CompileStats.add, CompileStats.specializedNode, Nat.add_comm]

theorem census_append (l m : List Schema) :
    census (l ++ m) = (census l).add (census m) := by
  simp only [census, CompileStats.add, List.length_append, List.countP_append]

end Schema

/-! ## Sums of counts -/

theorem CompileStats.zero_add (a : CompileStats) : zero.add a = a := by
  simp only [add, zero, Nat.zero_add]

theorem CompileStats.add_assoc (a b c : CompileStats) : (a.add b).add c = a.add (b.add c) := by
  simp only [add, Nat.add_assoc]

/-- What nodes count is the census of their trees as soon as it is for each of them. -/
theorem Node.allStats_map {child : Schema → Node} {l : List Schema}
    (h : ∀ t ∈ l, (child t).stats = Schema.census t.nodes) :
    allStats (l.map child) = Schema.census (l.flatMap Schema.nodes) := by
  -- the sum is generalised over what was counted before
  have hfold : ∀ acc : CompileStats, (l.map child).foldl (fun acc n => acc.add n.stats) acc
      = acc.add (Schema.census (l.flatMap Schema.nodes)) := by
    induction l with
    | nil => exact fun acc => rfl
    | cons t rest ih =>
      intro acc
      have hrest := ih fun u hu => h u (List.mem_cons_of_mem t hu)
      rw [List.map_cons, List.foldl_cons, hrest, h t List.mem_cons_self, List.flatMap_cons,
        Schema.census_append, CompileStats.add_assoc]
  rw [allStats, hfold, CompileStats.zero_add]

/-! ## Outputs -/

theorem Output.isSome_all? (l : List (Option Output)) :
    (all? l).isSome = l.all Option.isSome := by
  induction l with
  | nil => rfl
  | cons o rest ih =>
    cases o with
    | none => rfl
    | some o =>
      rw [all?, Option.isSome_map, ih, List.all_cons, Option.isSome_some, Bool.true_and]

/-- A child that is not there lacks no output. -/
theorem Node.isSome_childOutput? (o : Option Node) :
    (childOutput? o).isSome = o.toList.all fun n => n.output.isSome := by
  cases o with
  | none => rfl
  | some n => simp [childOutput?]

/-- Two outputs make one exactly if both are there. -/
theorem Output.isSome_pair {α β : Type} (a : Option α) (b : Option β) (f : α → β → Output) :
    (a.bind fun x => b.bind fun y => some (f x y)).isSome = (a.isSome && b.isSome) := by
  cases a with
  | none => rfl
  | some x => cases b <;> rfl

/-- A modifier passes the output inside on, unless it needs the output itself. -/
theorem Output.isSome_modified (m : Modifier) (innerTest : Test) (inner : Output) :
    (modified m innerTest inner).isSome = !m.needsOutput := by
  cases m <;> rfl

namespace Schema

variable (resolve : Resolution) (child : Schema → Node)

/-- **A node has an output exactly if it is not judged in full** and all its children have one. -/
theorem isSome_nodeLayer_output (s : Schema) :
    (s.nodeLayer resolve child).output.isSome
      = (!s.judgedInFull && s.children.all fun t => (child t).output.isSome) := by
  have hlist : ∀ l : List Schema, (Output.all? ((l.map child).map Node.output)).isSome
      = l.all fun t => (child t).output.isSome := by
    intro l
    rw [Output.isSome_all?, List.all_map, List.all_map]
    rfl
  cases s with
  | object shape =>
    have hfields : (shape.map child).fields.map (fun f => f.2.output)
        = ((shape.fields.map Prod.snd).map child).map Node.output := by
      rw [← Shape.map_snd_fields, List.map_map]
      rfl
    show (((Output.all? ((shape.map child).fields.map _)).map _).map _).isSome = _
    rw [Option.isSome_map, Option.isSome_map, hfields, hlist]
    rfl
  | array element bounds | set element bounds =>
    show ((child element).output.map _).isSome = _
    rw [Option.isSome_map]
    exact (Bool.and_true _).symm
  | tuple items rest limits =>
    have hboth := Output.isSome_pair (Output.all? ((items.map child).map Node.output))
      (Node.childOutput? (rest.map child)) Output.tuple
    rw [hlist, Node.isSome_childOutput?, Option.toList_map, List.all_map] at hboth
    exact hboth.trans List.all_append.symm
  | record key value limits =>
    have hboth := Output.isSome_pair (Node.childOutput? (key.map child)) (child value).output
      Output.record
    rw [Node.isSome_childOutput?, Option.toList_map, List.all_map] at hboth
    have hchildren : (record key value limits).children = key.toList ++ [value] := rfl
    rw [hchildren, List.all_append, List.all_cons, List.all_nil, Bool.and_true]
    exact hboth
  | map key value limits =>
    have hboth := Output.isSome_pair (child key).output (child value).output Output.map
    have hchildren : (map key value limits).children = [key, value] := rfl
    rw [hchildren, List.all_cons, List.all_cons, List.all_nil, Bool.and_true]
    exact hboth
  | union options =>
    have hchildren : (union options).children = options := List.append_nil options
    show ((Output.all? ((options.map child).map Node.output)).map _).isSome = _
    rw [Option.isSome_map, hlist, hchildren]
    rfl
  | tagged discriminator options =>
    have hoptions : options.map (fun o => child (object o)) = (options.map object).map child :=
      List.map_map.symm
    have hchildren : (tagged discriminator options).children = options.map object :=
      List.append_nil _
    show ((Output.all? ((options.map _).map Node.output)).map _).isSome = _
    rw [Option.isSome_map, hoptions, hlist, hchildren]
    rfl
  | modified m inner =>
    have hchildren : (modified m inner).children = [inner] := rfl
    show ((child inner).output.bind _).isSome = _
    rw [hchildren, List.all_cons, List.all_nil, Bool.and_true]
    cases (child inner).output with
    | none => exact (Bool.and_false _).symm
    | some o => exact (Output.isSome_modified _ _ _).trans (Bool.and_true _).symm
  | _ => rfl

/-- A node counts itself and adds what its children count. -/
theorem nodeLayer_stats (s : Schema) :
    (s.nodeLayer resolve child).stats
      = (s.ownStats (s.nodeLayer resolve child).output.isSome).add
          (Node.allStats (s.children.map child)) := by
  -- a node counts what it maps over its parts, and its children are those parts
  have hcount : ∀ {own : CompileStats} {l m : List Node}, l = m →
      own.add (Node.allStats l) = own.add (Node.allStats m) := fun h => by rw [h]
  cases s with
  | object shape => exact hcount (shape.map_snd_fields child)
  | tuple items rest limits =>
    have hall : items.map child ++ (rest.map child).toList = (items ++ rest.toList).map child := by
      rw [List.map_append, Option.toList_map]
    exact hcount hall
  | record key value limits =>
    have hall : (key.map child).toList ++ [child value] = (key.toList ++ [value]).map child := by
      rw [List.map_append, Option.toList_map]
      rfl
    exact hcount hall
  | union options | intersection options =>
    have hall : options.map child = (options ++ []).map child := by rw [List.append_nil]
    exact hcount hall
  | tagged discriminator options =>
    have hall : options.map (fun o => child (object o))
        = (options.map object ++ []).map child := by
      rw [List.append_nil, List.map_map]
      rfl
    exact hcount hall
  | _ => rfl

/-- A compiled schema has an output exactly if nothing in its tree has to be judged in full. -/
theorem isSome_compile_output (s : Schema) : (s.compile resolve).output.isSome = s.isFast := by
  induction s using Schema.induction with
  | node s ih =>
    have hchildren : s.children.all (fun t => (t.compile resolve).output.isSome)
        = s.children.all isFast := by
      rw [Bool.eq_iff_iff, List.all_eq_true, List.all_eq_true]
      exact forall₂_congr fun t ht => by rw [ih t ht]
    rw [compile_eq_nodeLayer, isSome_nodeLayer_output, hchildren, isFast_eq]

/-- **Compiling counts the tree.** -/
theorem stats_compile (s : Schema) : (s.compile resolve).stats = census s.nodes := by
  induction s using Schema.induction with
  | node s ih =>
    rw [compile_eq_nodeLayer, nodeLayer_stats, ← compile_eq_nodeLayer, isSome_compile_output,
      Node.allStats_map ih, nodes_eq, census_cons]

/-- **What compiling counts.** However definitions are resolved: the nodes are all the nodes of the
tree of a schema, those left to their definitions are the lazy references among them, all others are
compiled, and a node has a builder for its output exactly if its own tree holds no lazy reference,
no intersection, no pipe and no refine, super_refine, transform or preprocess. -/
theorem compile_counts_tree (s : Schema) :
    (s.compile resolve).stats.nodes = s.nodes.length
      ∧ (s.compile resolve).stats.delegated = s.nodes.countP isLazy
      ∧ (s.compile resolve).stats.specialized + (s.compile resolve).stats.delegated
          = (s.compile resolve).stats.nodes
      ∧ (s.compile resolve).stats.fastPath
          = s.nodes.countP fun t => t.nodes.all fun u => !u.judgedInFull := by
  have hsplit := List.length_eq_countP_add_countP isLazy (l := s.nodes)
  simp only [Bool.not_eq_true, Bool.decide_eq_false] at hsplit
  rw [stats_compile]
  refine ⟨rfl, rfl, ?_, rfl⟩
  show s.nodes.countP (fun t => !t.isLazy) + s.nodes.countP isLazy = s.nodes.length
  omega

/-- A pipe keeps the union around it from being fast, not the array beside it. -/
example : (union [.pipe (.number .any) (.lazy ⟨"count", 0⟩),
    .array (.number .any) .any]).compileStats = ⟨6, 5, 1, 3⟩ := by decide

end Schema

end ValueSchema
