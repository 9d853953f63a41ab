/-
Schemas one layer at a time.

A schema is a tree of nodes. `Schema.children` lists the schemas directly below a node,
`Schema.layer` is the evaluator of a node over any evaluators of its children, and
`evaluator_eq_layer` says that the evaluator of a schema is nothing but layers put on each other.
So a property of evaluators is proved once for a layer, by one case per kind of node, and follows
for every schema by the one induction of this file; compiled schemas share the layer, as their
judges and tests are put together from the same parts.

An option of a tagged union counts as the object schema that it is.
-/
import ValueSchema.Evaluation

set_option autoImplicit false

namespace ValueSchema

/-- Maps over the children of a shape go one after the other or both at once. -/
theorem Shape.map_map {σ τ υ : Type} (f : σ → τ) (g : τ → υ) (s : Shape σ) :
    (s.map f).map g = s.map fun x => g (f x) := by
  simp only [Shape.map, Keyed.mapValues, List.map_map, Function.comp_def]

theorem Shape.map_congr {σ τ : Type} {f g : σ → τ} {shape : Shape σ}
    (h : ∀ x ∈ shape.fields, f x.2 = g x.2) : shape.map f = shape.map g := by
  simp only [Shape.map, Keyed.mapValues]
  rw [List.map_congr_left fun x hx => by rw [h x hx]]

namespace Schema

/-! ## Children -/

/-- The schemas whose judgement of a value is asked at the depth of the node. -/
def bare : Schema → List Schema
  | union options => options
  | tagged _ options => options.map object
  | intersection branches => branches
  | modified _ inner => [inner]
  | pipe first next => [first, next]
  | _ => []

/-- The schemas that judge the parts of a container, one level below the node. -/
def held : Schema → List Schema
  | object shape => shape.fields.map Prod.snd
  | array element _ => [element]
  | tuple items rest _ => items ++ rest.toList
  | record key value _ => key.toList ++ [value]
  | map key value _ => [key, value]
  | set element _ => [element]
  | _ => []

/-- The schemas directly below a node. A definition behind a lazy reference is none of them. -/
def children (s : Schema) : List Schema := s.bare ++ s.held

theorem mem_children {c s : Schema} : c ∈ s.children ↔ c ∈ s.bare ∨ c ∈ s.held := by
  simp only [children, List.mem_append]

theorem mem_children_of_bare {c s : Schema} (h : c ∈ s.bare) : c ∈ s.children :=
  mem_children.mpr (.inl h)

theorem mem_children_of_held {c s : Schema} (h : c ∈ s.held) : c ∈ s.children :=
  mem_children.mpr (.inr h)

/-- A child is smaller than its node, which is what the induction below rests on. -/
theorem sizeOf_lt_of_mem_children {c s : Schema} (h : c ∈ s.children) : sizeOf c < sizeOf s := by
  -- a child is an argument of its node, or an element of a list that is one
  cases s with
  | object shape =>
    obtain ⟨fields, unknown, limits⟩ := shape
    simp only [children, bare, held, List.nil_append, List.mem_map] at h
    obtain ⟨f, hf, rfl⟩ := h
    have hlt := List.sizeOf_lt_of_mem hf
    obtain ⟨key, s⟩ := f
    simp only [object.sizeOf_spec, Shape.mk.sizeOf_spec, Prod.mk.sizeOf_spec] at hlt ⊢
    omega
  | tuple items rest limits =>
    simp only [children, bare, held, List.nil_append, List.mem_append, Option.mem_toList] at h
    rcases h with h | h
    · have hlt := List.sizeOf_lt_of_mem h
      simp only [tuple.sizeOf_spec]
      omega
    · subst h
      simp only [tuple.sizeOf_spec, Option.some.sizeOf_spec]
      omega
  | record key value limits =>
    simp only [children, bare, held, List.nil_append, List.mem_append, Option.mem_toList,
      List.mem_singleton] at h
    rcases h with h | h
    · subst h
      simp only [record.sizeOf_spec, Option.some.sizeOf_spec]
      omega
    · subst h
      simp only [record.sizeOf_spec]
      omega
  | union options =>
    simp only [children, bare, held, List.append_nil] at h
    have hlt := List.sizeOf_lt_of_mem h
    simp only [union.sizeOf_spec]
    omega
  | tagged discriminator options =>
    simp only [children, bare, held, List.append_nil, List.mem_map] at h
    obtain ⟨shape, hs, rfl⟩ := h
    have hlt := List.sizeOf_lt_of_mem hs
    -- the node of the option is no part of the tagged union, so its own size is counted
    have hpos : 0 < sizeOf discriminator := by
      cases discriminator; simp only [String.ofByteArray.sizeOf_spec]; omega
    simp only [tagged.sizeOf_spec, object.sizeOf_spec]
    omega
  | intersection branches =>
    simp only [children, bare, held, List.append_nil] at h
    have hlt := List.sizeOf_lt_of_mem h
    simp only [intersection.sizeOf_spec]
    omega
  | array element bounds =>
    simp only [children, bare, held, List.nil_append, List.mem_singleton] at h
    subst h
    simp only [array.sizeOf_spec]
    omega
  | map key value limits =>
    simp only [children, bare, held, List.nil_append, List.mem_cons, List.not_mem_nil,
      or_false] at h
    simp only [map.sizeOf_spec]
    rcases h with h | h <;> subst h <;> omega
  | set element bounds =>
    simp only [children, bare, held, List.nil_append, List.mem_singleton] at h
    subst h
    simp only [set.sizeOf_spec]
    omega
  | modified m inner =>
    simp only [children, bare, held, List.append_nil, List.mem_singleton] at h
    subst h
    simp only [modified.sizeOf_spec]
    omega
  | pipe first next =>
    simp only [children, bare, held, List.append_nil, List.mem_cons, List.not_mem_nil,
      or_false] at h
    simp only [pipe.sizeOf_spec]
    rcases h with h | h <;> subst h <;> omega
  | _ => exact absurd h List.not_mem_nil

/-- What holds of a node as soon as it holds of its children holds of every schema. -/
theorem induction {motive : Schema → Prop}
    (node : ∀ s : Schema, (∀ c ∈ s.children, motive c) → motive s) (s : Schema) : motive s :=
  node s fun c _ => induction node c
termination_by sizeOf s
decreasing_by exact sizeOf_lt_of_mem_children ‹_›

/-- Every node of a schema satisfies a predicate, definitions behind lazy references apart. -/
inductive Every (p : Schema → Prop) : Schema → Prop
  | intro (s : Schema) (node : p s) (below : ∀ c ∈ s.children, Every p c) : Every p s

namespace Every

variable {p q : Schema → Prop} {s : Schema}

theorem node (h : s.Every p) : p s := by
  cases h with
  | intro _ node _ => exact node

theorem child (h : s.Every p) {c : Schema} (hc : c ∈ s.children) : c.Every p := by
  cases h with
  | intro _ _ below => exact below c hc

theorem mono (hpq : ∀ t, p t → q t) (h : s.Every p) : s.Every q := by
  induction h with
  | intro s node _ ih => exact .intro s (hpq s node) ih

theorem and (hp : s.Every p) (hq : s.Every q) : s.Every fun t => p t ∧ q t := by
  induction hp with
  | intro s node _ ih => exact .intro s ⟨node, hq.node⟩ fun t ht => ih t ht (hq.child ht)

end Every

/-! ## Layers -/

/-- The evaluator of a node over evaluators of its children. -/
def layer (mode : Mode) (resolve : Resolution) (child : Schema → Evaluator) : Schema → Evaluator
  | text t => .leaf t.run t.accepts
  | number n => .leaf n.run n.accepts
  | integer n => .leaf n.run n.accepts
  | date d => .leaf d.run d.accepts
  | plain p => .leaf p.run p.accepts
  | literal v => .leaf (Literal.run v) (Literal.accepts v)
  | words options => .leaf (Words.run options) (Words.accepts options)
  | enumeration entries => .leaf (Enumeration.run entries) (Enumeration.accepts entries)
  | object shape =>
    ⟨(shape.map fun s => (child s).judge).judge, (shape.map fun s => (child s).test).test⟩
  | array element bounds =>
    ⟨bounds.judge (child element).judge, bounds.test (child element).test⟩
  | tuple items rest limits =>
    ⟨Tuple.judge (items.map fun s => (child s).judge) (rest.map fun s => (child s).judge) limits,
      Tuple.test (items.map fun s => (child s).test) (rest.map fun s => (child s).test) limits⟩
  | record key value limits =>
    ⟨Record.judge (key.map fun s => (child s).judge) (child value).judge limits,
      Record.test (key.map fun s => (child s).test) (child value).test limits⟩
  | map key value limits =>
    ⟨Dictionary.judge (child key).judge (child value).judge limits,
      Dictionary.test (child key).test (child value).test limits⟩
  | set element bounds =>
    ⟨bounds.judge (child element).judge, bounds.test (child element).test⟩
  | union options =>
    ⟨Union.judge (options.map fun s => (child s).judge),
      Union.test (options.map fun s => (child s).test)⟩
  | tagged discriminator options =>
    let literals := Tagged.literals discriminator options
    ⟨Tagged.judge discriminator literals (options.map fun o => (child (object o)).judge),
      Tagged.test discriminator literals (options.map fun o => (child (object o)).test)⟩
  | intersection branches =>
    let judge := Intersection.judge (branches.map fun s => (child s).judge)
    ⟨judge, judge.toTest⟩
  | lazy ref => resolve ref
  | modified modifier inner =>
    let judge := modifier.judge mode (child inner).judge
    ⟨judge, modifier.test (child inner).test judge⟩
  | pipe first next =>
    let judge := (child first).judge.pipe (child next).judge
    ⟨judge, judge.toTest⟩

/-! ## The evaluators of lists of schemas -/

section

variable (mode : Mode) (resolve : Resolution)

theorem evaluators_eq_map (l : List Schema) :
    evaluators mode resolve l = l.map (evaluator mode resolve) := by
  induction l with
  | nil => rfl
  | cons s rest ih => simp only [evaluators, List.map_cons, ih]

theorem evaluator?_eq_map (o : Option Schema) :
    evaluator? mode resolve o = o.map (evaluator mode resolve) := by
  cases o <;> rfl

theorem fieldEvaluators_eq_mapValues (l : List (String × Schema)) :
    fieldEvaluators mode resolve l = Keyed.mapValues (evaluator mode resolve) l := by
  induction l with
  | nil => rfl
  | cons f rest ih => simp only [fieldEvaluators, ih, Keyed.mapValues, List.map_cons]

theorem shapeEvaluator_eq_map (shape : Shape Schema) :
    shapeEvaluator mode resolve shape = shape.map (evaluator mode resolve) := by
  obtain ⟨fields, unknown, limits⟩ := shape
  simp only [shapeEvaluator, Shape.map, fieldEvaluators_eq_mapValues]

theorem shapeEvaluators_eq_map (l : List (Shape Schema)) :
    shapeEvaluators mode resolve l = l.map fun shape => shape.map (evaluator mode resolve) := by
  induction l with
  | nil => rfl
  | cons shape rest ih => simp only [shapeEvaluators, shapeEvaluator_eq_map, ih, List.map_cons]

end

/-- **A schema is evaluated layer by layer.** -/
theorem evaluator_eq_layer (mode : Mode) (resolve : Resolution) (s : Schema) :
    s.evaluator mode resolve = s.layer mode resolve (evaluator mode resolve) := by
  -- an evaluator goes through lists of children by recursion, a layer maps over them
  cases s <;>
    simp only [evaluator, layer, evaluators_eq_map, evaluator?_eq_map, shapeEvaluator_eq_map,
      shapeEvaluators_eq_map, List.map_map, Option.map_map, Function.comp_def, Shape.map_map]

end Schema

/-! ## References -/

/-- What holds where definitions are not unfolded at all, and of a definition as soon as it holds
of every reference in it, holds of all references however often definitions are unfolded. -/
theorem Family.resolution_induction {family : Family} {mode : Mode} {motive : Evaluator → Prop}
    (unresolved : motive .unresolved)
    (definition : ∀ e ∈ family, ∀ resolve : Resolution, (∀ ref, motive (resolve ref)) →
      motive (e.2.evaluator mode resolve))
    (budget : Nat) (ref : Reference) : motive (family.resolution mode budget ref) := by
  -- the induction is on the budget: one definition more is unfolded around those before
  induction budget generalizing ref with
  | zero => exact unresolved
  | succ budget ih =>
    unfold Family.resolution
    cases hd : Keyed.find? ref.name family with
    | none => exact unresolved
    | some s => exact definition _ (Keyed.mem_of_find? hd) _ ih

/-- The uppermost layer of a schema judges the whole value, all below it with the one budget. -/
theorem Schema.validateIn_eq_layer (schema : Schema) (family : Family) (v : Value) (c : Context) :
    schema.validateIn family v c
      = (schema.layer .sync (family.resolution .sync (family.budget schema v))
          (evaluator .sync (family.resolution .sync (family.budget schema v)))).judge
        (family.start schema v) v c := by
  rw [validateIn, Family.evaluator, evaluator_eq_layer]

end ValueSchema
