/-
Waiting refines judging at once.

Deferred code can be settled: its answer is taken where the code is called, a crash while it is
started or awaited being a crash of the call. A schema whose deferred modifiers are settled, in its
children, behind its pipes and in the definitions that it refers to, has none left, and judging by
it at once comes to exactly what waiting by the schema itself comes to.

The argument has two halves with the evaluator for deferred code in between. Waiting loops are
equal to the judges of that evaluator container by container, so by induction over the schema and
over the unfolding of definitions the waiting judge is the judge of that evaluator. On the other
side a settled modifier judges as the deferred one does when deferred code is in force, and nothing
else of a schema changes: its literals, its depth limits and the runs of its constants stay, so
that both judgements unfold definitions equally often and start at one site.
-/
import ValueSchema.Proofs.Awaiting.Loops
import ValueSchema.Proofs.Termination.Families
import ValueSchema.Compiled.Node

set_option autoImplicit false

namespace ValueSchema

/-! ## The waiting judge of a schema -/

namespace Schema

section

variable (resolve : Reference → Judge)

theorem awaiters_eq_map (l : List Schema) : awaiters resolve l = l.map (awaiter resolve) := by
  induction l with
  | nil => rfl
  | cons s rest ih => rw [awaiters, List.map_cons, ih]

theorem awaiter?_eq_map (o : Option Schema) : awaiter? resolve o = o.map (awaiter resolve) := by
  rcases o with _ | s
  · rfl
  · rfl

theorem fieldAwaiters_eq_mapValues (l : List (String × Schema)) :
    fieldAwaiters resolve l = Keyed.mapValues (awaiter resolve) l := by
  induction l with
  | nil => rfl
  | cons f rest ih => simp only [fieldAwaiters, ih, Keyed.mapValues, List.map_cons]

theorem shapeAwaiter_eq_map (shape : Shape Schema) :
    shapeAwaiter resolve shape = shape.map (awaiter resolve) := by
  obtain ⟨fields, unknown, limits⟩ := shape
  rw [shapeAwaiter, fieldAwaiters_eq_mapValues]
  rfl

theorem shapeAwaiters_eq_map (l : List (Shape Schema)) :
    shapeAwaiters resolve l = l.map fun shape => shape.map (awaiter resolve) := by
  induction l with
  | nil => rfl
  | cons shape rest ih => rw [shapeAwaiters, shapeAwaiter_eq_map, ih, List.map_cons]

end

/-- **The waiting judge of a schema** is the judge of its evaluator for deferred code, if that
holds of references. -/
theorem awaiter_eq_judge {await : Reference → Judge} {resolve : Resolution}
    (href : ∀ ref, await ref = (resolve ref).judge) (s : Schema) :
    s.awaiter await = (s.evaluator .async resolve).judge := by
  -- the loops of a node are equal to its judges, which leaves the children to the induction
  induction s using Schema.induction with
  | node s ih =>
    rw [evaluator_eq_layer]
    have hbare : ∀ t ∈ s.bare, t.awaiter await = (t.evaluator .async resolve).judge :=
      fun t ht => ih t (mem_children_of_bare ht)
    have hheld : ∀ t ∈ s.held, t.awaiter await = (t.evaluator .async resolve).judge :=
      fun t ht => ih t (mem_children_of_held ht)
    rcases s with _ | _ | _ | _ | _ | _ | _ | _ | shape | ⟨element, bounds⟩ |
      ⟨items, rest, limits⟩ | ⟨key, value, limits⟩ | ⟨key, value, limits⟩ | ⟨element, bounds⟩ |
      options | ⟨discriminator, options⟩ | branches | ref | ⟨modifier, inner⟩ | ⟨first, next⟩
    iterate 8 rfl
    · have hfields : shape.map (awaiter await)
          = shape.map fun t => (t.evaluator .async resolve).judge :=
        Shape.map_congr fun f hf => hheld f.2 (List.mem_map_of_mem hf)
      simp only [awaiter, layer]
      rw [shapeAwaiter_eq_map, hfields, Shape.await_eq_judge]
    · simp only [awaiter, layer]
      rw [hheld element List.mem_cons_self, ArrayBounds.await_eq_judge]
    · have hitems : items.map (awaiter await)
          = items.map fun t => (t.evaluator .async resolve).judge :=
        List.map_congr_left fun t ht => hheld t (List.mem_append_left _ ht)
      have hrest : rest.map (awaiter await)
          = rest.map fun t => (t.evaluator .async resolve).judge :=
        Option.map_congr fun t ht =>
          hheld t (List.mem_append_right _ (Option.mem_toList.mpr ht))
      simp only [awaiter, layer]
      rw [awaiters_eq_map, awaiter?_eq_map, hitems, hrest, Tuple.await_eq_judge]
    · have hkey : key.map (awaiter await)
          = key.map fun t => (t.evaluator .async resolve).judge :=
        Option.map_congr fun t ht =>
          hheld t (List.mem_append_left _ (Option.mem_toList.mpr ht))
      have hvalue := hheld value (List.mem_append_right _ List.mem_cons_self)
      simp only [awaiter, layer]
      rw [awaiter?_eq_map, hkey, hvalue, Record.await_eq_judge]
    · have hkey := hheld key List.mem_cons_self
      have hvalue := hheld value (List.mem_cons_of_mem _ List.mem_cons_self)
      simp only [awaiter, layer]
      rw [hkey, hvalue, Dictionary.await_eq_judge]
    · simp only [awaiter, layer]
      rw [hheld element List.mem_cons_self, SetBounds.await_eq_judge]
    · have hoptions : options.map (awaiter await)
          = options.map fun t => (t.evaluator .async resolve).judge := List.map_congr_left hbare
      simp only [awaiter, layer]
      rw [awaiters_eq_map, hoptions, Union.await_eq_judge]
    · have hoptions : options.map (fun o => (o.map (awaiter await)).await)
          = options.map fun o => ((object o).evaluator .async resolve).judge := by
        refine List.map_congr_left fun o ho => ?_
        rw [← hbare _ (List.mem_map_of_mem ho), awaiter, shapeAwaiter_eq_map]
      simp only [awaiter, layer]
      rw [shapeAwaiters_eq_map, List.map_map, ← hoptions]
      rfl
    · have hbranches : branches.map (awaiter await)
          = branches.map fun t => (t.evaluator .async resolve).judge :=
        List.map_congr_left hbare
      simp only [awaiter, layer]
      rw [awaiters_eq_map, hbranches, Intersection.await_eq_judge]
    · exact href ref
    · simp only [awaiter, layer]
      rw [hbare inner List.mem_cons_self, Modifier.await_eq_judge]
    · have hfirst := hbare first List.mem_cons_self
      have hnext := hbare next (List.mem_cons_of_mem _ List.mem_cons_self)
      simp only [awaiter, layer]
      rw [hfirst, hnext]

end Schema

/-- Waiting references, unfolded equally often. -/
theorem Family.awaited_eq_judge (family : Family) (budget : Nat) : ∀ ref : Reference,
    family.awaited budget ref = (family.resolution .async budget ref).judge := by
  induction budget with
  | zero => exact fun _ => rfl
  | succ budget ih =>
    intro ref
    unfold Family.awaited Family.resolution
    rcases Keyed.find? ref.name family with _ | definition
    · rfl
    · exact Schema.awaiter_eq_judge ih definition

theorem Schema.validateAsyncIn_eq_judge (schema : Schema) (family : Family) (v : Value)
    (c : Context) : schema.validateAsyncIn family v c
      = (family.evaluator .async schema v).judge (family.start schema v) v c := by
  unfold validateAsyncIn Family.evaluator
  rw [awaiter_eq_judge (Family.awaited_eq_judge family _)]

/-! ## Settled schemas -/

theorem Keyed.find?_mapValues {α β : Type} (f : α → β) (key : String) (l : List (String × α)) :
    find? key (mapValues f l) = (find? key l).map f := by
  induction l with
  | nil => rfl
  | cons e rest ih =>
    obtain ⟨k, x⟩ := e
    rw [mapValues, List.map_cons, find?_cons, find?_cons]
    by_cases hk : key == k
    · rw [if_pos hk, if_pos hk]
      rfl
    · rw [if_neg hk, if_neg hk]
      exact ih

/-- Deferred code answers where it is called. -/
def Modifier.settled : Modifier → Modifier
  | refineAsync check text => refine (fun v => (check v).await) text
  | transformAsync mapper => transform fun s v => (mapper s v).await
  | preprocessAsync mapper => preprocess fun s v => (mapper s v).await
  | m => m

/-- A settled modifier judges as the deferred one does when deferred code is in force. -/
theorem Modifier.settled_judge (m : Modifier) (inner : Judge) :
    m.settled.judge .sync inner = m.judge .async inner := by
  rcases m with _ | _ | _ | _ | _ | _ | _ | _ | _ | _ | _ | _ | _ <;> rfl

namespace Schema

mutual

/-- All deferred modifiers of a schema settled. -/
def settled : Schema → Schema
  | object shape => object (settledShape shape)
  | array element bounds => array (settled element) bounds
  | tuple items rest limits => tuple (settledAll items) (settled? rest) limits
  | record key value limits => record (settled? key) (settled value) limits
  | map key value limits => map (settled key) (settled value) limits
  | set element bounds => set (settled element) bounds
  | union options => union (settledAll options)
  | tagged discriminator options => tagged discriminator (settledShapes options)
  | intersection branches => intersection (settledAll branches)
  | modified modifier inner => modified modifier.settled (settled inner)
  | pipe first next => pipe (settled first) (settled next)
  | text t => text t
  | number n => number n
  | integer n => integer n
  | date d => date d
  | plain p => plain p
  | literal v => literal v
  | words options => words options
  | enumeration entries => enumeration entries
  | lazy ref => lazy ref

def settledAll : List Schema → List Schema
  | [] => []
  | s :: rest => settled s :: settledAll rest

def settled? : Option Schema → Option Schema
  | none => none
  | some s => some (settled s)

def settledFields : List (String × Schema) → List (String × Schema)
  | [] => []
  | (key, s) :: rest => (key, settled s) :: settledFields rest

def settledShape : Shape Schema → Shape Schema
  | ⟨fields, unknown, limits⟩ => ⟨settledFields fields, unknown, limits⟩

def settledShapes : List (Shape Schema) → List (Shape Schema)
  | [] => []
  | shape :: rest => settledShape shape :: settledShapes rest

end

/-! ### What settling leaves alone -/

mutual

theorem depthLimit_settled : ∀ s : Schema, s.settled.depthLimit = s.depthLimit
  | object shape => by rw [settled, depthLimit, depthLimit, shapeDepthLimit_settled shape]
  | array element _ => by rw [settled, depthLimit, depthLimit, depthLimit_settled element]
  | tuple items rest _ => by
    rw [settled, depthLimit, depthLimit, depthLimits_settled items, depthLimit?_settled rest]
  | record key value _ => by
    rw [settled, depthLimit, depthLimit, depthLimit?_settled key, depthLimit_settled value]
  | map key value _ => by
    rw [settled, depthLimit, depthLimit, depthLimit_settled key, depthLimit_settled value]
  | set element _ => by rw [settled, depthLimit, depthLimit, depthLimit_settled element]
  | union options => by rw [settled, depthLimit, depthLimit, depthLimits_settled options]
  | tagged _ options => by
    rw [settled, depthLimit, depthLimit, shapeDepthLimits_settled options]
  | intersection branches => by rw [settled, depthLimit, depthLimit, depthLimits_settled branches]
  | modified _ inner => by rw [settled, depthLimit, depthLimit, depthLimit_settled inner]
  | pipe first next => by
    rw [settled, depthLimit, depthLimit, depthLimit_settled first, depthLimit_settled next]
  | text _ | number _ | integer _ | date _ | plain _ | literal _ | words _ | enumeration _
  | lazy _ => by rw [settled]

theorem depthLimits_settled : ∀ l : List Schema, depthLimits (settledAll l) = depthLimits l
  | [] => by rw [settledAll]
  | s :: rest => by
    rw [settledAll, depthLimits, depthLimits, depthLimit_settled s, depthLimits_settled rest]

theorem depthLimit?_settled : ∀ o : Option Schema, depthLimit? (settled? o) = depthLimit? o
  | none => by rw [settled?]
  | some s => by rw [settled?, depthLimit?, depthLimit?, depthLimit_settled s]

theorem fieldDepthLimits_settled :
    ∀ l : List (String × Schema), fieldDepthLimits (settledFields l) = fieldDepthLimits l
  | [] => by rw [settledFields]
  | (_, s) :: rest => by
    rw [settledFields, fieldDepthLimits, fieldDepthLimits, depthLimit_settled s,
      fieldDepthLimits_settled rest]

theorem shapeDepthLimit_settled :
    ∀ shape : Shape Schema, shapeDepthLimit (settledShape shape) = shapeDepthLimit shape
  | ⟨fields, _, _⟩ => by
    rw [settledShape, shapeDepthLimit, shapeDepthLimit, fieldDepthLimits_settled fields]

theorem shapeDepthLimits_settled :
    ∀ l : List (Shape Schema), shapeDepthLimits (settledShapes l) = shapeDepthLimits l
  | [] => by rw [settledShapes]
  | shape :: rest => by
    rw [settledShapes, shapeDepthLimits, shapeDepthLimits, shapeDepthLimit_settled shape,
      shapeDepthLimits_settled rest]

end

mutual

theorem nextRun_settled : ∀ s : Schema, s.settled.nextRun = s.nextRun
  | object shape => by rw [settled, nextRun, nextRun, shapeNextRun_settled shape]
  | array element _ => by rw [settled, nextRun, nextRun, nextRun_settled element]
  | tuple items rest _ => by
    rw [settled, nextRun, nextRun, nextRuns_settled items, nextRun?_settled rest]
  | record key value _ => by
    rw [settled, nextRun, nextRun, nextRun?_settled key, nextRun_settled value]
  | map key value _ => by
    rw [settled, nextRun, nextRun, nextRun_settled key, nextRun_settled value]
  | set element _ => by rw [settled, nextRun, nextRun, nextRun_settled element]
  | union options => by rw [settled, nextRun, nextRun, nextRuns_settled options]
  | tagged _ options => by rw [settled, nextRun, nextRun, shapeNextRuns_settled options]
  | intersection branches => by rw [settled, nextRun, nextRun, nextRuns_settled branches]
  | modified m inner => by
    -- only a default and a fallback hold a constant, and both are settled already
    simp only [settled, nextRun, nextRun_settled inner]
    rcases m with _ | _ | _ | _ | _ | _ | _ | _ | _ | _ | _ | _ | _ <;> rfl
  | pipe first next => by
    rw [settled, nextRun, nextRun, nextRun_settled first, nextRun_settled next]
  | text _ | number _ | integer _ | date _ | plain _ | literal _ | words _ | enumeration _
  | lazy _ => by rw [settled]

theorem nextRuns_settled : ∀ l : List Schema, nextRuns (settledAll l) = nextRuns l
  | [] => by rw [settledAll]
  | s :: rest => by rw [settledAll, nextRuns, nextRuns, nextRun_settled s, nextRuns_settled rest]

theorem nextRun?_settled : ∀ o : Option Schema, nextRun? (settled? o) = nextRun? o
  | none => by rw [settled?]
  | some s => by rw [settled?, nextRun?, nextRun?, nextRun_settled s]

theorem fieldNextRuns_settled :
    ∀ l : List (String × Schema), fieldNextRuns (settledFields l) = fieldNextRuns l
  | [] => by rw [settledFields]
  | (_, s) :: rest => by
    rw [settledFields, fieldNextRuns, fieldNextRuns, nextRun_settled s,
      fieldNextRuns_settled rest]

theorem shapeNextRun_settled :
    ∀ shape : Shape Schema, shapeNextRun (settledShape shape) = shapeNextRun shape
  | ⟨fields, _, _⟩ => by
    rw [settledShape, shapeNextRun, shapeNextRun, fieldNextRuns_settled fields]

theorem shapeNextRuns_settled :
    ∀ l : List (Shape Schema), shapeNextRuns (settledShapes l) = shapeNextRuns l
  | [] => by rw [settledShapes]
  | shape :: rest => by
    rw [settledShapes, shapeNextRuns, shapeNextRuns, shapeNextRun_settled shape,
      shapeNextRuns_settled rest]

end

theorem settledAll_eq_map (l : List Schema) : settledAll l = l.map settled := by
  induction l with
  | nil => rfl
  | cons s rest ih => rw [settledAll, List.map_cons, ih]

theorem settled?_eq_map (o : Option Schema) : settled? o = o.map settled := by
  rcases o with _ | s
  · rfl
  · rfl

theorem settledFields_eq_mapValues (l : List (String × Schema)) :
    settledFields l = Keyed.mapValues settled l := by
  induction l with
  | nil => rfl
  | cons f rest ih => simp only [settledFields, ih, Keyed.mapValues, List.map_cons]

theorem settledShape_eq_map (shape : Shape Schema) : settledShape shape = shape.map settled := by
  obtain ⟨fields, unknown, limits⟩ := shape
  rw [settledShape, settledFields_eq_mapValues]
  rfl

theorem settledShapes_eq_map (l : List (Shape Schema)) :
    settledShapes l = l.map (Shape.map settled) := by
  induction l with
  | nil => rfl
  | cons shape rest ih => rw [settledShapes, settledShape_eq_map, ih, List.map_cons]

/-- A schema is settled to a literal only if it is that literal. -/
theorem literal?_settled (key : String) (shape : Shape Schema) :
    (shape.map settled).literal? key = shape.literal? key := by
  unfold Shape.literal? Shape.find? Shape.map
  rw [Keyed.find?_mapValues]
  rcases Keyed.find? key shape.fields with _ | s
  · rfl
  · rcases s with _ | _ | _ | _ | _ | _ | _ | _ | _ | _ | _ | _ | _ | _ | _ | _ | _ | _ | _ | _ <;>
      rfl

theorem literals_settled (discriminator : String) (options : List (Shape Schema)) :
    Tagged.literals discriminator (settledShapes options)
      = Tagged.literals discriminator options := by
  unfold Tagged.literals
  rw [settledShapes_eq_map, List.map_map]
  exact List.map_congr_left fun shape _ => literal?_settled discriminator shape

/-! ### Judging by settled schemas -/

/-- **A settled schema judges** as the schema does when deferred code is in force, if that holds
of references. -/
theorem settled_judge {resolve resolve' : Resolution}
    (href : ∀ ref, (resolve' ref).judge = (resolve ref).judge) (s : Schema) :
    (s.settled.evaluator .sync resolve').judge = (s.evaluator .async resolve).judge := by
  induction s using Schema.induction with
  | node s ih =>
    rw [evaluator_eq_layer, evaluator_eq_layer]
    have hbare : ∀ t ∈ s.bare,
        (t.settled.evaluator .sync resolve').judge = (t.evaluator .async resolve).judge :=
      fun t ht => ih t (mem_children_of_bare ht)
    have hheld : ∀ t ∈ s.held,
        (t.settled.evaluator .sync resolve').judge = (t.evaluator .async resolve).judge :=
      fun t ht => ih t (mem_children_of_held ht)
    rcases s with _ | _ | _ | _ | _ | _ | _ | _ | shape | ⟨element, bounds⟩ |
      ⟨items, rest, limits⟩ | ⟨key, value, limits⟩ | ⟨key, value, limits⟩ | ⟨element, bounds⟩ |
      options | ⟨discriminator, options⟩ | branches | ref | ⟨modifier, inner⟩ | ⟨first, next⟩
    iterate 8 rfl
    · have hfields : shape.map (fun t => (t.settled.evaluator .sync resolve').judge)
          = shape.map fun t => (t.evaluator .async resolve).judge :=
        Shape.map_congr fun f hf => hheld f.2 (List.mem_map_of_mem hf)
      simp only [settled, layer]
      rw [settledShape_eq_map, Shape.map_map, hfields]
    · simp only [settled, layer]
      rw [hheld element List.mem_cons_self]
    · have hitems : items.map (fun t => (t.settled.evaluator .sync resolve').judge)
          = items.map fun t => (t.evaluator .async resolve).judge :=
        List.map_congr_left fun t ht => hheld t (List.mem_append_left _ ht)
      have hrest : rest.map (fun t => (t.settled.evaluator .sync resolve').judge)
          = rest.map fun t => (t.evaluator .async resolve).judge :=
        Option.map_congr fun t ht =>
          hheld t (List.mem_append_right _ (Option.mem_toList.mpr ht))
      simp only [settled, layer]
      rw [settledAll_eq_map, settled?_eq_map, List.map_map, Option.map_map]
      exact congrArg₂ (fun l o => Tuple.judge l o limits) hitems hrest
    · have hkey : key.map (fun t => (t.settled.evaluator .sync resolve').judge)
          = key.map fun t => (t.evaluator .async resolve).judge :=
        Option.map_congr fun t ht =>
          hheld t (List.mem_append_left _ (Option.mem_toList.mpr ht))
      have hvalue := hheld value (List.mem_append_right _ List.mem_cons_self)
      simp only [settled, layer]
      rw [settled?_eq_map, Option.map_map]
      exact congrArg₂ (fun k j => Record.judge k j limits) hkey hvalue
    · have hkey := hheld key List.mem_cons_self
      have hvalue := hheld value (List.mem_cons_of_mem _ List.mem_cons_self)
      simp only [settled, layer]
      rw [hkey, hvalue]
    · simp only [settled, layer]
      rw [hheld element List.mem_cons_self]
    · have hoptions : options.map (fun t => (t.settled.evaluator .sync resolve').judge)
          = options.map fun t => (t.evaluator .async resolve).judge := List.map_congr_left hbare
      simp only [settled, layer]
      rw [settledAll_eq_map, List.map_map]
      exact congrArg Union.judge hoptions
    · have hoptions : options.map (fun o => ((object o).settled.evaluator .sync resolve').judge)
          = options.map fun o => ((object o).evaluator .async resolve).judge :=
        List.map_congr_left fun o ho => hbare _ (List.mem_map_of_mem ho)
      simp only [settled, layer]
      rw [literals_settled, settledShapes_eq_map, List.map_map, ← hoptions]
      simp only [settled, settledShape_eq_map, Function.comp_def]
    · have hbranches : branches.map (fun t => (t.settled.evaluator .sync resolve').judge)
          = branches.map fun t => (t.evaluator .async resolve).judge :=
        List.map_congr_left hbare
      simp only [settled, layer]
      rw [settledAll_eq_map, List.map_map]
      exact congrArg Intersection.judge hbranches
    · exact href ref
    · simp only [settled, layer]
      rw [hbare inner List.mem_cons_self, Modifier.settled_judge]
    · have hfirst := hbare first List.mem_cons_self
      have hnext := hbare next (List.mem_cons_of_mem _ List.mem_cons_self)
      simp only [settled, layer]
      rw [hfirst, hnext]

end Schema

/-! ## Settled families -/

namespace Family

/-- All definitions settled. -/
def settled (family : Family) : Family := Keyed.mapValues Schema.settled family

theorem resolution_settled (family : Family) (budget : Nat) : ∀ ref : Reference,
    (family.settled.resolution .sync budget ref).judge
      = (family.resolution .async budget ref).judge := by
  induction budget with
  | zero => exact fun _ => rfl
  | succ budget ih =>
    intro ref
    unfold Family.resolution settled
    rw [Keyed.find?_mapValues]
    rcases Keyed.find? ref.name family with _ | definition
    · rfl
    · exact Schema.settled_judge ih definition

/-- Definitions are unfolded equally often. -/
theorem budget_settled (family : Family) (schema : Schema) (v : Value) :
    family.settled.budget schema.settled v = family.budget schema v := by
  have hlimit : family.settled.depthLimit = family.depthLimit := by
    unfold depthLimit settled
    rw [← Schema.settledFields_eq_mapValues, Schema.fieldDepthLimits_settled]
  have hlength : family.settled.length = family.length := List.length_map _
  unfold budget
  rw [hlimit, hlength, Schema.depthLimit_settled]

/-- Judgements start at one site. -/
theorem start_settled (family : Family) (schema : Schema) (v : Value) :
    family.settled.start schema.settled v = family.start schema v := by
  unfold start settled
  rw [← Schema.settledFields_eq_mapValues, Schema.fieldNextRuns_settled, Schema.nextRun_settled]

end Family

/-! ## The law -/

/-- **Waiting refines judging at once.** Waiting by a schema, interpreted or compiled, comes to
what its settled form comes to at once, issue by issue and with the very same output; and as long
as the definitions are a ground of the schema, it comes to an answer. -/
theorem Schema.validateAsyncIn_settled (schema : Schema) (family : Family) (v : Value)
    (c : Context) :
    schema.validateAsyncIn family v c = schema.settled.validateIn family.settled v c
      ∧ schema.validateCompiledAsyncIn family v c = schema.settled.validateIn family.settled v c
      ∧ (family.Grounds schema → ∃ verdict, schema.validateAsyncIn family v c = some verdict) := by
  have hsettled : schema.validateAsyncIn family v c
      = schema.settled.validateIn family.settled v c := by
    rw [Schema.validateAsyncIn_eq_judge]
    unfold validateIn Family.evaluator
    rw [Family.start_settled, Family.budget_settled,
      Schema.settled_judge (Family.resolution_settled family _)]
  refine ⟨hsettled, hsettled, fun hg => ?_⟩
  rw [Schema.validateAsyncIn_eq_judge]
  exact Family.evaluator_answers .async hg v c.depth _ _ c rfl

/-- A tree that deferred code looks at. On a value that is no container the code crashes while it
is awaited. -/
def Schema.checkedTree : Schema :=
  .modified (.refineAsync (fun v => if v.isComposite then .ok (.ok true) else .ok (.error .other))
    "No such tree") (.lazy ⟨"tree", 0⟩)

/-- The law on a tree of two labels. -/
theorem Schema.validateAsyncIn_settled_twig : Family.trees.Grounds Schema.checkedTree ∧
    ∃ verdict,
      Schema.checkedTree.validateAsyncIn Family.trees Value.twig Context.root = some verdict
        ∧ Schema.checkedTree.settled.validateIn Family.trees.settled Value.twig Context.root
          = some verdict := by
  have hevery : Schema.checkedTree.Every Family.trees.Defines := by
    refine .intro _ trivial fun t ht => ?_
    rw [List.mem_singleton.mp (show t ∈ [Schema.lazy ⟨"tree", 0⟩] from ht)]
    exact .intro _ ⟨_, rfl⟩ fun t ht => absurd ht List.not_mem_nil
  have hg : Family.trees.Grounds Schema.checkedTree :=
    ⟨Family.trees_grounds.closed, Family.trees_grounds.guarded, hevery⟩
  obtain ⟨hsettled, _, hanswer⟩ :=
    Schema.validateAsyncIn_settled Schema.checkedTree Family.trees Value.twig Context.root
  obtain ⟨verdict, hverdict⟩ := hanswer hg
  exact ⟨hg, verdict, hverdict, hsettled ▸ hverdict⟩

end ValueSchema
