/-
Depth limits bound every evaluation.

Where every cycle of references passes through a container, judging and testing come to an answer
for every value at every context, by the schema and by its compiled form, whatever user code hands
back into the recursion. And they come to it on a ration of two containers more than the largest
depth limit: no chain of evaluations inside each other passes more.
-/
import ValueSchema.Proofs.Termination.Nodes
import Mathlib

set_option autoImplicit false

namespace ValueSchema

namespace Family

/-- How many containers evaluations may nest: a container at every depth up to the largest limit,
and one that is found too deep. -/
def nesting (family : Family) (schema : Schema) : Nat :=
  max schema.depthLimit family.depthLimit + 2

/-- The compiled form of a schema on a ration for the judgement of a value. -/
noncomputable def rationedNode (family : Family) (ration : Nat) (schema : Schema) (v : Value) :
    Node :=
  schema.rationedNode (family.rationing (family.budget schema v)) ration

section

variable {family : Family} {schema : Schema} {v : Value} {ration depth : Nat}

/-- The references that a schema meets on a ration answer wherever the ration covers the depth. -/
theorem rationing_answers_of_covers (hg : family.Grounds schema) {ref : Reference}
    (hdef : ∃ t, Keyed.find? ref.name family = some t)
    (h : Covers (max schema.depthLimit family.depthLimit) ration depth) :
    (family.rationing (family.budget schema v) ration ref).Answers depth :=
  rationing_answers hg.closed hg.guarded (Nat.le_max_right _ _) hdef
    (family.levels_lt_budget schema v depth ref.name) h

theorem every_limited (hg : family.Grounds schema) : schema.Every fun t =>
    family.Defines t ∧ t.LimitedTo (max schema.depthLimit family.depthLimit) :=
  hg.defines.and (Schema.every_limitedTo schema (Nat.le_max_left _ _))

theorem rationed_answers (hg : family.Grounds schema)
    (h : Covers (max schema.depthLimit family.depthLimit) ration depth) :
    (family.rationed ration schema v).Answers depth :=
  Schema.rationed_answers (every_limited hg) h
    (fun _ hr => rationing_answers_of_covers hg (defines_of_exposes hg.defines hr) h)
    fun _ hr _ _ _ _ hleft => rationing_answers_of_covers hg hr hleft

theorem rationedNode_answers (hg : family.Grounds schema)
    (h : Covers (max schema.depthLimit family.depthLimit) ration depth) :
    (family.rationedNode ration schema v).Answers depth :=
  Schema.rationedNode_answers (every_limited hg) h
    (fun _ hr => rationing_answers_of_covers hg (defines_of_exposes hg.defines hr) h)
    fun _ hr _ _ _ _ hleft => rationing_answers_of_covers hg hr hleft

theorem rationed_extends (ration : Nat) :
    (family.rationed ration schema v).Extends (family.evaluator .sync schema v) :=
  Schema.rationed_extends (family.rationing_extends _) schema ration

theorem rationedNode_extends (ration : Nat) :
    (family.rationedNode ration schema v).Extends (family.compiled schema v) :=
  Schema.rationedNode_extends (family.rationing_extends _) schema ration

/-- The ration for all levels covers every depth. -/
theorem covers_nesting (depth : Nat) :
    Covers (max schema.depthLimit family.depthLimit) (family.nesting schema) depth :=
  ⟨Nat.succ_pos _, Nat.le_add_right _ depth⟩

end

end Family

/-- An evaluator that answers is answered the same by those that extend it. -/
theorem Evaluator.Answers.of_extends {e e' : Evaluator} {c : Context} (h : e.Answers c.depth)
    (hext : e.Extends e') (s : Site) (v : Value) :
    (∃ verdict, e.judge s v c = some verdict ∧ e'.judge s v c = some verdict)
      ∧ ∃ passed, e.test s v c.depth = some passed ∧ e'.test s v c.depth = some passed := by
  obtain ⟨verdict, hv⟩ := h.judge s v c rfl
  obtain ⟨passed, hp⟩ := h.test s v
  exact ⟨⟨verdict, hv, hext.judge.same hv⟩, passed, hp, hext.test hp⟩

/-- **Evaluation comes to an answer and nests no more containers than the depth limits allow.** For
every family without a cycle of references that does without a container, whatever user code does,
a value is judged and tested, by the schema and by its compiled form, and a ration of two
containers more than the largest depth limit changes none of the answers. -/
theorem Schema.evaluation_nests_within_limits {schema : Schema} {family : Family}
    (hg : family.Grounds schema) (v : Value) (c : Context) :
    ((∃ verdict,
        (family.rationed (family.nesting schema) schema v).judge (family.start schema v) v c
          = some verdict ∧ schema.validateIn family v c = some verdict)
      ∧ ∃ passed,
        (family.rationed (family.nesting schema) schema v).test (family.start schema v) v c.depth
          = some passed ∧ schema.acceptsIn family v c.depth = some passed)
    ∧ (∃ verdict,
        (family.rationedNode (family.nesting schema) schema v).judge (family.start schema v) v c
          = some verdict ∧ schema.validateCompiledIn family v c = some verdict)
      ∧ ∃ passed,
        (family.rationedNode (family.nesting schema) schema v).test (family.start schema v) v
          c.depth = some passed ∧ schema.acceptsCompiledIn family v c.depth = some passed := by
  have hcovers : Covers (max schema.depthLimit family.depthLimit) (family.nesting schema) c.depth :=
    Family.covers_nesting c.depth
  constructor
  · exact (Family.rationed_answers hg hcovers).of_extends (Family.rationed_extends _) _ v
  · exact (Family.rationedNode_answers hg hcovers).evaluator.of_extends
      (Family.rationedNode_extends _).evaluator _ v

set_option maxRecDepth 4096 in
/-- A tree of two labels is accepted on the ration of the standard limits. -/
theorem Schema.evaluation_nests_twig :
    Family.trees.nesting Schema.labelOrTree = 66
      ∧ Schema.labelOrTree.acceptsIn Family.trees Value.twig 0 = some true
      ∧ (Family.trees.rationed (Family.trees.nesting Schema.labelOrTree) Schema.labelOrTree
          Value.twig).test (Family.trees.start Schema.labelOrTree Value.twig) Value.twig 0
            = some true := by
  have haccepts : Schema.labelOrTree.acceptsIn Family.trees Value.twig 0 = some true := by cbv
  obtain ⟨⟨_, passed, hration, hpassed⟩, _⟩ :=
    Schema.evaluation_nests_within_limits Family.trees_grounds Value.twig Context.root
  cases haccepts.symm.trans hpassed
  exact ⟨by decide, haccepts, hration⟩

end ValueSchema
