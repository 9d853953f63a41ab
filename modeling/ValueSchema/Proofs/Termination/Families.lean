/-
Judging by a family of definitions comes to an answer.

A reference that is asked at the depth of the schema it stands in is exposed. As long as no
definition exposes itself, through whatever definitions, every cycle of references passes through
a container. Two numbers then go down together: how far the depth limits still lie ahead, which
drops where a container hands a part to its child, and how many definitions can be reached by
exposed references, which drops where a definition hands its own value to another one. Budgets
are made so that the first counts in steps longer than the second can ever be, so a reference is
never unfolded beyond its budget.
-/
import ValueSchema.Proofs.Termination.Layer
import Mathlib.Data.Finset.Card
import Mathlib.Logic.Relation

set_option autoImplicit false

namespace ValueSchema

open Relation (TransGen)

/-! ## Depth limits -/

namespace Schema

theorem depthLimit_le_depthLimits {s : Schema} {l : List Schema} (h : s ∈ l) :
    s.depthLimit ≤ depthLimits l := by
  induction l with
  | nil => cases h
  | cons t rest ih =>
    simp only [depthLimits]
    rcases List.mem_cons.mp h with rfl | h
    · omega
    · have hrest := ih h
      omega

theorem depthLimit_le_fieldDepthLimits {f : String × Schema} {l : List (String × Schema)}
    (h : f ∈ l) : f.2.depthLimit ≤ fieldDepthLimits l := by
  induction l with
  | nil => cases h
  | cons g rest ih =>
    obtain ⟨key, t⟩ := g
    simp only [fieldDepthLimits]
    rcases List.mem_cons.mp h with rfl | h
    · dsimp only
      omega
    · have hrest := ih h
      omega

theorem shapeDepthLimit_le_shapeDepthLimits {shape : Shape Schema} {l : List (Shape Schema)}
    (h : shape ∈ l) : shapeDepthLimit shape ≤ shapeDepthLimits l := by
  induction l with
  | nil => cases h
  | cons other rest ih =>
    simp only [shapeDepthLimits]
    rcases List.mem_cons.mp h with rfl | h
    · omega
    · have hrest := ih h
      omega

/-- The limit of a node counts. -/
theorem ownLimit_le_depthLimit {s : Schema} {m : Nat} (h : m ∈ s.ownLimit?) :
    m ≤ s.depthLimit := by
  -- the depth limit is a maximum over the tree, and the own limit is one of its terms
  cases s with
  | object shape =>
    obtain ⟨fields, unknown, limits⟩ := shape
    cases h
    simp only [depthLimit, shapeDepthLimit]
    omega
  | array _ _ | tuple _ _ _ | record _ _ _ | map _ _ _ | set _ _ =>
    cases h
    simp only [depthLimit]
    omega
  | _ => cases h

/-- The limits of the children count. -/
theorem depthLimit_le_of_mem_children {t s : Schema} (h : t ∈ s.children) :
    t.depthLimit ≤ s.depthLimit := by
  rcases mem_children.mp h with h | h
  · cases s with
    | union _ | intersection _ => exact depthLimit_le_depthLimits h
    | tagged _ _ =>
      obtain ⟨shape, hs, rfl⟩ := List.mem_map.mp h
      exact shapeDepthLimit_le_shapeDepthLimits hs
    | modified _ _ =>
      cases List.mem_singleton.mp h
      exact Nat.le_refl _
    | pipe first next =>
      simp only [bare, List.mem_cons, List.not_mem_nil, or_false] at h
      simp only [depthLimit]
      rcases h with rfl | rfl <;> omega
    | _ => exact absurd h List.not_mem_nil
  · cases s with
    | object shape =>
      obtain ⟨fields, unknown, limits⟩ := shape
      obtain ⟨f, hf, rfl⟩ := List.mem_map.mp h
      have hfield : f.2.depthLimit ≤ fieldDepthLimits fields := depthLimit_le_fieldDepthLimits hf
      simp only [depthLimit, shapeDepthLimit]
      omega
    | array _ _ | set _ _ =>
      cases List.mem_singleton.mp h
      simp only [depthLimit]
      omega
    | tuple items rest limits =>
      simp only [held, List.mem_append, Option.mem_toList] at h
      simp only [depthLimit]
      rcases h with h | h
      · have hitem := depthLimit_le_depthLimits h
        omega
      · cases h
        simp only [depthLimit?]
        omega
    | record key value limits =>
      simp only [held, List.mem_append, Option.mem_toList, List.mem_singleton] at h
      simp only [depthLimit]
      rcases h with h | h
      · cases h
        simp only [depthLimit?]
        omega
      · cases h
        omega
    | map key value limits =>
      simp only [held, List.mem_cons, List.not_mem_nil, or_false] at h
      simp only [depthLimit]
      rcases h with rfl | rfl <;> omega
    | _ => exact absurd h List.not_mem_nil

/-- A container node keeps to a limit. -/
def LimitedTo (limit : Nat) (s : Schema) : Prop := ∀ m ∈ s.ownLimit?, m ≤ limit

theorem every_limitedTo {limit : Nat} (s : Schema) (h : s.depthLimit ≤ limit) :
    s.Every (LimitedTo limit) := by
  induction s using Schema.induction with
  | node s ih =>
    refine .intro s (fun m hm => (ownLimit_le_depthLimit hm).trans h) fun t ht => ?_
    exact ih t ht ((depthLimit_le_of_mem_children ht).trans h)

/-- Only containers hold children. -/
theorem ownLimit?_of_mem_held {t s : Schema} (h : t ∈ s.held) : ∃ m, m ∈ s.ownLimit? := by
  cases s with
  | object _ | array _ _ | tuple _ _ _ | record _ _ _ | map _ _ _ | set _ _ => exact ⟨_, rfl⟩
  | _ => exact absurd h List.not_mem_nil

/-! ## Exposed references -/

/-- A reference that is asked at the depth of the schema. -/
inductive Exposes : Schema → Reference → Prop
  | here (ref : Reference) : Exposes (.lazy ref) ref
  | through {s t : Schema} {ref : Reference} (ht : t ∈ s.bare) (h : Exposes t ref) :
    Exposes s ref

end Schema

namespace Family

variable {family : Family}

/-- A lazy node names one of the definitions. -/
def Defines (family : Family) : Schema → Prop
  | .lazy ref => ∃ s, Keyed.find? ref.name family = some s
  | _ => True

/-- The definitions name each other only. -/
def Closed (family : Family) : Prop := ∀ e ∈ family, e.2.Every family.Defines

/-- The definition of one name exposes a reference to another. -/
def Refers (family : Family) (a b : String) : Prop :=
  ∃ s ref, Keyed.find? a family = some s ∧ s.Exposes ref ∧ ref.name = b

/-- Every cycle of references passes through a container: there is none among exposed ones. -/
def Guarded (family : Family) : Prop := ∀ name : String, ¬ TransGen family.Refers name name

theorem defines_of_exposes {s : Schema} {ref : Reference} (hs : s.Every family.Defines)
    (h : s.Exposes ref) : ∃ t, Keyed.find? ref.name family = some t := by
  induction h with
  | here ref => exact hs.node
  | through ht _ ih => exact ih (hs.child (Schema.mem_children_of_bare ht))

/-! ## Ranks -/

open Classical in
/-- How many names are reached from a name by exposed references. -/
noncomputable def rank (family : Family) (name : String) : Nat :=
  ((Keyed.keys family).toFinset.filter fun other => TransGen family.Refers name other).card

theorem rank_le_length (name : String) : family.rank name ≤ family.length := by
  classical
  have hnames := List.toFinset_card_le (Keyed.keys family)
  have hlen : (Keyed.keys family).length = family.length := List.length_map _
  unfold rank
  exact le_trans (Finset.card_filter_le _ _) (hnames.trans hlen.le)

/-- An exposed reference goes down in rank: what it reaches was reached before, and it does not
reach itself. -/
theorem rank_lt (hg : family.Guarded) {a b : String} (hab : family.Refers a b)
    (hb : ∃ s, Keyed.find? b family = some s) : family.rank b < family.rank a := by
  classical
  obtain ⟨s, hs⟩ := hb
  have hmem : b ∈ (Keyed.keys family).toFinset :=
    List.mem_toFinset.mpr (List.mem_map_of_mem (Keyed.mem_of_find? hs))
  -- everything reached from the second name is reached from the first, too
  unfold rank
  refine Finset.card_lt_card (Finset.ssubset_iff_of_subset ?_ |>.mpr ?_)
  · intro other ho
    rw [Finset.mem_filter] at ho ⊢
    exact ⟨ho.1, TransGen.head hab ho.2⟩
  · refine ⟨b, ?_, ?_⟩
    · rw [Finset.mem_filter]
      exact ⟨hmem, TransGen.single hab⟩
    · rw [Finset.mem_filter]
      exact fun h => hg b h.2

end Family

/-! ## Answers -/

section

variable {family : Family} {mode : Mode} {resolve : Resolution} {limit : Nat}

/-- Evaluators answer wherever the layers over them do. -/
def Schema.AnswersByLayers (mode : Mode) (resolve : Resolution) (e : Schema → Evaluator) : Prop :=
  ∀ s depth, (s.layer mode resolve e).judge.Answers depth → (e s).judge.Answers depth

theorem Schema.evaluator_answersByLayers :
    Schema.AnswersByLayers mode resolve (evaluator mode resolve) := by
  intro s depth h
  rw [Schema.evaluator_eq_layer]
  exact h

/-- A schema answers if the exposed references answer where it stands and all others below. -/
theorem Schema.layered_answers {e : Schema → Evaluator}
    (he : Schema.AnswersByLayers mode resolve e) {s : Schema}
    (hs : s.Every fun t => family.Defines t ∧ t.LimitedTo limit) {depth : Nat}
    (hexposed : ∀ ref, s.Exposes ref → (resolve ref).judge.Answers depth)
    (hdeep : ∀ ref, (∃ t, Keyed.find? ref.name family = some t) → ∀ d, depth < d →
      d ≤ limit + 1 → (resolve ref).judge.Answers d) :
    (e s).judge.Answers depth := by
  -- the induction is on the schema, the depth grows where a container is passed
  induction hs generalizing depth with
  | intro s node below ih =>
    refine he s depth
      (layer_answers (fun ref hr => hexposed ref (hr ▸ .here ref)) (fun t ht => ?_) ?_)
    · exact ih t (mem_children_of_bare ht) (fun ref hr => hexposed ref (.through ht hr)) hdeep
    · intro hlimit t ht
      obtain ⟨m, hm⟩ := ownLimit?_of_mem_held ht
      have hd : depth ≤ limit := (hlimit m hm).trans (node.2 m hm)
      have hdefines := (below t (mem_children_of_held ht)).mono fun _ h => h.1
      -- below a container all references count as deep ones
      refine ih t (mem_children_of_held ht) (fun ref hr => ?_) fun ref hr d hlt hle => ?_
      · exact hdeep ref (Family.defines_of_exposes hdefines hr) _ (Nat.lt_succ_self depth)
          (by omega)
      · exact hdeep ref hr d (by omega) hle

/-- A reference answers once its budget covers the levels that are left and its rank. -/
theorem Family.resolution_answers (hc : family.Closed) (hg : family.Guarded)
    (hl : family.depthLimit ≤ limit) {budget : Nat} : ∀ {depth : Nat} {ref : Reference},
    (∃ t, Keyed.find? ref.name family = some t) →
    (limit + 1 - depth) * (family.length + 1) + family.rank ref.name < budget →
    (family.resolution mode budget ref).judge.Answers depth := by
  -- the induction is on the budget, which pays for both ways of going down
  induction budget with
  | zero => exact fun _ h => absurd h (Nat.not_lt_zero _)
  | succ budget ih =>
    intro depth ref hdef hbudget
    obtain ⟨s, hs⟩ := hdef
    have hmem := Keyed.mem_of_find? hs
    have hlimit : s.depthLimit ≤ limit :=
      (Schema.depthLimit_le_fieldDepthLimits hmem).trans hl
    have hevery : s.Every fun t => family.Defines t ∧ t.LimitedTo limit :=
      (hc _ hmem).and (Schema.every_limitedTo s hlimit)
    unfold Family.resolution
    rw [hs]
    refine Schema.layered_answers Schema.evaluator_answersByLayers hevery (fun ref' hr => ?_)
      fun ref' hr d hlt hle => ?_
    · -- one definition hands its value to another one: the rank drops
      have hdef' := Family.defines_of_exposes (hc _ hmem) hr
      have hrank := Family.rank_lt hg ⟨s, ref', hs, hr, rfl⟩ hdef'
      exact ih hdef' (by omega)
    · -- a level was passed: it pays for any rank
      have hrank : family.rank ref'.name ≤ family.length := Family.rank_le_length _
      have hlevels : limit + 1 - d + 1 ≤ limit + 1 - depth := by omega
      have hsteps := Nat.mul_le_mul_right (family.length + 1) hlevels
      rw [Nat.add_mul, Nat.one_mul] at hsteps
      exact ih hr (by omega)

end

/-- The budget of a value covers the levels that are left at any depth and the rank of any name. -/
theorem Family.levels_lt_budget (family : Family) (schema : Schema) (v : Value) (depth : Nat)
    (name : String) :
    (max schema.depthLimit family.depthLimit + 1 - depth) * (family.length + 1)
      + family.rank name < family.budget schema v := by
  have hrank : family.rank name ≤ family.length := Family.rank_le_length _
  -- the levels that are left are at most all levels, each worth one run through the names
  have hlevels : max schema.depthLimit family.depthLimit + 1 - depth
      ≤ max schema.depthLimit family.depthLimit + 1 := Nat.sub_le _ _
  have hsteps := Nat.mul_le_mul_right (family.length + 1) hlevels
  have hbudget : (max schema.depthLimit family.depthLimit + 1 + 1) * (family.length + 1)
      ≤ family.budget schema v := by
    unfold Family.budget
    exact Nat.mul_le_mul_right _ (by omega)
  rw [Nat.add_mul _ 1, Nat.one_mul] at hbudget
  omega

/-- The references that the judgement of a value meets answer at every depth. -/
theorem Family.budget_answers {family : Family} {mode : Mode} {schema : Schema}
    (hc : family.Closed) (hg : family.Guarded) (v : Value) (depth : Nat) {ref : Reference}
    (hdef : ∃ t, Keyed.find? ref.name family = some t) :
    (family.resolution mode (family.budget schema v) ref).judge.Answers depth :=
  Family.resolution_answers hc hg (Nat.le_max_right schema.depthLimit _) hdef
    (family.levels_lt_budget schema v depth ref.name)

/-- A family is the ground of a schema: all references are defined, and no cycle of them does
without a container. -/
structure Family.Grounds (family : Family) (schema : Schema) : Prop where
  closed : family.Closed
  guarded : family.Guarded
  defines : schema.Every family.Defines

/-- A schema without references needs no definitions. -/
theorem Family.nil_grounds {schema : Schema} (h : schema.Every (Family.Defines [])) :
    Family.Grounds [] schema where
  closed := fun e he => absurd he List.not_mem_nil
  guarded := by
    intro name h
    obtain ⟨b, ⟨s, ref, hs, _⟩, _⟩ := Relation.TransGen.head'_iff.mp h
    cases hs
  defines := h

/-- **Every value is judged**, by whatever evaluators answer by layers. -/
theorem Family.layered_answers {family : Family} {schema : Schema} {mode : Mode}
    {e : Schema → Evaluator} {v : Value}
    (he : Schema.AnswersByLayers mode (family.resolution mode (family.budget schema v)) e)
    (hg : family.Grounds schema) (depth : Nat) : (e schema).judge.Answers depth := by
  have hevery : schema.Every fun t =>
      family.Defines t ∧ t.LimitedTo (max schema.depthLimit family.depthLimit) :=
    hg.defines.and (Schema.every_limitedTo schema (Nat.le_max_left _ _))
  refine Schema.layered_answers he hevery (fun ref hr => ?_) fun ref hr d _ _ => ?_
  · exact Family.budget_answers hg.closed hg.guarded v depth
      (Family.defines_of_exposes hg.defines hr)
  · exact Family.budget_answers hg.closed hg.guarded v d hr

theorem Family.evaluator_answers {family : Family} {schema : Schema} (mode : Mode)
    (hg : family.Grounds schema) (v : Value) (depth : Nat) :
    (family.evaluator mode schema v).judge.Answers depth :=
  Family.layered_answers Schema.evaluator_answersByLayers hg depth

/-! ## Trees

A definition that refers to itself, for the laws below to be read on. -/

/-- A tree: a label, and trees below. -/
def Schema.treeNode : Schema :=
  .object ⟨[("label", .text .any), ("below", .array (.lazy ⟨"tree", 0⟩) .any)], .strict,
    Limits.standard⟩

/-- Trees, defined by themselves. -/
def Family.trees : Family := [("tree", Schema.treeNode)]

/-- A tree, or a label that is not empty. -/
def Schema.labelOrTree : Schema :=
  .union [.modified (.superRefine fun _ v => ([], .ok (v.string? != some ""))) (.text .any),
    .lazy ⟨"tree", 0⟩]

/-- A tree of two labels. -/
def Value.twig : Value :=
  .object (.given 1) [("label", .string "twig"), ("below", .array (.given 2)
    [.object (.given 3) [("label", .string "leaf"), ("below", .array (.given 4) [])]])]

section

variable {p : Schema → Prop}

theorem Schema.treeNode_every (hnode : p Schema.treeNode) (htext : p (.text .any))
    (harray : p (.array (.lazy ⟨"tree", 0⟩) .any)) (hlazy : p (.lazy ⟨"tree", 0⟩)) :
    Schema.treeNode.Every p := by
  refine .intro _ hnode fun t ht => ?_
  simp only [treeNode, children, bare, held, List.nil_append, List.map_cons, List.map_nil,
    List.mem_cons, List.not_mem_nil, or_false] at ht
  rcases ht with rfl | rfl
  · exact .intro _ htext fun t ht => absurd ht List.not_mem_nil
  · refine .intro _ harray fun t ht => ?_
    cases List.mem_singleton.mp (show t ∈ [Schema.lazy ⟨"tree", 0⟩] from ht)
    exact .intro _ hlazy fun t ht => absurd ht List.not_mem_nil

theorem Schema.labelOrTree_every (hunion : p Schema.labelOrTree)
    (hlabel : p (.modified (.superRefine fun _ v => ([], .ok (v.string? != some ""))) (.text .any)))
    (htext : p (.text .any)) (hlazy : p (.lazy ⟨"tree", 0⟩)) : Schema.labelOrTree.Every p := by
  refine .intro _ hunion fun t ht => ?_
  simp only [labelOrTree, children, bare, held, List.append_nil, List.mem_cons, List.not_mem_nil,
    or_false] at ht
  rcases ht with rfl | rfl
  · refine .intro _ hlabel fun t ht => ?_
    cases List.mem_singleton.mp (show t ∈ [Schema.text .any] from ht)
    exact .intro _ htext fun t ht => absurd ht List.not_mem_nil
  · exact .intro _ hlazy fun t ht => absurd ht List.not_mem_nil

end

/-- Trees are a ground: the only reference to a tree stands below an array. -/
theorem Family.trees_grounds : Family.trees.Grounds Schema.labelOrTree where
  closed := by
    intro e he
    cases List.mem_singleton.mp he
    exact Schema.treeNode_every trivial trivial trivial ⟨_, rfl⟩
  guarded := by
    intro name h
    obtain ⟨b, ⟨s, ref, hs, hexposed, _⟩, _⟩ := Relation.TransGen.head'_iff.mp h
    cases List.mem_singleton.mp (Keyed.mem_of_find? hs)
    cases hexposed with
    | through ht _ => exact absurd ht List.not_mem_nil
  defines := Schema.labelOrTree_every trivial trivial trivial ⟨_, rfl⟩

end ValueSchema
