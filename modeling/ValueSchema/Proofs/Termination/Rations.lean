/-
Evaluation on a ration of containers.

How deep evaluations are nested is told by evaluating on a ration: every container on the way takes
one piece of it, a reference takes none, and a container that finds nothing left comes to nothing.
So an evaluation that comes to an answer on a ration nests no more containers than the ration has
pieces, on any chain of evaluations inside each other.

On a ration nothing is answered that is not answered without. Conversely two pieces more than the
depth limits are enough: a container hands its parts to its children only within its limit, one
level deeper, so the ration that is left and the depth that is reached always make up the limits,
and the container that would be one too many is too deep to ask its children anything.
-/
import ValueSchema.Proofs.Termination.Tests
import ValueSchema.Proofs.Termination.Extension
import ValueSchema.Proofs.Termination.Families

set_option autoImplicit false

namespace ValueSchema

/-! ## Rations -/

namespace Schema

/-- What a node leaves of a ration: a container takes one piece, if there is one. -/
def rationBelow (s : Schema) (ration : Nat) : Option Nat :=
  match s.ownLimit?, ration with
  | none, ration => some ration
  | some _, 0 => none
  | some _, left + 1 => some left

/-- The evaluator of a schema on a ration of containers, over what references mean on what is left
of it. -/
noncomputable def rationed (resolve : Nat → Resolution) (ration : Nat) (s : Schema) : Evaluator :=
  match s.rationBelow ration with
  | none => .unresolved
  | some left =>
    s.layer .sync (resolve left) fun t =>
      if sizeOf t < sizeOf s then t.rationed resolve left else .unresolved
termination_by sizeOf s

/-- A layer reads nothing of evaluators but those of the children. -/
theorem layer_congr {mode : Mode} {resolve : Resolution} {child child' : Schema → Evaluator}
    {s : Schema} (h : ∀ t ∈ s.children, child t = child' t) :
    s.layer mode resolve child = s.layer mode resolve child' := by
  have hbare := fun t (ht : t ∈ s.bare) => h t (mem_children_of_bare ht)
  have hheld := fun t (ht : t ∈ s.held) => h t (mem_children_of_held ht)
  cases s with
  | object shape =>
    have hmap : ∀ {τ : Type} (f : Evaluator → τ),
        shape.map (fun t => f (child t)) = shape.map fun t => f (child' t) := fun f =>
      Shape.map_congr fun x hx => congrArg f (hheld x.2 (List.mem_map_of_mem hx))
    simp only [layer, hmap]
  | tuple items rest limits =>
    have hitems : ∀ {τ : Type} (f : Evaluator → τ),
        items.map (fun t => f (child t)) = items.map fun t => f (child' t) := fun f =>
      List.map_congr_left fun t ht => congrArg f (hheld t (List.mem_append_left _ ht))
    have hrest : ∀ {τ : Type} (f : Evaluator → τ),
        rest.map (fun t => f (child t)) = rest.map fun t => f (child' t) := fun f =>
      Option.map_congr fun t ht =>
        congrArg f (hheld t (List.mem_append_right _ (Option.mem_toList.mpr ht)))
    simp only [layer, hitems, hrest]
  | record key value limits =>
    have hkey : ∀ {τ : Type} (f : Evaluator → τ),
        key.map (fun t => f (child t)) = key.map fun t => f (child' t) := fun f =>
      Option.map_congr fun t ht =>
        congrArg f (hheld t (List.mem_append_left _ (Option.mem_toList.mpr ht)))
    simp only [layer, hkey, hheld value (by simp [held])]
  | union options | intersection options =>
    have hoptions : ∀ {τ : Type} (f : Evaluator → τ),
        options.map (fun t => f (child t)) = options.map fun t => f (child' t) := fun f =>
      List.map_congr_left fun t ht => congrArg f (hbare t ht)
    simp only [layer, hoptions]
  | tagged discriminator options =>
    have hoptions : ∀ {τ : Type} (f : Evaluator → τ),
        options.map (fun o => f (child (.object o)))
          = options.map fun o => f (child' (.object o)) := fun f => List.map_congr_left fun o ho =>
        congrArg f (hbare (.object o) (List.mem_map_of_mem ho))
    simp only [layer, hoptions]
  | array element _ | set element _ => simp only [layer, hheld element (by simp [held])]
  | map key value limits =>
    simp only [layer, hheld key (by simp [held]), hheld value (by simp [held])]
  | modified m inner => simp only [layer, hbare inner (by simp [bare])]
  | pipe first next =>
    simp only [layer, hbare first (by simp [bare]), hbare next (by simp [bare])]
  | _ => rfl

variable {resolve : Nat → Resolution} {s : Schema} {ration left : Nat}

theorem rationed_of_none (h : s.rationBelow ration = none) :
    s.rationed resolve ration = .unresolved := by
  rw [rationed, h]

/-- A node with a piece of the ration is its layer over children on what is left. -/
theorem rationed_of_some (h : s.rationBelow ration = some left) :
    s.rationed resolve ration = s.layer .sync (resolve left) (rationed resolve left) := by
  rw [rationed, h]
  exact layer_congr fun t ht => if_pos (sizeOf_lt_of_mem_children ht)

theorem rationBelow_of_none (h : s.ownLimit? = none) (ration : Nat) :
    s.rationBelow ration = some ration := by
  unfold rationBelow
  rw [h]

theorem rationBelow_of_some {m : Nat} (h : s.ownLimit? = some m) (left : Nat) :
    s.rationBelow (left + 1) = some left := by
  unfold rationBelow
  rw [h]

/-- A container asks all its children one level deeper. -/
theorem not_mem_bare {m : Nat} (h : s.ownLimit? = some m) {t : Schema} : t ∉ s.bare := by
  cases s <;> first | exact List.not_mem_nil | cases h

/-- No other node does. -/
theorem not_mem_held (h : s.ownLimit? = none) {t : Schema} : t ∉ s.held := by
  intro ht
  obtain ⟨m, hm⟩ := ownLimit?_of_mem_held ht
  rw [h] at hm
  cases hm

theorem ne_lazy {m : Nat} (h : s.ownLimit? = some m) (ref : Reference) : s ≠ .lazy ref := by
  rintro rfl
  cases h

end Schema

/-- What references mean on a ration, when definitions are unfolded at most so many times inside
each other. -/
noncomputable def Family.rationing (family : Family) : Nat → Nat → Resolution
  | 0, _, _ => .unresolved
  | budget + 1, ration, ref =>
    match Keyed.find? ref.name family with
    | some definition => definition.rationed (family.rationing budget) ration
    | none => .unresolved

/-- The evaluator of a schema on a ration for the judgement of a value. -/
noncomputable def Family.rationed (family : Family) (ration : Nat) (schema : Schema) (v : Value) :
    Evaluator :=
  schema.rationed (family.rationing (family.budget schema v)) ration

/-! ## On a ration nothing else is answered -/

/-- On a ration a schema comes to nothing or to what it comes to without. -/
theorem Schema.rationed_extends {resolve : Nat → Resolution} {resolve' : Resolution}
    (href : ∀ ration ref, (resolve ration ref).Extends (resolve' ref)) (s : Schema) (ration : Nat) :
    (s.rationed resolve ration).Extends (s.evaluator .sync resolve') := by
  induction s using Schema.induction generalizing ration with
  | node s ih =>
    cases hleft : s.rationBelow ration with
    | none =>
      rw [rationed_of_none hleft]
      exact Evaluator.unresolved_extends _
    | some left =>
      rw [rationed_of_some hleft, evaluator_eq_layer]
      exact layer_extends (href left) fun t ht => ih t ht left

theorem Family.rationing_extends (family : Family) (budget : Nat) : ∀ (ration : Nat)
    (ref : Reference),
    (family.rationing budget ration ref).Extends (family.resolution .sync budget ref) := by
  induction budget with
  | zero => exact fun _ _ => Evaluator.unresolved_extends _
  | succ budget ih =>
    intro ration ref
    unfold rationing resolution
    cases Keyed.find? ref.name family with
    | none => exact Evaluator.unresolved_extends _
    | some definition => exact definition.rationed_extends ih ration

/-! ## A ration for all levels answers -/

section

variable {family : Family} {limit : Nat}

/-- A ration covers a depth: what is left of it and the depth make up the limits, and a container
that is too deep to ask its children anything still has a piece. -/
structure Covers (limit ration depth : Nat) : Prop where
  pos : 0 < ration
  le : limit + 2 ≤ ration + depth

/-- Within the limits a container leaves a ration that covers the next level. -/
theorem Covers.below {left depth : Nat} (h : Covers limit (left + 1) depth) (hd : depth ≤ limit) :
    Covers limit left (depth + 1) := by
  have hle := h.le
  exact ⟨by omega, by omega⟩

/-- What answers on a ration that covers its depth, as soon as the children and the references that
it asks do, answers for every schema whose exposed references answer where the schema stands, and
all others below on every ration that covers their depth. -/
theorem Schema.covered_induction (answers : Nat → Nat → Schema → Prop)
    (refers : Nat → Nat → Reference → Prop)
    (free : ∀ {s ration depth}, s.ownLimit? = none →
      (∀ ref, s = .lazy ref → refers ration depth ref) →
      (∀ t ∈ s.bare, answers ration depth t) → answers ration depth s)
    (container : ∀ {s left depth m}, s.ownLimit? = some m →
      (depth ≤ m → ∀ t ∈ s.held, answers left (depth + 1) t) → answers (left + 1) depth s)
    {s : Schema} (hs : s.Every fun t => family.Defines t ∧ t.LimitedTo limit)
    {depth ration : Nat} (hcovers : Covers limit ration depth)
    (hexposed : ∀ ref, s.Exposes ref → refers ration depth ref)
    (hdeep : ∀ ref, (∃ t, Keyed.find? ref.name family = some t) → ∀ d left, depth < d →
      d ≤ limit + 1 → Covers limit left d → refers left d ref) :
    answers ration depth s := by
  -- the induction is on the schema, depth and ration change where a container is passed
  induction hs generalizing depth ration with
  | intro s node below ih =>
    cases hown : s.ownLimit? with
    | none =>
      refine free hown (fun ref hr => hexposed ref (hr ▸ .here ref)) fun t ht => ?_
      exact ih t (mem_children_of_bare ht) hcovers (fun ref hr => hexposed ref (.through ht hr))
        hdeep
    | some m =>
      obtain ⟨left, rfl⟩ : ∃ left, ration = left + 1 :=
        Nat.exists_eq_succ_of_ne_zero (Nat.ne_of_gt hcovers.pos)
      refine container hown fun hlimit t ht => ?_
      -- the children are asked within the limit only, and all their references are deep
      have hd : depth ≤ limit := hlimit.trans (node.2 m hown)
      have hdefines := (below t (mem_children_of_held ht)).mono fun _ h => h.1
      have hleft := hcovers.below hd
      refine ih t (mem_children_of_held ht) hleft (fun ref hr => ?_) fun ref hr d k hlt hle => ?_
      · exact hdeep ref (Family.defines_of_exposes hdefines hr) _ _ (Nat.lt_succ_self depth)
          (by omega) hleft
      · exact hdeep ref hr d k (by omega) hle

/-- **A schema answers on a ration that covers its depth** if its references do. -/
theorem Schema.rationed_answers {resolve : Nat → Resolution} {s : Schema}
    (hs : s.Every fun t => family.Defines t ∧ t.LimitedTo limit) {depth ration : Nat}
    (hcovers : Covers limit ration depth)
    (hexposed : ∀ ref, s.Exposes ref → (resolve ration ref).Answers depth)
    (hdeep : ∀ ref, (∃ t, Keyed.find? ref.name family = some t) → ∀ d left, depth < d →
      d ≤ limit + 1 → Covers limit left d → (resolve left ref).Answers d) :
    (s.rationed resolve ration).Answers depth := by
  refine covered_induction (fun ration depth s => (s.rationed resolve ration).Answers depth)
    (fun ration depth ref => (resolve ration ref).Answers depth)
    (fun {s ration depth} hown href hbare => ?_) (fun {s left depth m} hown hheld => ?_)
    hs hcovers hexposed hdeep
  · rw [rationed_of_some (rationBelow_of_none hown ration)]
    exact layer_evaluator_answers href hbare fun _ t ht => absurd ht (not_mem_held hown)
  · rw [rationed_of_some (rationBelow_of_some hown left)]
    refine layer_evaluator_answers (fun ref hr => absurd hr (ne_lazy hown ref))
      (fun t ht => absurd ht (not_mem_bare hown)) fun hd => hheld (hd m hown)

/-- A reference answers on a ration once its budget covers the levels that are left and its
rank. -/
theorem Family.rationing_answers (hc : family.Closed) (hg : family.Guarded)
    (hl : family.depthLimit ≤ limit) {budget : Nat} : ∀ {depth ration : Nat} {ref : Reference},
    (∃ t, Keyed.find? ref.name family = some t) →
    (limit + 1 - depth) * (family.length + 1) + family.rank ref.name < budget →
    Covers limit ration depth → (family.rationing budget ration ref).Answers depth := by
  -- the induction is on the budget, as without a ration
  induction budget with
  | zero => exact fun _ h => absurd h (Nat.not_lt_zero _)
  | succ budget ih =>
    intro depth ration ref hdef hbudget hcovers
    obtain ⟨s, hs⟩ := hdef
    have hmem := Keyed.mem_of_find? hs
    have hlimit : s.depthLimit ≤ limit :=
      (Schema.depthLimit_le_fieldDepthLimits hmem).trans hl
    have hevery : s.Every fun t => family.Defines t ∧ t.LimitedTo limit :=
      (hc _ hmem).and (Schema.every_limitedTo s hlimit)
    unfold Family.rationing
    rw [hs]
    refine Schema.rationed_answers hevery hcovers (fun ref' hr => ?_)
      fun ref' hr d left hlt hle hleft => ?_
    · have hdef' := Family.defines_of_exposes (hc _ hmem) hr
      have hrank := Family.rank_lt hg ⟨s, ref', hs, hr, rfl⟩ hdef'
      exact ih hdef' (by omega) hcovers
    · have hrank : family.rank ref'.name ≤ family.length := Family.rank_le_length _
      have hlevels : limit + 1 - d + 1 ≤ limit + 1 - depth := by omega
      have hsteps := Nat.mul_le_mul_right (family.length + 1) hlevels
      rw [Nat.add_mul, Nat.one_mul] at hsteps
      exact ih hr (by omega) hleft

end

end ValueSchema
