/-
Compiled evaluation on a ration of containers.

A compiled schema is nodes over nodes, down to the references, which are left to their definitions.
Its judges, tests and outputs take their pieces of a ration as those of a schema do, so the bound
on nested containers is the same. With it all four ways to look at a value come to an answer: a
schema and its compiled form, judging and testing.
-/
import ValueSchema.Proofs.Compiled.Judging
import ValueSchema.Proofs.Termination.Rations
import ValueSchema.Proofs.Termination.Outputs

set_option autoImplicit false

namespace ValueSchema

open List (Forall₂)

/-! ## Nodes that are defined further -/

/-- The first node comes to nothing or to what the second one comes to, and has an output if the
second one has. -/
structure Node.Extends (n n' : Node) : Prop where
  evaluator : n.evaluator.Extends n'.evaluator
  output : Option.Rel Output.Extends n.output n'.output

/-- Testing first keeps the order. -/
theorem Node.fastJudge_extends {judge judge' : Judge} {test test' : Test} {o o' : Output}
    (hj : judge.Lifts "" judge') (ht : test.Extends test') (ho : o.Extends o') :
    (fastJudge judge test o).Lifts "" (fastJudge judge' test' o') := by
  intro s v c verdict hv
  rw [Context.under_empty, Verdict.under_empty]
  obtain ⟨passed, hp, hv⟩ := Option.bind_eq_some_iff.mp hv
  have hp' := ht hp
  simp only [fastJudge]
  rw [hp']
  cases passed with
  | true =>
    obtain ⟨w, hw, rfl⟩ := Option.map_eq_some_iff.mp hv
    exact congrArg (Option.map Except.ok) (ho.apply hw)
  | false => exact hj.same hv

/-- Related values under the same keys. -/
theorem Keyed.zip_like {α β : Type} {R : α → β → Prop} {l : List α} {l' : List β}
    (h : Forall₂ R l l') : ∀ keys : List String,
    Forall₂ (Keyed.Like R) (keys.zip l) (keys.zip l') := by
  induction h with
  | nil => exact fun keys => by rw [List.zip_nil_right, List.zip_nil_right]; exact .nil
  | cons head _ ih =>
    intro keys
    cases keys with
    | nil => exact .nil
    | cons key rest => exact .cons ⟨rfl, head⟩ (ih rest)

namespace Schema

section

variable {resolve resolve' : Resolution} {child child' : Schema → Node} {s : Schema}

theorem outputs_extends {σ : Type} {node node' : σ → Node} {l : List σ}
    (h : ∀ x ∈ l, (node x).Extends (node' x)) :
    Option.Rel (Forall₂ Output.Extends) (Output.all? (l.map fun x => (node x).output))
      (Output.all? (l.map fun x => (node' x).output)) := by
  refine Output.all?_extends ?_
  rw [List.forall₂_map_left_iff, List.forall₂_map_right_iff, List.forall₂_same]
  exact fun x hx => (h x hx).output

theorem childOutput?_extends {rest : Option Schema} (h : ∀ t ∈ rest, (child t).Extends (child' t)) :
    Option.Rel (Option.Rel Output.Extends) (Node.childOutput? (rest.map child))
      (Node.childOutput? (rest.map child')) := by
  cases rest with
  | none => exact .some .none
  | some t => exact (h t rfl).output.map fun _ _ ho => .some ho

/-- The output of a node is told on both sides or on neither. -/
theorem nodeLayer_output (h : ∀ t ∈ s.children, (child t).Extends (child' t)) :
    Option.Rel Output.Extends (s.nodeLayer resolve child).output
      (s.nodeLayer resolve' child').output := by
  have hbare := fun t (ht : t ∈ s.bare) => h t (mem_children_of_bare ht)
  have hheld := fun t (ht : t ∈ s.held) => h t (mem_children_of_held ht)
  cases s with
  | object shape =>
    -- the outputs of the fields are told under the keys of the shape
    have hfields : Option.Rel (Forall₂ Output.Extends)
        (Output.all? (shape.fields.map fun f => (child f.2).output))
        (Output.all? (shape.fields.map fun f => (child' f.2).output)) :=
      outputs_extends fun f hf => hheld f.2 (List.mem_map_of_mem hf)
    simp only [nodeLayer, Node.object, Node.new, Node.shapeOutput?, Shape.map, Keyed.mapValues,
      List.map_map, Function.comp_def, Option.map_map]
    exact hfields.map fun _ _ hl => .object (Keyed.zip_like hl _) shape.unknown shape.limits
  | array element bounds =>
    exact (hheld element (by simp [held])).output.map fun _ _ ho => .array ho
  | tuple items rest limits =>
    have hitems := outputs_extends fun t ht => hheld t (List.mem_append_left _ ht)
    have hrest := childOutput?_extends fun t ht =>
      hheld t (List.mem_append_right items (Option.mem_toList.mpr ht))
    simp only [nodeLayer, Node.tuple, Node.new, List.map_map, Function.comp_def]
    exact hitems.bind fun _ _ hl => hrest.bind fun _ _ hr => .some (.tuple hl hr)
  | record key value limits =>
    have hkey := childOutput?_extends fun t ht =>
      hheld t (List.mem_append_left [value] (Option.mem_toList.mpr ht))
    exact hkey.bind fun _ _ hk => (hheld value (by simp [held])).output.bind fun _ _ hv =>
      .some (.record hk hv)
  | map key value limits =>
    exact (hheld key (by simp [held])).output.bind fun _ _ hk =>
      (hheld value (by simp [held])).output.bind fun _ _ hv => .some (.map hk hv)
  | set element bounds =>
    exact (hheld element (by simp [held])).output.map fun _ _ ho => .set ho
  | union options =>
    have htests := fun t ht => (hbare t ht).evaluator.test
    simp only [nodeLayer, Node.union, Node.new, List.map_map, Function.comp_def]
    exact (outputs_extends hbare).map fun _ _ hl => .union htests hl
  | tagged discriminator options =>
    have hoptions : ∀ o ∈ options, (child (object o)).Extends (child' (object o)) := fun o ho =>
      hbare (.object o) (List.mem_map_of_mem ho)
    simp only [nodeLayer, Node.tagged, Node.new, List.map_map, Function.comp_def]
    exact (outputs_extends hoptions).map fun _ _ hl => .tagged discriminator _ hl
  | modified m inner =>
    have hinner := hbare inner (by simp [bare])
    exact hinner.output.bind fun _ _ ho =>
      Output.Extends.modified m hinner.evaluator.test ho
  | intersection _ | lazy _ | pipe _ _ => exact .none
  | _ => exact .some (.refl _)

/-- **A node over extended children is extended.** -/
theorem nodeLayer_extends (href : ∀ ref, (resolve ref).Extends (resolve' ref))
    (h : ∀ t ∈ s.children, (child t).Extends (child' t)) :
    (s.nodeLayer resolve child).Extends (s.nodeLayer resolve' child') := by
  have hlayer : (s.layer .sync resolve fun t => (child t).evaluator).Extends
      (s.layer .sync resolve' fun t => (child' t).evaluator) :=
    layer_extends href fun t ht => (h t ht).evaluator
  obtain ⟨htest, hjudge⟩ := nodeLayer_over resolve child s
  obtain ⟨htest', hjudge'⟩ := nodeLayer_over resolve' child' s
  have houtput : Option.Rel Output.Extends (s.nodeLayer resolve child).output
      (s.nodeLayer resolve' child').output := nodeLayer_output h
  refine ⟨⟨?_, ?_⟩, houtput⟩
  · show (s.nodeLayer resolve child).judge.Lifts "" (s.nodeLayer resolve' child').judge
    rw [hjudge, hjudge']
    -- both nodes test first, or both judge in full
    rcases houtput.eq_or with ⟨hx, hy⟩ | ⟨o, o', hx, hy, ho⟩
    · rw [hx, hy]
      exact hlayer.judge
    · rw [hx, hy]
      exact Node.fastJudge_extends hlayer.judge hlayer.test ho
  · show (s.nodeLayer resolve child).test.Extends (s.nodeLayer resolve' child').test
    rw [htest, htest']
    exact hlayer.test

end

/-- A schema is compiled further over references that are. -/
theorem compile_extends {resolve resolve' : Resolution}
    (href : ∀ ref, (resolve ref).Extends (resolve' ref)) (s : Schema) :
    (s.compile resolve).Extends (s.compile resolve') := by
  induction s using Schema.induction with
  | node s ih =>
    rw [compile_eq_nodeLayer, compile_eq_nodeLayer]
    exact nodeLayer_extends href ih

end Schema

/-! ## Nodes that answer -/

/-- A node judges and tests every value at a depth, and has an output for what it accepts if it
has outputs at all. -/
structure Node.Answers (n : Node) (depth : Nat) : Prop where
  evaluator : n.evaluator.Answers depth
  output : ∀ o ∈ n.output, o.AnswersFor n.test depth

namespace Schema

variable {resolve : Resolution} {child : Schema → Node} {s : Schema} {depth : Nat}

/-- What a layer over children that answer accepts has an output. -/
theorem nodeLayer_output_answers {o : Output} (ho : (s.nodeLayer resolve child).output = some o)
    (hbare : ∀ t ∈ s.bare, (child t).Answers depth)
    (hheld : (∀ m ∈ s.ownLimit?, depth ≤ m) → ∀ t ∈ s.held, (child t).Answers (depth + 1)) :
    o.AnswersFor (s.layer .sync resolve fun t => (child t).evaluator).test depth := by
  obtain ⟨_, hlazy, htells⟩ := told_children ho
  have hin : ∀ t ∈ s.bare, (child t).told.AnswersFor (child t).test depth := fun t ht =>
    (hbare t ht).output _ (htells t (mem_children_of_bare ht))
  have hbelow : (∀ m ∈ s.ownLimit?, depth ≤ m) → ∀ t ∈ s.held,
      (child t).told.AnswersFor (child t).test (depth + 1) := fun hd t ht =>
    (hheld hd t ht).output _ (htells t (mem_children_of_held ht))
  cases s with
  | object shape =>
    obtain ⟨rfl, _⟩ := told_object ho
    exact .object fun hd f hf =>
      hbelow (by simpa [ownLimit?] using hd) f.2 (List.mem_map_of_mem hf)
  | array element bounds =>
    obtain ⟨rfl, _⟩ := told_array ho
    exact .array bounds fun hd => hbelow (by simpa [ownLimit?] using hd) element (by simp [held])
  | tuple items rest limits =>
    obtain ⟨rfl, _⟩ := told_tuple ho
    exact .tuple limits fun hd => hbelow (by simpa [ownLimit?] using hd)
  | record key value limits =>
    obtain ⟨rfl, _⟩ := told_record ho
    refine .record limits (fun hd x hx => ?_) fun hd => ?_
    · exact hbelow (by simpa [ownLimit?] using hd) x (by simp [held, Option.mem_def.mp hx])
    · exact hbelow (by simpa [ownLimit?] using hd) value (by simp [held])
  | map key value limits =>
    obtain ⟨rfl, _⟩ := told_map ho
    refine .map limits (fun hd => ?_) fun hd => ?_
    · exact hbelow (by simpa [ownLimit?] using hd) key (by simp [held])
    · exact hbelow (by simpa [ownLimit?] using hd) value (by simp [held])
  | set element bounds =>
    obtain ⟨rfl, _⟩ := told_set ho
    exact .set bounds fun hd => hbelow (by simpa [ownLimit?] using hd) element (by simp [held])
  | union options =>
    obtain ⟨rfl, _⟩ := told_union ho
    exact .union hin
  | tagged discriminator options =>
    obtain ⟨rfl, _⟩ := told_tagged ho
    exact .tagged discriminator _ fun shape hs => hin (.object shape) (List.mem_map_of_mem hs)
  | modified m inner =>
    obtain ⟨hm, _⟩ := told_modified ho
    have hinner := hbare inner (by simp [bare])
    exact .modified (hin inner (by simp [bare])) hinner.evaluator.test hm
  | intersection _ | pipe _ _ => cases ho
  | lazy ref => exact absurd rfl (hlazy ref)
  | text t =>
    simp only [nodeLayer, Node.text] at ho
    -- a text is shared, or put together anew
    cases ht : t.transforms with
    | nil =>
      rw [ht] at ho
      cases ho
      exact .same _ _
    | cons y rest =>
      rw [ht] at ho
      cases ho
      exact fun _ v _ => by cases v <;> exact ⟨_, rfl⟩
  | _ =>
    cases ho
    exact .same _ _

/-- **A node over children that answer answers.** -/
theorem nodeLayer_answers (href : ∀ ref, s = .lazy ref → (resolve ref).Answers depth)
    (hbare : ∀ t ∈ s.bare, (child t).Answers depth)
    (hheld : (∀ m ∈ s.ownLimit?, depth ≤ m) → ∀ t ∈ s.held, (child t).Answers (depth + 1)) :
    (s.nodeLayer resolve child).Answers depth := by
  have hlayer : (s.layer .sync resolve fun t => (child t).evaluator).Answers depth :=
    layer_evaluator_answers href (fun t ht => (hbare t ht).evaluator)
      fun hd t ht => (hheld hd t ht).evaluator
  obtain ⟨htest, hjudge⟩ := nodeLayer_over resolve child s
  have houtput : ∀ o ∈ (s.nodeLayer resolve child).output,
      o.AnswersFor (s.nodeLayer resolve child).test depth := by
    rw [htest]
    exact fun o ho => nodeLayer_output_answers ho hbare hheld
  refine ⟨⟨?_, ?_⟩, houtput⟩
  · show (s.nodeLayer resolve child).judge.Answers depth
    cases ho : (s.nodeLayer resolve child).output with
    | none =>
      rw [hjudge, ho]
      exact hlayer.judge
    | some o =>
      rw [hjudge, ho]
      show (Node.fastJudge _ _ o).Answers depth
      intro site v c hc
      subst hc
      obtain ⟨passed, hp⟩ := hlayer.test site v
      -- an accepted input has its output looked up, a rejected one is judged in full
      cases passed with
      | true =>
        obtain ⟨w, hw⟩ := houtput o ho site v (by rw [htest]; exact hp)
        exact ⟨.ok w, by rw [Node.fastJudge_of_accepts hp, hw]; rfl⟩
      | false =>
        obtain ⟨verdict, hv⟩ := hlayer.judge site v c rfl
        exact ⟨verdict, (Node.fastJudge_of_rejects hp).trans hv⟩
  · show (s.nodeLayer resolve child).test.Answers depth
    rw [htest]
    exact hlayer.test

end Schema

/-! ## Rations -/

/-- An output without answers that shares its inputs if the output did. -/
def Output.silenced : Output → Output
  | same => same
  | build _ => build fun _ _ _ => none

/-- A node without answers that has an output if the node had one. -/
def Node.silenced (n : Node) : Node :=
  ⟨fun _ _ _ => none, fun _ _ _ => none, n.output.map Output.silenced, n.stats⟩

theorem Output.silenced_extends {o o' : Output} (h : o.Extends o') : o.silenced.Extends o' := by
  cases o with
  | same => exact h
  | build f => exact ⟨h.same, fun _ _ _ _ hw => (nomatch hw)⟩

theorem Node.silenced_extends {n n' : Node} (h : n.Extends n') : n.silenced.Extends n' where
  evaluator := ⟨fun _ _ _ _ hv => (nomatch hv), fun _ _ _ _ hp => (nomatch hp)⟩
  output := by
    rcases h.output.eq_or with ⟨hx, hy⟩ | ⟨o, o', hx, hy, ho⟩
    · simp only [silenced]
      rw [hx, hy]
      exact .none
    · simp only [silenced]
      rw [hx, hy]
      exact .some (Output.silenced_extends ho)

namespace Schema

/-- The compiled form of a schema on a ration of containers, over what references mean on what is
left of it. -/
noncomputable def rationedNode (resolve : Nat → Resolution) (ration : Nat) (s : Schema) : Node :=
  match s.rationBelow ration with
  | none => (s.compile fun _ => .unresolved).silenced
  | some left =>
    s.nodeLayer (resolve left) fun t =>
      if sizeOf t < sizeOf s then t.rationedNode resolve left
      else (t.compile fun _ => .unresolved).silenced
termination_by sizeOf s

theorem nodeLayer_congr {resolve : Resolution} {child child' : Schema → Node} {s : Schema}
    (h : ∀ t ∈ s.children, child t = child' t) :
    s.nodeLayer resolve child = s.nodeLayer resolve child' := by
  have hbare := fun t (ht : t ∈ s.bare) => h t (mem_children_of_bare ht)
  have hheld := fun t (ht : t ∈ s.held) => h t (mem_children_of_held ht)
  cases s with
  | object shape =>
    have hmap : shape.map child = shape.map child' :=
      Shape.map_congr fun f hf => hheld f.2 (List.mem_map_of_mem hf)
    simp only [nodeLayer, hmap]
  | tuple items rest limits =>
    have hitems : items.map child = items.map child' :=
      List.map_congr_left fun t ht => hheld t (List.mem_append_left _ ht)
    have hrest : rest.map child = rest.map child' :=
      Option.map_congr fun t ht => hheld t (List.mem_append_right _ (Option.mem_toList.mpr ht))
    simp only [nodeLayer, hitems, hrest]
  | record key value limits =>
    have hkey : key.map child = key.map child' :=
      Option.map_congr fun t ht => hheld t (List.mem_append_left _ (Option.mem_toList.mpr ht))
    simp only [nodeLayer, hkey, hheld value (by simp [held])]
  | union options | intersection options =>
    have hoptions : options.map child = options.map child' := List.map_congr_left hbare
    simp only [nodeLayer, hoptions]
  | tagged discriminator options =>
    have hoptions : options.map (fun o => child (object o))
        = options.map fun o => child' (object o) :=
      List.map_congr_left fun o ho => hbare (.object o) (List.mem_map_of_mem ho)
    simp only [nodeLayer, hoptions]
  | array element _ | set element _ => simp only [nodeLayer, hheld element (by simp [held])]
  | map key value limits =>
    simp only [nodeLayer, hheld key (by simp [held]), hheld value (by simp [held])]
  | modified m inner => simp only [nodeLayer, hbare inner (by simp [bare])]
  | pipe first next =>
    simp only [nodeLayer, hbare first (by simp [bare]), hbare next (by simp [bare])]
  | _ => rfl

variable {resolve : Nat → Resolution} {s : Schema} {ration left : Nat}

theorem rationedNode_of_none (h : s.rationBelow ration = none) :
    s.rationedNode resolve ration = (s.compile fun _ => .unresolved).silenced := by
  rw [rationedNode, h]

theorem rationedNode_of_some (h : s.rationBelow ration = some left) :
    s.rationedNode resolve ration
      = s.nodeLayer (resolve left) (rationedNode resolve left) := by
  rw [rationedNode, h]
  exact nodeLayer_congr fun t ht => if_pos (sizeOf_lt_of_mem_children ht)

/-- On a ration a compiled schema comes to nothing or to what it comes to without. -/
theorem rationedNode_extends {resolve' : Resolution}
    (href : ∀ ration ref, (resolve ration ref).Extends (resolve' ref)) (s : Schema) (ration : Nat) :
    (s.rationedNode resolve ration).Extends (s.compile resolve') := by
  induction s using Schema.induction generalizing ration with
  | node s ih =>
    cases hleft : s.rationBelow ration with
    | none =>
      rw [rationedNode_of_none hleft]
      exact Node.silenced_extends (compile_extends (fun _ => Evaluator.unresolved_extends _) s)
    | some left =>
      rw [rationedNode_of_some hleft, compile_eq_nodeLayer]
      exact nodeLayer_extends (href left) fun t ht => ih t ht left

/-- **A compiled schema answers on a ration that covers its depth** if its references do. -/
theorem rationedNode_answers {family : Family} {limit : Nat} {s : Schema}
    (hs : s.Every fun t => family.Defines t ∧ t.LimitedTo limit) {depth ration : Nat}
    (hcovers : Covers limit ration depth)
    (hexposed : ∀ ref, s.Exposes ref → (resolve ration ref).Answers depth)
    (hdeep : ∀ ref, (∃ t, Keyed.find? ref.name family = some t) → ∀ d left, depth < d →
      d ≤ limit + 1 → Covers limit left d → (resolve left ref).Answers d) :
    (s.rationedNode resolve ration).Answers depth := by
  refine covered_induction (fun ration depth s => (s.rationedNode resolve ration).Answers depth)
    (fun ration depth ref => (resolve ration ref).Answers depth)
    (fun {s ration depth} hown href hbare => ?_) (fun {s left depth m} hown hheld => ?_)
    hs hcovers hexposed hdeep
  · rw [rationedNode_of_some (rationBelow_of_none hown ration)]
    exact nodeLayer_answers href hbare fun _ t ht => absurd ht (not_mem_held hown)
  · rw [rationedNode_of_some (rationBelow_of_some hown left)]
    refine nodeLayer_answers (fun ref hr => absurd hr (ne_lazy hown ref))
      (fun t ht => absurd ht (not_mem_bare hown)) fun hd => hheld (hd m hown)

end Schema

end ValueSchema
