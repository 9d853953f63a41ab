/-
Likenesses of schemas.

A leaf answers alike wherever it stands, as it reads nothing of its context but the path that its
issues carry. With the containers and the choices before, every kind of node is a layer alike over
alike children, on what its kind reads of the likeness. So whole schemas are alike under what
their nodes ask for, by the induction on schemas.
-/
import ValueSchema.Proofs.Likeness.Choices
import ValueSchema.Proofs.Layer

set_option autoImplicit false

namespace ValueSchema

namespace Likeness

variable {L : Likeness}

/-! ## Leaves -/

/-- The two halves of a leaf answer alike. -/
def Leaf (L : Likeness) (run : Context → Value → Verdict) (accepts : Value → Bool) : Prop :=
  ∀ ⦃c c' : Context⦄ ⦃v w : Value⦄, L.context c c' → L.input v w →
    L.verdict (run c v) (run c' w) ∧ accepts v = accepts w

/-- Alike inputs are one value. -/
def Sharp (L : Likeness) : Prop := ∀ ⦃v w : Value⦄, L.input v w → v = w

theorem keepsKeys_of_sharp (h : L.Sharp) : L.KeepsKeys := fun _ _ hvw => congrArg _ (h hvw)

theorem keepsRepeats_of_sharp (h : L.Sharp) : L.KeepsRepeats :=
  keepsRepeats_of_keepsKeys (keepsKeys_of_sharp h)

theorem leaf_judge {run : Context → Value → Verdict} {accepts : Value → Bool}
    (h : L.Leaf run accepts) : L.Judges (Evaluator.leaf run accepts).judge
      (Evaluator.leaf run accepts).judge :=
  fun _ _ _ _ _ _ _ hv hc => .some (h hc hv).1

theorem leaf_test (hroot : L.Rooted) {run : Context → Value → Verdict} {accepts : Value → Bool}
    (h : L.Leaf run accepts) : L.Tests (Evaluator.leaf run accepts).test
      (Evaluator.leaf run accepts).test :=
  fun _ _ _ _ depth _ hv => congrArg some (h (hroot depth) hv).2

variable {c c' : Context} {v w : Value}

/-- A leaf of one type refuses whatever is of another type. -/
theorem mismatch_like (hc : L.context c c') (hv : L.input v w) (code : Code) (name : String) :
    L.verdict (Verdict.reject (c.typeMismatch code name v))
      (Verdict.reject (c'.typeMismatch code name w)) :=
  verdict_reject (issues_typeMismatch hc code name hv)

theorem text_leaf (t : TextSchema) : L.Leaf t.run t.accepts := by
  intro c c' v w hc hv
  have hmis := mismatch_like hc hv .notString "string"
  cases L.input_parts hv with
  | @plain v hp =>
    cases v with
    | string s =>
      refine ⟨?_, rfl⟩
      simp only [TextSchema.run]
      rcases t.firstFailure? s with _ | k | r
      · exact .ok (L.output_of_input (L.input_plain rfl))
      · -- which check fails is told by the text alone
        have hlocal : ∀ c, k.issue c s = (k.issue Context.root s).atPath c.path :=
          fun _ => by cases k <;> rfl
        exact verdict_reject (issues_local hlocal hc)
      · exact verdict_reject (issues_issue hc r.code r.message)
    | _ => exact ⟨hmis, rfl⟩
  | _ => exact ⟨hmis, rfl⟩

theorem number_leaf (n : NumberSchema) : L.Leaf n.run n.accepts := by
  intro c c' v w hc hv
  have hmis := mismatch_like hc hv .notNumber "number"
  cases L.input_parts hv with
  | @plain v hp =>
    cases v with
    | number x =>
      refine ⟨?_, rfl⟩
      simp only [NumberSchema.run]
      split
      · exact hmis
      · cases n.firstFailure? x with
        | none => exact .ok (L.output_of_input (L.input_plain rfl))
        | some k =>
          have hlocal : ∀ c, k.issue c x = (k.issue Context.root x).atPath c.path :=
            fun _ => by cases k <;> rfl
          exact verdict_reject (issues_local hlocal hc)
    | _ => exact ⟨hmis, rfl⟩
  | _ => exact ⟨hmis, rfl⟩

theorem integer_leaf (n : IntegerSchema) : L.Leaf n.run n.accepts := by
  intro c c' v w hc hv
  have hmis := mismatch_like hc hv .notBigInt "bigint"
  cases L.input_parts hv with
  | @plain v hp =>
    cases v with
    | bigint x =>
      refine ⟨?_, rfl⟩
      simp only [IntegerSchema.run]
      cases n.firstFailure? x with
      | none => exact .ok (L.output_of_input (L.input_plain rfl))
      | some k =>
        have hlocal : ∀ c, k.issue c x = (k.issue Context.root x).atPath c.path :=
          fun _ => by cases k <;> rfl
        exact verdict_reject (issues_local hlocal hc)
    | _ => exact ⟨hmis, rfl⟩
  | _ => exact ⟨hmis, rfl⟩

/-- Whether a date fails does not depend on where it stands. -/
theorem dateFailure_eq_map (d : DateSchema) (t : Option Timestamp) (c : Context) :
    d.failure? c (.date t)
      = (d.failure? Context.root (.date t)).map fun i => i.atPath c.path := by
  cases t with
  | none => rfl
  | some t =>
    simp only [DateSchema.failure?]
    cases DateSchema.violated? (fun b => t.lt b) d.min with
    | some b => rfl
    | none => cases DateSchema.violated? (fun b => b.lt t) d.max <;> rfl

theorem date_leaf (d : DateSchema) : L.Leaf d.run d.accepts := by
  intro c c' v w hc hv
  have hmis := mismatch_like hc hv .notDate "date"
  cases L.input_parts hv with
  | @plain v hp =>
    cases v with
    | date t =>
      refine ⟨?_, rfl⟩
      simp only [DateSchema.run, dateFailure_eq_map d t c, dateFailure_eq_map d t c']
      cases d.failure? Context.root (.date t) with
      | none => exact .ok (L.output_of_input (L.input_plain rfl))
      | some i => exact verdict_reject (L.issues_here i hc)
    | _ => exact ⟨hmis, rfl⟩
  | _ => exact ⟨hmis, rfl⟩

theorem plain_leaf (p : PlainSchema) : L.Leaf p.run p.accepts := by
  intro c c' v w hc hv
  have haccepts : p.accepts v = p.accepts w := by
    cases L.input_parts hv <;> cases p <;> rfl
  refine ⟨?_, haccepts⟩
  simp only [PlainSchema.run, haccepts]
  split
  · exact .ok (L.output_of_input hv)
  · exact mismatch_like hc hv p.code p.name

theorem literal_leaf (h : L.Sharp) (l : Value) : L.Leaf (Literal.run l) (Literal.accepts l) := by
  intro c c' v w hc hv
  cases h hv
  refine ⟨?_, rfl⟩
  simp only [Literal.run]
  split
  · exact .ok (L.output_of_input hv)
  · exact verdict_reject (L.issues_here (((Issue.new .invalidLiteral
      ("Invalid literal value, expected " ++ l.display)).withExpected l.display).withReceived v) hc)

theorem choice_like (expected : String) (hc : L.context c c') (v : Value) :
    L.verdict (Choice.reject expected c v) (Choice.reject expected c' v) :=
  verdict_reject (L.issues_here (((Issue.new .invalidEnumValue
    ("Invalid enum value. Expected " ++ expected ++ ", received " ++ v.display)).withExpected
    expected).withReceived v) hc)

theorem words_leaf (h : L.Sharp) (options : List String) :
    L.Leaf (Words.run options) (Words.accepts options) := by
  intro c c' v w hc hv
  cases h hv
  refine ⟨?_, rfl⟩
  simp only [Words.run]
  split
  · exact .ok (L.output_of_input hv)
  · exact choice_like _ hc v

theorem enumeration_leaf (h : L.Sharp) (entries : List (String × Value)) :
    L.Leaf (Enumeration.run entries) (Enumeration.accepts entries) := by
  intro c c' v w hc hv
  cases h hv
  refine ⟨?_, rfl⟩
  simp only [Enumeration.run]
  split
  · exact .ok (L.output_of_input hv)
  · exact choice_like _ hc v

/-! ## Layers -/

/-- What a node asks of the likeness besides alike children. -/
def Admits (L : Likeness) (mode : Mode) : Schema → Prop
  | .literal l => L.Leaf (Literal.run l) (Literal.accepts l)
  | .words options => L.Leaf (Words.run options) (Words.accepts options)
  | .enumeration entries => L.Leaf (Enumeration.run entries) (Enumeration.accepts entries)
  | .array _ bounds => bounds.unique = true → L.KeepsRepeats
  | .set _ _ => L.KeepsSameness
  | .tagged discriminator options => L.KeepsPlaces (Tagged.literals discriminator options)
  | .intersection _ => L.KeepsMerging
  | .pipe _ _ => L.Chains
  | .modified m _ => L.Modifies mode m
  | _ => True

section

variable {mode : Mode} {resolve resolve' : Resolution} {child child' : Schema → Evaluator}
  {s : Schema}

/-- **A layer over alike children judges alike.** -/
theorem layer_judge (hs : L.Admits mode s)
    (href : ∀ ref, s = .lazy ref → L.Judges (resolve ref).judge (resolve' ref).judge)
    (h : ∀ t ∈ s.children, L.Judges (child t).judge (child' t).judge) :
    L.Judges (s.layer mode resolve child).judge (s.layer mode resolve' child').judge := by
  have hbare := fun t (ht : t ∈ s.bare) => h t (Schema.mem_children_of_bare ht)
  have hheld := fun t (ht : t ∈ s.held) => h t (Schema.mem_children_of_held ht)
  cases s with
  | text t => exact leaf_judge (text_leaf t)
  | number n => exact leaf_judge (number_leaf n)
  | integer n => exact leaf_judge (integer_leaf n)
  | date d => exact leaf_judge (date_leaf d)
  | plain p => exact leaf_judge (plain_leaf p)
  | literal l => exact leaf_judge hs
  | words options => exact leaf_judge hs
  | enumeration entries => exact leaf_judge hs
  | object shape => exact object_judge fun f hf => hheld f.2 (List.mem_map_of_mem hf)
  | array element bounds => exact array_judge bounds hs (hheld element (by simp [Schema.held]))
  | tuple items rest limits => exact tuple_judge limits hheld
  | record key value limits =>
    refine record_judge limits (fun x hx => hheld x ?_) (hheld value (by simp [Schema.held]))
    simp [Schema.held, Option.mem_def.mp hx]
  | map key value limits =>
    exact map_judge limits (hheld key (by simp [Schema.held])) (hheld value (by simp [Schema.held]))
  | set element bounds => exact set_judge bounds hs (hheld element (by simp [Schema.held]))
  | union options => exact union_judge hbare
  | tagged discriminator options =>
    exact tagged_judge discriminator hs fun o ho => hbare (.object o) (List.mem_map_of_mem ho)
  | intersection branches => exact intersection_judge hs hbare
  | lazy ref => exact href ref rfl
  | modified m inner => exact modifier_judge hs (hbare inner (by simp [Schema.bare]))
  | pipe first next =>
    exact pipe_judge hs (hbare first (by simp [Schema.bare])) (hbare next (by simp [Schema.bare]))

/-- **A layer over alike children tests alike.** -/
theorem layer_test (hroot : L.Rooted) (hs : L.Admits mode s)
    (href : ∀ ref, s = .lazy ref → L.Evaluators (resolve ref) (resolve' ref))
    (h : ∀ t ∈ s.children, L.Evaluators (child t) (child' t)) :
    L.Tests (s.layer mode resolve child).test (s.layer mode resolve' child').test := by
  have hjudge := layer_judge hs (fun ref hr => (href ref hr).judge) fun t ht => (h t ht).judge
  have hbare := fun t (ht : t ∈ s.bare) => (h t (Schema.mem_children_of_bare ht)).test
  have hheld := fun t (ht : t ∈ s.held) => (h t (Schema.mem_children_of_held ht)).test
  cases s with
  | text t => exact leaf_test hroot (text_leaf t)
  | number n => exact leaf_test hroot (number_leaf n)
  | integer n => exact leaf_test hroot (integer_leaf n)
  | date d => exact leaf_test hroot (date_leaf d)
  | plain p => exact leaf_test hroot (plain_leaf p)
  | literal l => exact leaf_test hroot hs
  | words options => exact leaf_test hroot hs
  | enumeration entries => exact leaf_test hroot hs
  | object shape => exact object_test fun f hf => hheld f.2 (List.mem_map_of_mem hf)
  | array element bounds => exact array_test bounds hs (hheld element (by simp [Schema.held]))
  | tuple items rest limits => exact tuple_test limits hheld
  | record key value limits =>
    refine record_test limits (fun x hx => hheld x ?_) (hheld value (by simp [Schema.held]))
    simp [Schema.held, Option.mem_def.mp hx]
  | map key value limits =>
    exact map_test limits (hheld key (by simp [Schema.held])) (hheld value (by simp [Schema.held]))
  | set element bounds => exact set_test bounds (hheld element (by simp [Schema.held]))
  | union options => exact union_test hbare
  | tagged discriminator options =>
    exact tagged_test discriminator hs fun o ho => hbare (.object o) (List.mem_map_of_mem ho)
  | intersection branches => exact toTest_test hroot hjudge
  | lazy ref => exact (href ref rfl).test
  | modified m inner => exact modifier_test hroot hs (hbare inner (by simp [Schema.bare])) hjudge
  | pipe first next => exact toTest_test hroot hjudge

/-! ## Schemas -/

theorem unresolved_like : L.Evaluators .unresolved .unresolved :=
  ⟨fun _ _ _ _ _ _ _ _ _ => .none, fun _ _ _ _ _ _ _ => rfl⟩

/-- Under alike meanings of references a schema is alike to itself. The induction adds one layer
to children that are alike already. -/
theorem evaluator_like (hroot : L.Rooted) (hs : s.Every (L.Admits mode))
    (href : ∀ ref, L.Evaluators (resolve ref) (resolve' ref)) :
    L.Evaluators (s.evaluator mode resolve) (s.evaluator mode resolve') := by
  induction hs with
  | intro s node _ ih =>
    -- children are alike by induction, so the layer over them is
    rw [Schema.evaluator_eq_layer, Schema.evaluator_eq_layer]
    exact ⟨layer_judge node (fun ref _ => (href ref).judge) fun t ht => (ih t ht).judge,
      layer_test hroot node (fun ref _ => href ref) ih⟩

end

end Likeness

end ValueSchema
