/-
Compiled schemas with an output fit.

A compiled schema that has an output for accepted inputs is built from children that have one. It
contains no reference and calls no code that decides about outputs, so it always answers, its test
is that of the schema and agrees with the judge, and the output is what judging puts out. The
induction carries the three together, as the output of a union or of a fallback relies on the tests
of the children.

What a schema shares with its input is told by its form alone: `Echoes` are the schemas whose
compiled form puts out the very input.
-/
import ValueSchema.Proofs.Compiled.Outputs

set_option autoImplicit false

namespace ValueSchema

open List (Forall₂)

/-! ## What is shared -/

/-- A modifier under which an input that is put out as it is stays so. -/
def Modifier.keepsInput : Modifier → Bool
  | .optional => true
  | .nullable => true
  | .nullish => true
  | .message _ => true
  | .refineAsync _ _ => true
  | .transformAsync _ => true
  | .preprocessAsync _ => true
  | _ => false

namespace Schema

/-- A schema whose compiled form puts out the very input. -/
inductive Echoes : Schema → Prop
  | text {t : TextSchema} (h : t.transforms = []) : Echoes (.text t)
  | number (n : NumberSchema) : Echoes (.number n)
  | integer (n : IntegerSchema) : Echoes (.integer n)
  | date (d : DateSchema) : Echoes (.date d)
  | plain (p : PlainSchema) : Echoes (.plain p)
  | literal (v : Value) : Echoes (.literal v)
  | words (options : List String) : Echoes (.words options)
  | enumeration (entries : List (String × Value)) : Echoes (.enumeration entries)
  | array {element : Schema} (bounds : ArrayBounds) (h : Echoes element) :
      Echoes (.array element bounds)
  | tuple {items : List Schema} {rest : Option Schema} (limits : Limits)
      (h : ∀ t ∈ items ++ rest.toList, Echoes t) : Echoes (.tuple items rest limits)
  | map {key value : Schema} (limits : Limits) (hk : Echoes key) (hv : Echoes value) :
      Echoes (.map key value limits)
  | modified {m : Modifier} {inner : Schema} (hm : m.keepsInput = true) (h : Echoes inner) :
      Echoes (.modified m inner)

/-- A container that compiles to the very input where judging builds it anew. -/
def SharesContainer : Schema → Prop
  | s@(.array _ _) => s.Echoes
  | s@(.tuple _ _ _) => s.Echoes
  | s@(.map _ _ _) => s.Echoes
  | _ => False

/-- A relation is one that a node keeps: it looks through identities if the node shares its input,
and it goes through sets if the node is one. -/
structure Carries (R : Value → Value → Prop) (s : Schema) : Prop where
  shared : s.SharesContainer → Value.IgnoresIdentity R
  set : ∀ element bounds, s = .set element bounds → Value.KeepsSets R

end Schema

/-- An output tells from an accepted input what judging puts out: the judge answers everywhere,
the test knows what it accepts, and the output is the judge's up to a relation. -/
structure Output.Fits (R : Value → Value → Prop) (o : Output) (e : Evaluator) : Prop where
  answers : ∀ depth : Nat, e.judge.Answers depth
  agrees : e.judge.Agrees e.test
  yields : o.Yields R e.judge

theorem Output.Fits.mono {Q R : Value → Value → Prop} {o : Output} {e : Evaluator}
    (h : o.Fits Q e) (hQR : ∀ v w, Q v w → R v w) : o.Fits R e where
  answers := h.answers
  agrees := h.agrees
  yields := fun _ _ _ _ hv =>
    let ⟨w, hw, hrel⟩ := h.yields hv
    ⟨w, hw, hQR _ _ hrel⟩

/-! ## Outputs of children -/

namespace Node

/-- The output of a node where it has one. -/
def told (n : Node) : Output := n.output.getD .same

/-- A node has an output. -/
def Tells (n : Node) : Prop := n.output = some n.told

variable {o : Output}

theorem tells_of_some {n : Node} (h : n.output = some o) : o = n.told ∧ n.Tells := by
  have hout : n.told = o := by
    unfold told
    rw [h]
    rfl
  exact ⟨hout.symm, by unfold Tells; rw [h, hout]⟩

theorem childOutput?_map {child : Schema → Node} {rest : Option Schema} {r : Option Output}
    (h : childOutput? (rest.map child) = some r) :
    r = rest.map (fun t => (child t).told) ∧ ∀ t ∈ rest, (child t).Tells := by
  cases rest with
  | none =>
    cases h
    exact ⟨rfl, fun t ht => nomatch ht⟩
  | some t =>
    obtain ⟨o, ho, rfl⟩ := Option.map_eq_some_iff.mp h
    obtain ⟨rfl, htells⟩ := tells_of_some ho
    refine ⟨rfl, fun t' ht => ?_⟩
    cases ht
    exact htells

end Node

namespace Schema

section

variable {resolve : Resolution} {child : Schema → Node} {o : Output}

theorem told_object {shape : Shape Schema}
    (h : ((object shape).nodeLayer resolve child).output = some o) :
    o = Output.object (shape.map fun t => (child t).told)
      ∧ ∀ f ∈ shape.fields, (child f.2).Tells := by
  obtain ⟨so, hso, rfl⟩ := Option.map_eq_some_iff.mp h
  obtain ⟨os, hos, rfl⟩ := Option.map_eq_some_iff.mp hso
  -- the shape of outputs keeps the keys of the shape of children
  simp only [Shape.map, Keyed.mapValues, List.map_map, Function.comp_def] at hos
  obtain ⟨rfl, hfields⟩ := Output.all?_map hos
  refine ⟨?_, hfields⟩
  simp only [Shape.map, Keyed.mapValues, List.map_map, Function.comp_def, List.zip_map']
  rfl

theorem told_array {element : Schema} {bounds : ArrayBounds}
    (h : ((array element bounds).nodeLayer resolve child).output = some o) :
    o = Output.array (child element).told ∧ (child element).Tells := by
  obtain ⟨o', ho', rfl⟩ := Option.map_eq_some_iff.mp h
  obtain ⟨rfl, hhas⟩ := Node.tells_of_some ho'
  exact ⟨rfl, hhas⟩

theorem told_tuple {items : List Schema} {rest : Option Schema} {limits : Limits}
    (h : ((tuple items rest limits).nodeLayer resolve child).output = some o) :
    o = Output.tuple (items.map fun t => (child t).told) (rest.map fun t => (child t).told)
      ∧ ∀ t ∈ items ++ rest.toList, (child t).Tells := by
  obtain ⟨os, hos, h⟩ := Option.bind_eq_some_iff.mp h
  obtain ⟨r, hr, h⟩ := Option.bind_eq_some_iff.mp h
  cases h
  rw [List.map_map] at hos
  obtain ⟨rfl, hitems⟩ := Output.all?_map hos
  obtain ⟨rfl, hrest⟩ := Node.childOutput?_map hr
  refine ⟨rfl, fun t ht => ?_⟩
  rcases List.mem_append.mp ht with ht | ht
  · exact hitems t ht
  · exact hrest t (Option.mem_toList.mp ht)

theorem told_record {key : Option Schema} {value : Schema} {limits : Limits}
    (h : ((record key value limits).nodeLayer resolve child).output = some o) :
    o = Output.record (key.map fun t => (child t).told) (child value).told
      ∧ (∀ t ∈ key, (child t).Tells) ∧ (child value).Tells := by
  obtain ⟨k, hk, h⟩ := Option.bind_eq_some_iff.mp h
  obtain ⟨o', ho', h⟩ := Option.bind_eq_some_iff.mp h
  cases h
  obtain ⟨rfl, hkey⟩ := Node.childOutput?_map hk
  obtain ⟨rfl, hvalue⟩ := Node.tells_of_some ho'
  exact ⟨rfl, hkey, hvalue⟩

theorem told_map {key value : Schema} {limits : Limits}
    (h : ((map key value limits).nodeLayer resolve child).output = some o) :
    o = Output.map (child key).told (child value).told
      ∧ (child key).Tells ∧ (child value).Tells := by
  obtain ⟨k, hk, h⟩ := Option.bind_eq_some_iff.mp h
  obtain ⟨o', ho', h⟩ := Option.bind_eq_some_iff.mp h
  cases h
  obtain ⟨rfl, hkey⟩ := Node.tells_of_some hk
  obtain ⟨rfl, hvalue⟩ := Node.tells_of_some ho'
  exact ⟨rfl, hkey, hvalue⟩

theorem told_set {element : Schema} {bounds : SetBounds}
    (h : ((set element bounds).nodeLayer resolve child).output = some o) :
    o = Output.set (child element).told ∧ (child element).Tells := by
  obtain ⟨o', ho', rfl⟩ := Option.map_eq_some_iff.mp h
  obtain ⟨rfl, hhas⟩ := Node.tells_of_some ho'
  exact ⟨rfl, hhas⟩

theorem told_union {options : List Schema}
    (h : ((union options).nodeLayer resolve child).output = some o) :
    o = Output.union (options.map fun t => (child t).test) (options.map fun t => (child t).told)
      ∧ ∀ t ∈ options, (child t).Tells := by
  obtain ⟨os, hos, rfl⟩ := Option.map_eq_some_iff.mp h
  rw [List.map_map] at hos
  obtain ⟨rfl, hoptions⟩ := Output.all?_map hos
  exact ⟨by rw [List.map_map]; rfl, hoptions⟩

theorem told_tagged {discriminator : String} {options : List (Shape Schema)}
    (h : ((tagged discriminator options).nodeLayer resolve child).output = some o) :
    o = Output.tagged discriminator (Tagged.literals discriminator options)
        (options.map fun shape => (child (object shape)).told)
      ∧ ∀ shape ∈ options, (child (object shape)).Tells := by
  obtain ⟨os, hos, rfl⟩ := Option.map_eq_some_iff.mp h
  rw [List.map_map] at hos
  obtain ⟨rfl, hoptions⟩ := Output.all?_map hos
  exact ⟨rfl, hoptions⟩

theorem told_modified {m : Modifier} {inner : Schema}
    (h : ((modified m inner).nodeLayer resolve child).output = some o) :
    Output.modified m (child inner).test (child inner).told = some o ∧ (child inner).Tells := by
  obtain ⟨o', ho', h⟩ := Option.bind_eq_some_iff.mp h
  obtain ⟨rfl, hhas⟩ := Node.tells_of_some ho'
  exact ⟨h, hhas⟩

/-- A node with an output is built from nodes that have one, and is neither a reference nor a node
that judges to test. -/
theorem told_children {s : Schema} (h : (s.nodeLayer resolve child).output = some o) :
    s.judgesToTest = false ∧ (∀ ref, s ≠ .lazy ref) ∧ ∀ t ∈ s.children, (child t).Tells := by
  cases s with
  | object shape =>
    refine ⟨rfl, fun _ h => (by cases h), fun t ht => ?_⟩
    obtain ⟨f, hf, rfl⟩ := List.mem_map.mp ht
    exact (told_object h).2 f hf
  | array element bounds | set element bounds =>
    refine ⟨rfl, fun _ h => (by cases h), fun t ht => ?_⟩
    cases List.mem_singleton.mp ht
    first | exact (told_array h).2 | exact (told_set h).2
  | tuple items rest limits =>
    exact ⟨rfl, fun _ h => (by cases h), fun t ht => (told_tuple h).2 t ht⟩
  | record key value limits =>
    refine ⟨rfl, fun _ h => (by cases h), fun t ht => ?_⟩
    rcases List.mem_append.mp (show t ∈ key.toList ++ [value] from ht) with ht | ht
    · exact (told_record h).2.1 t (Option.mem_toList.mp ht)
    · cases List.mem_singleton.mp ht
      exact (told_record h).2.2
  | map key value limits =>
    refine ⟨rfl, fun _ h => (by cases h), fun t ht => ?_⟩
    simp only [children, bare, held, List.nil_append, List.mem_cons, List.not_mem_nil,
      or_false] at ht
    rcases ht with rfl | rfl
    · exact (told_map h).2.1
    · exact (told_map h).2.2
  | union options =>
    refine ⟨rfl, fun _ h => (by cases h), fun t ht => ?_⟩
    exact (told_union h).2 t (by simpa [children, bare, held] using ht)
  | tagged discriminator options =>
    refine ⟨rfl, fun _ h => (by cases h), fun t ht => ?_⟩
    simp only [children, bare, held, List.append_nil] at ht
    obtain ⟨shape, hs, rfl⟩ := List.mem_map.mp ht
    exact (told_tagged h).2 shape hs
  | modified m inner =>
    obtain ⟨ho, hinner⟩ := told_modified h
    refine ⟨?_, fun _ h => (by cases h), fun t ht => ?_⟩
    · cases m <;> first | rfl | cases ho
    · cases List.mem_singleton.mp (show t ∈ [inner] from by simpa [children, bare, held] using ht)
      exact hinner
  | intersection _ | pipe _ _ | lazy _ => cases h
  | _ => exact ⟨rfl, fun _ h => (by cases h), fun t ht => absurd ht List.not_mem_nil⟩

end

/-! ### Outputs of compiled children -/

/-- The output of a compiled schema where it has one. -/
def outputOf (resolve : Resolution) (s : Schema) : Output :=
  (s.compile resolve).output.getD .same

/-- A compiled schema has an output. -/
def HasOutput (resolve : Resolution) (s : Schema) : Prop :=
  (s.compile resolve).output = some (s.outputOf resolve)

variable {resolve : Resolution} {o : Output}

theorem output_object {shape : Shape Schema}
    (h : ((object shape).compile resolve).output = some o) :
    o = Output.object (shape.map (outputOf resolve))
      ∧ ∀ f ∈ shape.fields, f.2.HasOutput resolve := by
  rw [compile_eq_nodeLayer] at h
  exact told_object h

theorem output_array {element : Schema} {bounds : ArrayBounds}
    (h : ((array element bounds).compile resolve).output = some o) :
    o = Output.array (element.outputOf resolve) ∧ element.HasOutput resolve := by
  rw [compile_eq_nodeLayer] at h
  exact told_array h

theorem output_tuple {items : List Schema} {rest : Option Schema} {limits : Limits}
    (h : ((tuple items rest limits).compile resolve).output = some o) :
    o = Output.tuple (items.map (outputOf resolve)) (rest.map (outputOf resolve))
      ∧ ∀ t ∈ items ++ rest.toList, t.HasOutput resolve := by
  rw [compile_eq_nodeLayer] at h
  exact told_tuple h

theorem output_record {key : Option Schema} {value : Schema} {limits : Limits}
    (h : ((record key value limits).compile resolve).output = some o) :
    o = Output.record (key.map (outputOf resolve)) (value.outputOf resolve)
      ∧ (∀ t ∈ key, t.HasOutput resolve) ∧ value.HasOutput resolve := by
  rw [compile_eq_nodeLayer] at h
  exact told_record h

theorem output_map {key value : Schema} {limits : Limits}
    (h : ((map key value limits).compile resolve).output = some o) :
    o = Output.map (key.outputOf resolve) (value.outputOf resolve)
      ∧ key.HasOutput resolve ∧ value.HasOutput resolve := by
  rw [compile_eq_nodeLayer] at h
  exact told_map h

theorem output_set {element : Schema} {bounds : SetBounds}
    (h : ((set element bounds).compile resolve).output = some o) :
    o = Output.set (element.outputOf resolve) ∧ element.HasOutput resolve := by
  rw [compile_eq_nodeLayer] at h
  exact told_set h

theorem output_union {options : List Schema}
    (h : ((union options).compile resolve).output = some o) :
    o = Output.union (options.map fun t => (t.compile resolve).test)
        (options.map (outputOf resolve))
      ∧ ∀ t ∈ options, t.HasOutput resolve := by
  rw [compile_eq_nodeLayer] at h
  exact told_union h

theorem output_tagged {discriminator : String} {options : List (Shape Schema)}
    (h : ((tagged discriminator options).compile resolve).output = some o) :
    o = Output.tagged discriminator (Tagged.literals discriminator options)
        (options.map fun shape => (object shape).outputOf resolve)
      ∧ ∀ shape ∈ options, (object shape).HasOutput resolve := by
  rw [compile_eq_nodeLayer] at h
  exact told_tagged h

theorem output_modified {m : Modifier} {inner : Schema}
    (h : ((modified m inner).compile resolve).output = some o) :
    Output.modified m (inner.compile resolve).test (inner.outputOf resolve) = some o
      ∧ inner.HasOutput resolve := by
  rw [compile_eq_nodeLayer] at h
  exact told_modified h

theorem hasOutput_children {s : Schema} (h : (s.compile resolve).output = some o) :
    s.judgesToTest = false ∧ (∀ ref, s ≠ .lazy ref) ∧ ∀ t ∈ s.children, t.HasOutput resolve := by
  rw [compile_eq_nodeLayer] at h
  exact told_children h

/-- A node that does not judge to test reads nothing of its children but their tests. -/
theorem layer_test_congr {child child' : Schema → Evaluator} {s : Schema}
    (hs : s.judgesToTest = false) (h : ∀ t ∈ s.children, (child t).test = (child' t).test) :
    (s.layer .sync resolve child).test = (s.layer .sync resolve child').test := by
  have hbare := fun t (ht : t ∈ s.bare) => h t (mem_children_of_bare ht)
  have hheld := fun t (ht : t ∈ s.held) => h t (mem_children_of_held ht)
  -- each test is built from the tests of the children, never from their judges
  cases s with
  | object shape =>
    have hmap : shape.map (fun t => (child t).test) = shape.map fun t => (child' t).test :=
      Shape.map_congr fun f hf => hheld f.2 (List.mem_map_of_mem hf)
    simp only [layer, hmap]
  | array element bounds =>
    simp only [layer]
    rw [hheld element (by simp [held])]
  | tuple items rest limits =>
    have hitems : items.map (fun t => (child t).test) = items.map fun t => (child' t).test :=
      List.map_congr_left fun t ht => hheld t (List.mem_append_left _ ht)
    have hrest : rest.map (fun t => (child t).test) = rest.map fun t => (child' t).test :=
      Option.map_congr fun t ht => hheld t (List.mem_append_right _ (Option.mem_toList.mpr ht))
    simp only [layer, hitems, hrest]
  | record key value limits =>
    have hkey : key.map (fun t => (child t).test) = key.map fun t => (child' t).test :=
      Option.map_congr fun t ht => hheld t (List.mem_append_left _ (Option.mem_toList.mpr ht))
    simp only [layer, hkey, hheld value (by simp [held])]
  | map key value limits =>
    simp only [layer]
    rw [hheld key (by simp [held]), hheld value (by simp [held])]
  | set element bounds =>
    simp only [layer]
    rw [hheld element (by simp [held])]
  | union options =>
    have hoptions : options.map (fun t => (child t).test) = options.map fun t => (child' t).test :=
      List.map_congr_left hbare
    simp only [layer, hoptions]
  | tagged discriminator options =>
    have hoptions : options.map (fun o => (child (.object o)).test)
        = options.map fun o => (child' (.object o)).test :=
      List.map_congr_left fun o ho => hbare (.object o) (List.mem_map_of_mem ho)
    simp only [layer, hoptions]
  | modified m inner =>
    have hinner := hbare inner (by simp [bare])
    cases m with
    | refine _ _ | superRefine _ | transform _ | preprocess _ => cases hs
    | _ => simp only [layer, Modifier.test, hinner]
  | intersection _ => cases hs
  | pipe _ _ => cases hs
  | _ => rfl

/-! ## Outputs of schemas -/

variable {R : Value → Value → Prop}

/-- What a compiled schema puts out as it is, is put out by an echo. -/
theorem echoes_of_isSame (s : Schema) (h : (s.compile resolve).output = some o)
    (hsame : o.isSame = true) : s.Echoes := by
  induction s using Schema.induction generalizing o with
  | node s ih =>
    -- only nodes that keep their input are the same, and only over children that are
    have hchild : ∀ t ∈ s.children, t.HasOutput resolve → (t.outputOf resolve).isSame = true →
        t.Echoes := fun t ht hhas => ih t ht hhas
    cases s with
    | text t =>
      refine .text ?_
      cases ht : t.transforms with
      | nil => rfl
      | cons x rest =>
        simp only [compile, Node.text, ht, List.isEmpty_cons] at h
        cases h
        cases hsame
    | number n => exact .number n
    | integer n => exact .integer n
    | date d => exact .date d
    | plain p => exact .plain p
    | literal v => exact .literal v
    | words options => exact .words options
    | enumeration entries => exact .enumeration entries
    | array element bounds =>
      obtain ⟨rfl, hhas⟩ := output_array h
      unfold Output.array at hsame
      split at hsame
      · exact .array bounds (hchild element (by simp [children, bare, held]) hhas ‹_›)
      · cases hsame
    | tuple items rest limits =>
      obtain ⟨rfl, hhas⟩ := output_tuple h
      unfold Output.tuple at hsame
      split at hsame
      · rename_i hall
        rw [Bool.and_eq_true, List.all_map, List.all_eq_true] at hall
        refine .tuple limits fun t ht => hchild t (mem_children_of_held ht) (hhas t ht) ?_
        rcases List.mem_append.mp ht with ht | ht
        · exact hall.1 t ht
        · rw [Option.mem_toList] at ht
          cases ht
          exact hall.2
      · cases hsame
    | map key value limits =>
      obtain ⟨rfl, hkey, hvalue⟩ := output_map h
      unfold Output.map at hsame
      split at hsame
      · rename_i hboth
        rw [Bool.and_eq_true] at hboth
        exact .map limits (hchild key (by simp [children, bare, held]) hkey hboth.1)
          (hchild value (by simp [children, bare, held]) hvalue hboth.2)
      · cases hsame
    | modified m inner =>
      obtain ⟨ho, hinner⟩ := output_modified h
      have hin := hchild inner (by simp [children, bare, held]) hinner
      cases m with
      | optional | nullable | nullish =>
        cases ho
        unfold Output.passing at hsame
        split at hsame
        · exact .modified rfl (hin ‹_›)
        · cases hsame
      | message _ | refineAsync _ _ | transformAsync _ | preprocessAsync _ =>
        cases ho
        exact .modified rfl (hin hsame)
      | default _ | fallback _ =>
        cases ho
        cases hsame
      | refine _ _ | superRefine _ | transform _ | preprocess _ => cases ho
    | object shape =>
      obtain ⟨rfl, _⟩ := output_object h
      cases hsame
    | record key value limits =>
      obtain ⟨rfl, _⟩ := output_record h
      cases hsame
    | set element bounds =>
      obtain ⟨rfl, _⟩ := output_set h
      cases hsame
    | union options =>
      obtain ⟨rfl, _⟩ := output_union h
      cases hsame
    | tagged discriminator options =>
      obtain ⟨rfl, _⟩ := output_tagged h
      cases hsame
    | intersection _ | lazy _ | pipe _ _ => cases h

/-! ### Leaves -/

theorem text_yields (hR : Value.Congruence R) (t : TextSchema)
    (h : ((text t).compile resolve).output = some o) :
    o.Yields R (Evaluator.leaf t.run t.accepts).judge := by
  intro s v c out hv
  obtain ⟨x, rfl, rfl⟩ := TextSchema.run_eq_ok (Option.some.inj hv)
  simp only [compile, Node.text] at h
  cases ht : t.transforms with
  | nil =>
    rw [ht] at h
    cases h
    refine ⟨.string x, rfl, ?_⟩
    unfold TextSchema.output
    rw [ht]
    exact hR.refl _
  | cons y rest =>
    rw [ht] at h
    cases h
    exact ⟨_, rfl, hR.refl _⟩

/-! ### Layers -/

/-- **The output of a compiled schema fits the layer of the schema**, over children whose outputs
fit. -/
theorem layer_yields (hR : Value.Congruence R) {child : Schema → Evaluator} {s : Schema}
    (hs : s.Carries R) (ho : (s.compile resolve).output = some o)
    (htest : ∀ t ∈ s.children, (t.compile resolve).test = (child t).test)
    (h : ∀ t ∈ s.children, (t.outputOf resolve).Fits R (child t)) :
    o.Yields R (s.layer .sync resolve child).judge := by
  have hbare := fun t (ht : t ∈ s.bare) => h t (mem_children_of_bare ht)
  have hheld := fun t (ht : t ∈ s.held) => h t (mem_children_of_held ht)
  have hsame := echoes_of_isSame s ho
  cases s with
  | text t => exact text_yields hR t ho
  | number n =>
    cases ho
    exact .leaf hR fun _ _ _ h => (NumberSchema.run_eq_ok h).2
  | integer n =>
    cases ho
    exact .leaf hR fun _ _ _ h => (IntegerSchema.run_eq_ok h).2
  | date d =>
    cases ho
    exact .leaf hR fun _ _ _ h => (DateSchema.run_eq_ok h).2
  | plain p =>
    cases ho
    exact .leaf hR fun _ _ _ h => (Verdict.checked_eq_ok h).2
  | literal v =>
    cases ho
    exact .leaf hR fun _ _ _ h => (Verdict.checked_eq_ok h).2
  | words options =>
    cases ho
    exact .leaf hR fun _ _ _ h => (Verdict.checked_eq_ok h).2
  | enumeration entries =>
    cases ho
    exact .leaf hR fun _ _ _ h => (Verdict.checked_eq_ok h).2
  | object shape =>
    obtain ⟨rfl, _⟩ := output_object ho
    exact .object hR fun f hf => (hheld f.2 (List.mem_map_of_mem hf)).yields
  | array element bounds =>
    obtain ⟨rfl, _⟩ := output_array ho
    have helement := hheld element (by simp [held])
    refine .array hR bounds (fun hsame' => hs.shared (hsame ?_)) helement.yields
    unfold Output.array
    rw [if_pos hsame']
    rfl
  | tuple items rest limits =>
    obtain ⟨rfl, _⟩ := output_tuple ho
    refine .tuple hR limits (fun hall => hs.shared (hsame ?_)) fun t ht => (hheld t ht).yields
    have hitems : (items.map (outputOf resolve)).all Output.isSame = true := by
      rw [List.all_map, List.all_eq_true]
      exact fun t ht => hall t (List.mem_append_left _ ht)
    have hrest : (rest.map (outputOf resolve)).all Output.isSame = true := by
      cases rest with
      | none => rfl
      | some t => exact hall t (List.mem_append_right _ (by simp))
    unfold Output.tuple
    rw [hitems, hrest]
    rfl
  | record key value limits =>
    obtain ⟨rfl, _⟩ := output_record ho
    refine .record hR limits (fun x hx => ?_) (hheld value (by simp [held])).yields
    exact (hheld x (List.mem_append_left _ (Option.mem_toList.mpr hx))).yields
  | map key value limits =>
    obtain ⟨rfl, _⟩ := output_map ho
    refine .map hR limits (fun hk hv => hs.shared (hsame ?_)) (hheld key (by simp [held])).yields
      (hheld value (by simp [held])).yields
    unfold Output.map
    rw [hk, hv]
    rfl
  | set element bounds =>
    obtain ⟨rfl, _⟩ := output_set ho
    exact .set (hs.set element bounds rfl) bounds (hheld element (by simp [held])).yields
  | union options =>
    obtain ⟨rfl, _⟩ := output_union ho
    have htests : options.map (fun t => (t.compile resolve).test)
        = options.map fun t => (child t).test :=
      List.map_congr_left fun t ht => htest t (mem_children_of_bare ht)
    rw [htests]
    exact .union (fun t ht => (hbare t ht).agrees) fun t ht => (hbare t ht).yields
  | tagged discriminator options =>
    obtain ⟨rfl, _⟩ := output_tagged ho
    exact .tagged discriminator _ fun shape hshape =>
      (hbare (.object shape) (List.mem_map_of_mem hshape)).yields
  | modified m inner =>
    obtain ⟨ho, _⟩ := output_modified ho
    have hinner := hbare inner (by simp [bare])
    rw [htest inner (by simp [children, bare, held])] at ho
    exact .modified hR hinner.agrees hinner.yields ho
  | intersection _ | lazy _ | pipe _ _ => cases ho

/-- A node fits as soon as its children do. -/
theorem node_fits (hR : Value.Congruence R) {s : Schema} (hs : s.Carries R)
    (ho : (s.compile resolve).output = some o)
    (h : ∀ t ∈ s.children, t.HasOutput resolve →
      (t.compile resolve).test = (t.evaluator .sync resolve).test
        ∧ (t.outputOf resolve).Fits R (t.evaluator .sync resolve)) :
    (s.compile resolve).test = (s.evaluator .sync resolve).test
      ∧ o.Fits R (s.evaluator .sync resolve) := by
  obtain ⟨htests, href, hhas⟩ := hasOutput_children ho
  have htest := fun t ht => (h t ht (hhas t ht)).1
  have hfits := fun t ht => (h t ht (hhas t ht)).2
  rw [compile_test, evaluator_eq_layer]
  refine ⟨layer_test_congr htests htest, fun depth => ?_, ?_, layer_yields hR hs ho htest hfits⟩
  · exact layer_answers (fun ref h => absurd h (href ref))
      (fun t ht => (hfits t (mem_children_of_bare ht)).answers depth)
      fun _ t ht => (hfits t (mem_children_of_held ht)).answers (depth + 1)
  · refine layer_agrees (fun h => ?_) (fun ref h => absurd h (href ref)) fun t ht =>
      (hfits t ht).agrees
    rw [htests] at h
    cases h

/-- **Outputs fit**: where a compiled schema has an output, its test is that of the schema, which
always answers, and the output is what judging puts out. -/
theorem compile_fits (hR : Value.Congruence R) {s : Schema} (hs : s.Every (Carries R))
    (ho : (s.compile resolve).output = some o) :
    (s.compile resolve).test = (s.evaluator .sync resolve).test
      ∧ o.Fits R (s.evaluator .sync resolve) := by
  induction hs generalizing o with
  | intro s node below ih => exact node_fits hR node ho fun t ht hhas => ih t ht hhas

/-- Parts of a schema that share nothing may be read more closely than the whole. -/
theorem compile_fits_of_exact (hR : Value.Congruence R) {s : Schema}
    (hs : s.Every fun t => t.Carries R ∨ t.Every (Carries Eq))
    (ho : (s.compile resolve).output = some o) :
    (s.compile resolve).test = (s.evaluator .sync resolve).test
      ∧ o.Fits R (s.evaluator .sync resolve) := by
  induction hs generalizing o with
  | intro s node below ih =>
    rcases node with node | node
    · exact node_fits hR node ho fun t ht hhas => ih t ht hhas
    · obtain ⟨htest, hfits⟩ := compile_fits Value.congruence_eq node ho
      exact ⟨htest, hfits.mono fun v w hvw => hvw ▸ hR.refl v⟩

end Schema

end ValueSchema
