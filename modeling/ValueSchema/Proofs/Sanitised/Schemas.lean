/-
Outputs are sanitised.

Every container that a schema builds stands at the depth at which it was judged, so the limit that
its guard enforces on the input bounds the output, too. Its keys are declared ones, or keys of the
input that the guard has let through, and its parts are outputs one level deeper or parts of the
input that were scanned. What no guard looks at is ruled out: a value that a node puts out as it
is, whatever it was, and a key that a schema makes up. So outputs are sanitised node by node, and
through references by induction on how often definitions are unfolded.
-/
import ValueSchema.Proofs.Sanitised.Values
import ValueSchema.Proofs.Termination.Families

set_option autoImplicit false

namespace ValueSchema

open Value (SanitisedField)

variable {limit : Nat}

/-- Whatever the judge accepts comes out sanitised where it stands. -/
def Judge.Sanitises (limit : Nat) (j : Judge) : Prop :=
  ∀ ⦃s : Site⦄ ⦃v : Value⦄ ⦃c : Context⦄ ⦃out : Value⦄, j s v c = some (.ok out) →
    out.Sanitised limit c.depth

namespace Judge.Sanitises

variable {s : Site} {c : Context}

theorem below {j : Judge} {out : Value} (hj : j.Sanitises limit)
    (h : j.JudgesBelow c (.ok out)) : out.Sanitised limit (c.depth + 1) := by
  obtain ⟨s', v, c', hdepth, hv⟩ := h
  rw [← hdepth]
  exact hj hv

/-- A leaf that puts out no container. -/
theorem leaf {run : Context → Value → Verdict} {accepts : Value → Bool}
    (h : ∀ c v out, run c v = .ok out → out.isComposite = false) :
    (Evaluator.leaf run accepts).judge.Sanitises limit := by
  intro s v c out hv
  exact .of_plain (h c v out (Option.some.inj hv))

/-! ## Objects and records -/

/-- Fields that are not declared and yet kept were scanned, and their keys passed the guard. -/
theorem kept {u : UnknownKeys} {limits : Limits} (hl : limits.maxDepth ≤ limit)
    {extra : List (String × Value)} (hissues : u.issues limits c extra = [])
    (hkeys : ∀ f ∈ extra, Guard.isDangerous f.1 = false) :
    ∀ f ∈ u.kept extra, SanitisedField limit (c.depth + 1) f := by
  intro f hf
  cases u with
  | passthrough =>
    have hscan : Guard.scan limits (c.childKey f.1) f.2 = none :=
      List.filterMap_eq_nil_iff.mp hissues f hf
    exact ⟨hkeys f hf, Guard.sanitised_of_scan hl hscan⟩
  | strip | strict => exact absurd hf List.not_mem_nil

theorem object {shape : Shape Judge} (hl : shape.limits.maxDepth ≤ limit)
    (hkeys : ∀ f ∈ shape.fields, Guard.isDangerous f.1 = false)
    (h : ∀ f ∈ shape.fields, f.2.Sanitises limit) : shape.judge.Sanitises limit := by
  intro s v c out hv
  obtain ⟨id, input, l, rfl, hguard, hl', _, hunknown, rfl⟩ := Shape.judge_eq_ok hv
  rw [Value.sanitised_object]
  refine ⟨(Guard.depth_le_of_checkObject hguard).trans hl, fun f hf => ?_⟩
  -- a field of the output is a declared one, or was kept from the input
  rcases List.mem_append.mp hf with hf | hf
  · obtain ⟨g, hg, hkey, hbelow⟩ := Shape.judgeFields_below hl' _ (Shape.mem_fieldOutputs hf)
    have hdangerous := hkeys g hg
    rw [hkey] at hdangerous
    exact ⟨hdangerous, (h g hg).below hbelow⟩
  · refine kept hl hunknown (fun e he => ?_) f hf
    have hinput : e ∈ input := (List.mem_filter.mp he).1
    exact Guard.isDangerous_of_checkObject hguard e.1 (List.mem_map_of_mem hinput)

/-- A record without a key schema keeps the keys of its input. -/
theorem record {value : Judge} {limits : Limits} (hl : limits.maxDepth ≤ limit)
    (h : value.Sanitises limit) : (Record.judge none value limits).Sanitises limit := by
  intro s v c out hv
  obtain ⟨id, input, l, rfl, hguard, hl', _, rfl⟩ := Record.judge_eq_ok hv
  unfold Value.ofEntries
  rw [Value.sanitised_object]
  refine ⟨(Guard.depth_le_of_checkObject hguard).trans hl, fun f hf => ?_⟩
  obtain ⟨e, he, hout⟩ := List.mem_filterMap.mp (Keyed.mem_of_mem_ofList hf)
  obtain ⟨hinput, ⟨s', hkey⟩, hbelow⟩ := Record.judgeEntries_below hl' e he
  obtain ⟨k, hk, hname, hvalue⟩ := Record.Entry.output?_eq_some hout
  rw [hvalue] at hbelow
  -- the key of the output is the key of the input, which the guard has let through
  have hsame : f.1 = e.key := by
    rw [hk] at hkey
    cases hkey
    exact hname
  rw [SanitisedField, hsame]
  exact ⟨Guard.isDangerous_of_checkObject hguard e.key hinput, h.below hbelow⟩

/-! ## Arrays, tuples and sets -/

theorem outputs {judgeAt : Nat → Judge} {items : List Value} {l : List Verdict}
    (hl : judgeAll judgeAt s c items = some l)
    (h : ∀ n < items.length, (judgeAt n).Sanitises limit) :
    ∀ v ∈ Verdict.outputs l, v.Sanitised limit (c.depth + 1) := by
  intro v hv
  obtain ⟨n, hn, hbelow⟩ := judgeFrom_below hl _ (Verdict.mem_outputs hv)
  rw [Nat.zero_add] at hn
  exact (h n hn).below hbelow

theorem array {b : ArrayBounds} {element : Judge} (hl : b.limits.maxDepth ≤ limit)
    (h : element.Sanitises limit) : (b.judge element).Sanitises limit := by
  intro s v c out hv
  obtain ⟨id, items, l, rfl, hdepth, hl', _, rfl⟩ := ArrayBounds.judge_eq_ok hv
  rw [Value.sanitised_array]
  exact ⟨hdepth.trans hl, outputs hl' fun _ _ => h⟩

theorem tuple {items : List Judge} {rest : Option Judge} {limits : Limits}
    (hl : limits.maxDepth ≤ limit) (h : ∀ j ∈ items ++ rest.toList, j.Sanitises limit) :
    Judge.Sanitises limit (Tuple.judge items rest limits) := by
  intro s v c out hv
  obtain ⟨id, elements, l, rfl, hdepth, hfault, hl', _, rfl⟩ := Tuple.judge_eq_ok hv
  rw [Value.sanitised_array]
  refine ⟨hdepth.trans hl, outputs hl' fun n hn => ?_⟩
  -- no element is put out unjudged, as every position has a child
  obtain ⟨j, hj⟩ := Tuple.exists_childAt hfault hn
  have hat : Tuple.judgeAt items rest n = j := by
    unfold Tuple.judgeAt
    rw [hj]
  rw [hat]
  exact h j (Tuple.mem_of_childAt hj)

theorem set {b : SetBounds} {element : Judge} (hl : b.limits.maxDepth ≤ limit)
    (h : element.Sanitises limit) : (b.judge element).Sanitises limit := by
  intro s v c out hv
  obtain ⟨id, items, l, rfl, hdepth, hl', _, rfl⟩ := SetBounds.judge_eq_ok hv
  unfold Value.ofElements
  rw [Value.sanitised_set]
  refine ⟨hdepth.trans hl, fun v hv => ?_⟩
  exact outputs hl' (fun _ _ => h) v (Value.mem_of_mem_distinct hv)

/-! ## Maps -/

theorem map {key value : Judge} {limits : Limits} (hl : limits.maxDepth ≤ limit)
    (hkey : key.Sanitises limit) (hvalue : value.Sanitises limit) :
    (Dictionary.judge key value limits).Sanitises limit := by
  intro s v c out hv
  obtain ⟨id, entries, l, rfl, hdepth, hl', _, rfl⟩ := Dictionary.judge_eq_ok hv
  rw [Value.sanitised_map]
  refine ⟨hdepth.trans hl, fun f hf => ?_⟩
  obtain ⟨e, he, hout⟩ := List.mem_filterMap.mp hf
  rw [Dictionary.output?_eq_some hout] at he
  obtain ⟨hk, hx⟩ := Dictionary.judgeEntries_below hl' _ he
  exact ⟨hkey.below hk, hvalue.below hx⟩

/-! ## Choices and chains -/

theorem union {options : List Judge} (h : ∀ j ∈ options, j.Sanitises limit) :
    (Union.judge options).Sanitises limit := by
  intro s v c out hv
  obtain ⟨found, hf, hv⟩ := Option.bind_eq_some_iff.mp hv
  cases found with
  | none => cases hv
  | some w =>
    cases hv
    obtain ⟨j, hj, n, hn⟩ := Union.firstOutput?_mem hf
    exact h j hj hn

theorem tagged {discriminator : String} {literals : List (Option Value)} {options : List Judge}
    (h : ∀ j ∈ options, j.Sanitises limit) :
    (Tagged.judge discriminator literals options).Sanitises limit := by
  intro s v c out hv
  obtain ⟨id, fields, n, j, rfl, _, hn, hj⟩ := Tagged.judge_eq_ok hv
  exact h j (List.mem_of_getElem? hn) hj

theorem intersection {branches : List Judge} (h : ∀ j ∈ branches, j.Sanitises limit) :
    (Intersection.judge branches).Sanitises limit := by
  intro s v c out hv
  obtain ⟨l, hl, _, hmerged⟩ := Intersection.judge_eq_ok hv
  -- all branches stand where the intersection stands, so all outputs are sanitised there
  refine Intersection.mergeAll_sanitised (fun w hw => ?_) hmerged
  obtain ⟨j, hj, n, hn⟩ := Intersection.judgeBranches_mem hl _ (Verdict.mem_outputs hw)
  exact h j hj hn

/-- Whatever the first judge puts out, the next one judges it in full. -/
theorem pipe {first next : Judge} (h : next.Sanitises limit) :
    (first.pipe next).Sanitises limit := by
  intro s v c out hv
  obtain ⟨w, _, hw⟩ := Judge.pipe_eq_ok hv
  exact h hw

/-! ## Modifiers -/

/-- Values that pass are answered at once, by something that is no container. -/
theorem passing {passes : Value → Bool} {output : Value → Value} {k : Judge}
    (hplain : ∀ v, passes v = true → (output v).isComposite = false) (h : k.Sanitises limit) :
    Judge.Sanitises limit fun s v c => if passes v then some (.ok (output v)) else k s v c := by
  intro s v c out hv
  beta_reduce at hv
  by_cases hp : passes v = true
  · rw [if_pos hp] at hv
    cases hv
    exact .of_plain (hplain v hp)
  · rw [if_neg hp] at hv
    exact h hv

end Judge.Sanitises

/-- What a modifier puts out by itself is no container. A value that a default stands for is judged
and so may be one; an output that is mapped is not judged any more. -/
def Modifier.Harmless : Modifier → Prop
  | fallback v => v.isComposite = false
  | transform _ => False
  | _ => True

namespace Judge.Sanitises

theorem modifier {m : Modifier} (hm : m.Harmless) {k : Judge} (h : k.Sanitises limit) :
    (m.judge .sync k).Sanitises limit := by
  cases m with
  | optional => exact passing (fun _ _ => rfl) h
  | nullable => exact passing (fun _ _ => rfl) h
  | nullish =>
    refine @passing _ _ id _ (fun v hv => ?_) h
    cases v with
    | undefined | null => rfl
    | _ => cases hv
  | default standard => exact fun s v c out hv => h hv
  | fallback replacement =>
    intro s v c out hv
    obtain ⟨verdict, hk, hv⟩ := Option.bind_eq_some_iff.mp hv
    cases verdict with
    | ok w =>
      cases hv
      exact h hk
    | error e =>
      cases hv
      exact .of_plain hm
  | message text =>
    intro s v c out hv
    obtain ⟨verdict, hk, hv⟩ := Option.map_eq_some_iff.mp hv
    cases verdict with
    | ok w =>
      cases hv
      exact h hk
    | error e => cases hv
  | refine check text =>
    intro s v c out hv
    dsimp only [Modifier.judge] at hv
    apply h (Judge.checkOutput_eq_ok (fun w hw => ?_) hv)
    exact Verdict.ofCheck_eq_ok hw
  | superRefine refiner =>
    intro s v c out hv
    dsimp only [Modifier.judge] at hv
    apply h (Judge.checkOutput_eq_ok (fun w hw => ?_) hv)
    exact Verdict.ofRefiner_eq_ok hw
  | transform mapper => exact absurd hm id
  | preprocess mapper =>
    -- whatever the mapper makes of the input, it is judged where the input stood
    intro s v c out hv
    obtain ⟨w, _, hw⟩ := Verdict.andThen_eq_ok hv
    exact h hw
  | refineAsync _ _ | transformAsync _ | preprocessAsync _ => exact h

end Judge.Sanitises

/-! ## Constants -/

namespace Value

theorem isComposite_eq_of_sameValueZero {a b : Value} (h : a.sameValueZero b = true) :
    a.isComposite = b.isComposite := by
  cases a <;> cases b <;> first | rfl | cases h

end Value

theorem PlainSchema.isComposite_of_accepts {p : PlainSchema} {v : Value}
    (hp : p ≠ .any ∧ p ≠ .unknown) (h : p.accepts v = true) : v.isComposite = false := by
  cases p with
  | any => exact absurd rfl hp.1
  | unknown => exact absurd rfl hp.2
  | _ => cases v <;> first | rfl | cases h

theorem Words.isComposite_of_accepts {options : List String} {v : Value}
    (h : Words.accepts options v = true) : v.isComposite = false := by
  cases v with
  | string x => rfl
  | _ => cases h

theorem Enumeration.isComposite_of_accepts {entries : List (String × Value)} {v : Value}
    (hentries : ∀ e ∈ entries, e.2.isComposite = false)
    (h : Enumeration.accepts entries v = true) : v.isComposite = false := by
  obtain ⟨e, he, hsame⟩ := List.any_eq_true.mp h
  rw [← Value.isComposite_eq_of_sameValueZero hsame]
  exact hentries e he

/-! ## Schemas -/

namespace Schema

/-- A node lets no container out that it has not built, and makes up no key that is never allowed:
it is no schema of everything, its constants are no containers, and its keys are allowed. -/
def Harmless : Schema → Prop
  | plain p => p ≠ .any ∧ p ≠ .unknown
  | literal v => v.isComposite = false
  | enumeration entries => ∀ e ∈ entries, e.2.isComposite = false
  | object shape => ∀ f ∈ shape.fields, Guard.isDangerous f.1 = false
  | record key _ _ => key = none
  | modified m _ => m.Harmless
  | _ => True

variable {resolve : Resolution} {s : Schema}

/-- **A harmless layer over children that sanitise sanitises**, as far as its own limit reaches. -/
theorem layer_sanitises {child : Schema → Evaluator} (hs : s.Harmless) (hl : s.LimitedTo limit)
    (href : ∀ ref, (resolve ref).judge.Sanitises limit)
    (h : ∀ t ∈ s.children, (child t).judge.Sanitises limit) :
    (s.layer .sync resolve child).judge.Sanitises limit := by
  have hbare := fun t (ht : t ∈ s.bare) => h t (mem_children_of_bare ht)
  have hheld := fun t (ht : t ∈ s.held) => h t (mem_children_of_held ht)
  -- leaves put out no containers, containers are built within their limit, the rest hands on
  cases s with
  | text t =>
    refine .leaf fun c v out hv => ?_
    obtain ⟨x, _, rfl⟩ := TextSchema.run_eq_ok hv
    rfl
  | number n =>
    refine .leaf fun c v out hv => ?_
    obtain ⟨⟨x, rfl⟩, rfl⟩ := NumberSchema.run_eq_ok hv
    rfl
  | integer n =>
    refine .leaf fun c v out hv => ?_
    obtain ⟨⟨x, rfl⟩, rfl⟩ := IntegerSchema.run_eq_ok hv
    rfl
  | date d =>
    refine .leaf fun c v out hv => ?_
    obtain ⟨⟨t, rfl⟩, rfl⟩ := DateSchema.run_eq_ok hv
    rfl
  | plain p =>
    refine .leaf fun c v out hv => ?_
    obtain ⟨hpasses, rfl⟩ := Verdict.checked_eq_ok hv
    exact PlainSchema.isComposite_of_accepts hs hpasses
  | literal w =>
    refine .leaf fun c v out hv => ?_
    obtain ⟨hpasses, rfl⟩ := Verdict.checked_eq_ok hv
    rw [← Value.isComposite_eq_of_sameValueZero hpasses]
    exact hs
  | words options =>
    refine .leaf fun c v out hv => ?_
    obtain ⟨hpasses, rfl⟩ := Verdict.checked_eq_ok hv
    exact Words.isComposite_of_accepts hpasses
  | enumeration entries =>
    refine .leaf fun c v out hv => ?_
    obtain ⟨hpasses, rfl⟩ := Verdict.checked_eq_ok hv
    exact Enumeration.isComposite_of_accepts hs hpasses
  | object shape =>
    refine .object (hl _ rfl) (fun f hf => ?_) fun f hf => ?_
    · obtain ⟨g, hg, rfl⟩ := List.mem_map.mp hf
      exact hs g hg
    · obtain ⟨g, hg, rfl⟩ := List.mem_map.mp hf
      exact hheld g.2 (List.mem_map_of_mem hg)
  | array element bounds => exact .array (hl _ rfl) (hheld element (by simp [held]))
  | tuple items rest limits =>
    refine .tuple (hl _ rfl) fun j hj => ?_
    have hmap : (items.map fun t => (child t).judge) ++ (rest.map fun t => (child t).judge).toList
        = (items ++ rest.toList).map fun t => (child t).judge := by
      rw [List.map_append]
      cases rest <;> rfl
    rw [hmap] at hj
    obtain ⟨t, ht, rfl⟩ := List.mem_map.mp hj
    exact hheld t ht
  | record key value limits =>
    cases (show key = none from hs)
    exact .record (hl _ rfl) (hheld value (by simp [held]))
  | map key value limits =>
    exact .map (hl _ rfl) (hheld key (by simp [held])) (hheld value (by simp [held]))
  | set element bounds => exact .set (hl _ rfl) (hheld element (by simp [held]))
  | union options =>
    refine .union fun j hj => ?_
    obtain ⟨t, ht, rfl⟩ := List.mem_map.mp hj
    exact hbare t ht
  | tagged discriminator options =>
    refine .tagged fun j hj => ?_
    obtain ⟨o, ho, rfl⟩ := List.mem_map.mp hj
    exact hbare (.object o) (List.mem_map_of_mem ho)
  | intersection branches =>
    refine .intersection fun j hj => ?_
    obtain ⟨t, ht, rfl⟩ := List.mem_map.mp hj
    exact hbare t ht
  | lazy ref => exact href ref
  | modified m inner => exact .modifier hs (hbare inner (by simp [bare]))
  | pipe first next => exact .pipe (hbare next (by simp [bare]))

theorem evaluator_sanitises (hs : s.Every fun t => t.Harmless ∧ t.LimitedTo limit)
    (href : ∀ ref, (resolve ref).judge.Sanitises limit) :
    (s.evaluator .sync resolve).judge.Sanitises limit := by
  -- the layer over children that sanitise, by induction on the schema
  induction hs with
  | intro s node _ ih =>
    rw [evaluator_eq_layer]
    exact layer_sanitises node.1 node.2 href ih

variable {schema : Schema} {family : Family}

/-- However often definitions are unfolded, what a reference puts out is sanitised. -/
theorem resolution_sanitises
    (hf : ∀ e ∈ family, e.2.Every fun s => s.Harmless ∧ s.LimitedTo limit)
    (budget : Nat) (ref : Reference) :
    (family.resolution .sync budget ref).judge.Sanitises limit := by
  apply @Family.resolution_induction family .sync fun e => e.judge.Sanitises limit
  · intro s v c out hv
    cases hv
  · intro e he resolve href
    exact evaluator_sanitises (hf e he) href

/-- **Outputs are sanitised.** Whatever a harmless schema accepts, no object anywhere inside the
output has a key that is never allowed, and no container inside it lies below the greatest depth
that the containers of the schema and of its definitions allow. -/
theorem validateIn_sanitised (hs : schema.Every fun s => s.Harmless ∧ s.LimitedTo limit)
    (hf : ∀ e ∈ family, e.2.Every fun s => s.Harmless ∧ s.LimitedTo limit)
    {v out : Value} {c : Context} (h : schema.validateIn family v c = some (.ok out)) :
    out.Sanitised limit c.depth :=
  evaluator_sanitises hs (resolution_sanitises hf (family.budget schema v)) h

theorem validateIn_sanitised_twig :
    ∃ out, labelOrTree.validateIn Family.trees Value.twig Context.root = some (.ok out)
      ∧ out.Sanitised 64 0 := by
  have htext : (text .any).Harmless ∧ (text .any).LimitedTo 64 := ⟨trivial, fun _ h => nomatch h⟩
  have hlazy : (lazy ⟨"tree", 0⟩).Harmless ∧ (lazy ⟨"tree", 0⟩).LimitedTo 64 :=
    ⟨trivial, fun _ h => nomatch h⟩
  have hlimit : ∀ m ∈ some Limits.standard.maxDepth, m ≤ 64 := by
    intro m hm
    cases hm
    exact Nat.le_refl 64
  have hkeys : treeNode.Harmless := by
    unfold treeNode Harmless
    decide
  have hevery : labelOrTree.Every fun s => s.Harmless ∧ s.LimitedTo 64 :=
    labelOrTree_every ⟨trivial, fun _ h => nomatch h⟩ ⟨trivial, fun _ h => nomatch h⟩ htext hlazy
  have htrees : ∀ e ∈ Family.trees, e.2.Every fun s => s.Harmless ∧ s.LimitedTo 64 := by
    intro e he
    cases List.mem_singleton.mp he
    exact treeNode_every ⟨hkeys, hlimit⟩ htext ⟨trivial, hlimit⟩ hlazy
  have hjudged : ∃ out,
      labelOrTree.validateIn Family.trees Value.twig Context.root = some (.ok out) := ⟨_, rfl⟩
  obtain ⟨out, hout⟩ := hjudged
  exact ⟨out, hout, validateIn_sanitised hevery htrees hout⟩

end Schema

end ValueSchema
