/-
Where containers of outputs come from.

An output is made of the containers of the value, of those in the heap, and of those that the
judgement has built at its sites. This is read off the judges once for every kind of node: what a
container hands on comes from its parts, what it builds is named after its site. It asks of a schema
that its constants lie in the heap, that its code takes containers from nowhere else, and that its
shapes declare a field once.
-/
import ValueSchema.Proofs.Idempotence.Fields
import ValueSchema.Proofs.Origins.Values
import ValueSchema.Proofs.Renaming.Judgements
import ValueSchema.Proofs.Sanitised.Schemas

set_option autoImplicit false

namespace ValueSchema

variable {H : Heap}

/-- What the judge puts out is made of what the value is made of, and of what the judgement may
meet. -/
def Judge.DrawsOn (H : Heap) (j : Judge) : Prop :=
  ∀ ⦃P : Value → Prop⦄ ⦃s : Site⦄ ⦃v : Value⦄ ⦃c : Context⦄ ⦃out : Value⦄, H.Allows s P →
    v.MadeOf P → j s v c = some (.ok out) → out.MadeOf P

/-- What the code answers is made of what the value is made of, and of what it may meet at its
site. -/
def Mapper.DrawsOn (H : Heap) (mapper : Mapper) : Prop :=
  ∀ ⦃P : Value → Prop⦄ ⦃s : Site⦄ ⦃v out : Value⦄, H.Allows s P → v.MadeOf P →
    mapper s v = .ok (.ok out) → out.MadeOf P

namespace Judge.DrawsOn

variable {P : Value → Prop} {s : Site} {c : Context}

/-- A leaf puts out the value, or something that is no container. -/
theorem leaf {run : Context → Value → Verdict} {accepts : Value → Bool}
    (h : ∀ c v out, run c v = .ok out → out = v ∨ out.isComposite = false) :
    (Evaluator.leaf run accepts).judge.DrawsOn H := by
  intro P s v c out _ hv hout
  rcases h c v out (Option.some.inj hout) with rfl | hplain
  · exact hv
  · exact .of_plain hplain

/-! ## Objects and records -/

theorem fieldOr {id : Ident} {input : List (String × Value)} (hv : (Value.object id input).MadeOf P)
    (key : String) : (fieldOr key input).MadeOf P := by
  unfold ValueSchema.fieldOr
  cases hx : Keyed.find? key input with
  | none => exact .of_plain rfl
  | some x => exact (Value.madeOf_object.mp hv).2 _ (Keyed.mem_of_find? hx)

theorem judgeFields {id : Ident} {input : List (String × Value)} (hs : H.Allows s P)
    (hv : (Value.object id input).MadeOf P) {fields : List (String × Judge)}
    (h : ∀ f ∈ fields, f.2.DrawsOn H) : ∀ {n : Nat} {l : List (String × Verdict)},
    Shape.judgeFields s c input n fields = some l →
    ∀ key z, (key, (.ok z : Verdict)) ∈ l → z.MadeOf P := by
  induction fields with
  | nil =>
    intro n l hl key z hmem
    cases hl
    exact absurd hmem List.not_mem_nil
  | cons f rest ih =>
    rw [List.forall_mem_cons] at h
    intro n l hl key z hmem
    obtain ⟨verdict, hfield, hl⟩ := Option.bind_eq_some_iff.mp hl
    obtain ⟨others, ho, hl⟩ := Option.bind_eq_some_iff.mp hl
    cases hl
    rcases List.mem_cons.mp hmem with heq | hmem
    · cases heq
      exact h.1 (hs.child n) (fieldOr hv f.1) hfield
    · exact ih h.2 ho key z hmem

theorem object {shape : Shape Judge} (hnodup : shape.keys.Nodup)
    (h : ∀ f ∈ shape.fields, f.2.DrawsOn H) : shape.judge.DrawsOn H := by
  intro P s v c out hs hv hout
  obtain ⟨id, input, l, rfl, _, hl, hnone, _, rfl⟩ := Shape.judge_eq_ok hout
  have hinput := Value.madeOf_object.mp hv
  have hjudged := Shape.fields_judged (u := shape.unknown) hnodup hinput.1.1 hl hnone
  rw [Value.madeOf_object]
  refine ⟨⟨hjudged.nodup, hs.ident rfl⟩, fun e he => ?_⟩
  -- a field of the output is a declared one, or was kept from the input
  rcases List.mem_append.mp he with he | he
  · exact judgeFields hs hv h hl e.1 e.2 (Shape.mem_fieldOutputs he)
  · rw [UnknownKeys.kept_eq] at he
    split at he
    · exact hinput.2 e (List.mem_of_mem_filter he)
    · exact absurd he List.not_mem_nil

theorem judgeEntries {key : Option Judge} {value : Judge} (hs : H.Allows s P)
    (h : value.DrawsOn H) {input : List (String × Value)} (hinput : ∀ f ∈ input, f.2.MadeOf P) :
    ∀ {n : Nat} {l : List Record.Entry}, Record.judgeEntries key value s c n input = some l →
    ∀ e ∈ l, ∀ z, e.valueVerdict = .ok z → z.MadeOf P := by
  induction input with
  | nil =>
    intro n l hl e he
    cases hl
    exact absurd he List.not_mem_nil
  | cons f rest ih =>
    obtain ⟨name, x⟩ := f
    rw [List.forall_mem_cons] at hinput
    intro n l hl e he z hz
    obtain ⟨verdict, _, hl⟩ := Option.bind_eq_some_iff.mp hl
    obtain ⟨verdict', hvalue, hl⟩ := Option.bind_eq_some_iff.mp hl
    obtain ⟨others, ho, hl⟩ := Option.bind_eq_some_iff.mp hl
    cases hl
    rcases List.mem_cons.mp he with rfl | he
    · obtain rfl : verdict' = .ok z := hz
      exact h ((hs.child n).child 1) hinput.1 hvalue
    · exact ih hinput.2 ho e he z hz

theorem record {key : Option Judge} {value : Judge} (limits : Limits) (h : value.DrawsOn H) :
    (Record.judge key value limits).DrawsOn H := by
  intro P s v c out hs hv hout
  obtain ⟨id, input, l, rfl, _, hl, _, rfl⟩ := Record.judge_eq_ok hout
  unfold Value.ofEntries
  rw [Value.madeOf_object]
  refine ⟨⟨Keyed.nodup_keys_ofList _, hs.ident rfl⟩, fun f hf => ?_⟩
  obtain ⟨e, he, hfield⟩ := List.mem_filterMap.mp (Keyed.mem_of_mem_ofList hf)
  obtain ⟨_, _, _, hvalue⟩ := Record.Entry.output?_eq_some hfield
  exact judgeEntries hs h (Value.madeOf_object.mp hv).2 hl e he f.2 hvalue

/-! ## Arrays, tuples and sets -/

theorem judgeFrom {judgeAt : Nat → Judge} (hs : H.Allows s P) {items : List Value}
    (hitems : ∀ x ∈ items, x.MadeOf P) :
    ∀ {n : Nat} {l : List Verdict}, (∀ m < n + items.length, (judgeAt m).DrawsOn H) →
    ValueSchema.judgeFrom judgeAt s c n items = some l → ∀ z ∈ Verdict.outputs l, z.MadeOf P := by
  induction items with
  | nil =>
    intro n l _ hl z hz
    cases hl
    exact absurd hz List.not_mem_nil
  | cons x rest ih =>
    rw [List.forall_mem_cons] at hitems
    intro n l h hl z hz
    rw [List.length_cons] at h
    obtain ⟨verdict, hfirst, hl⟩ := Option.bind_eq_some_iff.mp hl
    obtain ⟨others, ho, hl⟩ := Option.bind_eq_some_iff.mp hl
    cases hl
    rcases List.mem_cons.mp (Verdict.mem_outputs hz) with heq | hmem
    · rw [← heq] at hfirst
      exact h n (by omega) (hs.child n) hitems.1 hfirst
    · refine ih hitems.2 (fun m hm => h m (by omega)) ho z ?_
      exact List.mem_filterMap.mpr ⟨_, hmem, rfl⟩

theorem array (b : ArrayBounds) {element : Judge} (h : element.DrawsOn H) :
    (b.judge element).DrawsOn H := by
  intro P s v c out hs hv hout
  obtain ⟨id, items, l, rfl, _, hl, _, rfl⟩ := ArrayBounds.judge_eq_ok hout
  rw [Value.madeOf_array] at hv ⊢
  exact ⟨hs.ident rfl, judgeFrom hs hv.2 (fun _ _ => h) hl⟩

theorem tuple {items : List Judge} {rest : Option Judge} (limits : Limits)
    (h : ∀ j ∈ items ++ rest.toList, j.DrawsOn H) :
    Judge.DrawsOn H (Tuple.judge items rest limits) := by
  intro P s v c out hs hv hout
  obtain ⟨id, elements, l, rfl, _, hfault, hl, _, rfl⟩ := Tuple.judge_eq_ok hout
  rw [Value.madeOf_array] at hv ⊢
  refine ⟨hs.ident rfl, judgeFrom hs hv.2 (fun n hn => ?_) hl⟩
  rw [Nat.zero_add] at hn
  -- every position has a child in charge
  obtain ⟨j, hj⟩ := Tuple.exists_childAt hfault hn
  unfold Tuple.judgeAt
  rw [hj]
  exact h j (Tuple.mem_of_childAt hj)

theorem set (b : SetBounds) {element : Judge} (h : element.DrawsOn H) :
    (b.judge element).DrawsOn H := by
  intro P s v c out hs hv hout
  obtain ⟨id, items, l, rfl, _, hl, _, rfl⟩ := SetBounds.judge_eq_ok hout
  unfold Value.ofElements
  rw [Value.madeOf_set] at hv ⊢
  refine ⟨hs.ident rfl, fun z hz => ?_⟩
  exact judgeFrom hs hv.2 (fun _ _ => h) hl z (Value.mem_of_mem_distinct hz)

/-! ## Maps -/

theorem judgePairs {key value : Judge} (hs : H.Allows s P) (hkey : key.DrawsOn H)
    (hvalue : value.DrawsOn H) {entries : List (Value × Value)}
    (hentries : ∀ e ∈ entries, e.1.MadeOf P ∧ e.2.MadeOf P) :
    ∀ {n : Nat} {l : List (Verdict × Verdict)},
    Dictionary.judgeEntries key value s c n entries = some l →
    ∀ x y, ((.ok x, .ok y) : Verdict × Verdict) ∈ l → x.MadeOf P ∧ y.MadeOf P := by
  induction entries with
  | nil =>
    intro n l hl x y hmem
    cases hl
    exact absurd hmem List.not_mem_nil
  | cons e rest ih =>
    obtain ⟨k, z⟩ := e
    rw [List.forall_mem_cons] at hentries
    intro n l hl x y hmem
    obtain ⟨verdict, hk, hl⟩ := Option.bind_eq_some_iff.mp hl
    obtain ⟨verdict', hz, hl⟩ := Option.bind_eq_some_iff.mp hl
    obtain ⟨others, ho, hl⟩ := Option.bind_eq_some_iff.mp hl
    cases hl
    rcases List.mem_cons.mp hmem with heq | hmem
    · cases heq
      exact ⟨hkey ((hs.child n).child 0) hentries.1.1 hk,
        hvalue ((hs.child n).child 1) hentries.1.2 hz⟩
    · exact ih hentries.2 ho x y hmem

theorem map {key value : Judge} (limits : Limits) (hkey : key.DrawsOn H)
    (hvalue : value.DrawsOn H) : (Dictionary.judge key value limits).DrawsOn H := by
  intro P s v c out hs hv hout
  obtain ⟨id, entries, l, rfl, _, hl, _, rfl⟩ := Dictionary.judge_eq_ok hout
  rw [Value.madeOf_map] at hv ⊢
  refine ⟨hs.ident rfl, fun f hf => ?_⟩
  obtain ⟨e, he, hout⟩ := List.mem_filterMap.mp hf
  rw [Dictionary.output?_eq_some hout] at he
  exact judgePairs hs hkey hvalue hv.2 hl f.1 f.2 he

/-! ## Choices and chains -/

theorem firstOutput? {options : List Judge} (hs : H.Allows s P) {v out : Value}
    (hv : v.MadeOf P) (h : ∀ j ∈ options, j.DrawsOn H) : ∀ {n : Nat},
    Union.firstOutput? s v c n options = some (some out) → out.MadeOf P := by
  induction options with
  | nil =>
    intro n hout
    cases hout
  | cons j rest ih =>
    rw [List.forall_mem_cons] at h
    intro n hout
    obtain ⟨verdict, hfirst, hout⟩ := Option.bind_eq_some_iff.mp hout
    cases verdict with
    | ok w =>
      cases hout
      exact h.1 (hs.child n) hv hfirst
    | error e => exact ih h.2 hout

theorem union {options : List Judge} (h : ∀ j ∈ options, j.DrawsOn H) :
    (Union.judge options).DrawsOn H := by
  intro P s v c out hs hv hout
  obtain ⟨found, hfound, hout⟩ := Option.bind_eq_some_iff.mp hout
  cases found with
  | none => cases hout
  | some w =>
    cases hout
    exact firstOutput? hs hv h hfound

theorem tagged (discriminator : String) (literals : List (Option Value)) {options : List Judge}
    (h : ∀ j ∈ options, j.DrawsOn H) :
    (Tagged.judge discriminator literals options).DrawsOn H := by
  intro P s v c out hs hv hout
  obtain ⟨id, fields, n, j, rfl, _, hn, hj⟩ := Tagged.judge_eq_ok hout
  exact h j (List.mem_of_getElem? hn) (hs.child n) hv hj

/-- The output of a branch is made of what its own place may meet. -/
theorem judgeBranches {branches : List Judge} (h : ∀ j ∈ branches, j.DrawsOn H) {v : Value} :
    ∀ {n : Nat} {l : List Verdict}, Intersection.judgeBranches s v c n branches = some l →
    ∀ (k : Nat) (z : Value), l[k]? = some (.ok z) → ∀ P : Value → Prop,
      H.Allows (s.child (n + k)) P → v.MadeOf P → z.MadeOf P := by
  induction branches with
  | nil =>
    intro n l hl k z hk
    cases hl
    cases hk
  | cons j rest ih =>
    rw [List.forall_mem_cons] at h
    intro n l hl k z hk P hs hv
    obtain ⟨verdict, hfirst, hl⟩ := Option.bind_eq_some_iff.mp hl
    obtain ⟨others, ho, hl⟩ := Option.bind_eq_some_iff.mp hl
    cases hl
    cases k with
    | zero =>
      cases hk
      exact h.1 hs hv hfirst
    | succ k =>
      rw [← Nat.add_assoc, Nat.add_right_comm] at hs
      exact ih h.2 ho k z hk P hs hv

theorem intersection {branches : List Judge} (h : ∀ j ∈ branches, j.DrawsOn H) :
    (Intersection.judge branches).DrawsOn H := by
  intro P s v c out hs hv hout
  obtain ⟨l, hl, _, hmerged⟩ := Intersection.judge_eq_ok hout
  refine Intersection.mergeAll_madeOf (hs.child l.length) (fun w hw => ?_) hmerged
  obtain ⟨k, hk⟩ := List.mem_iff_getElem?.mp (Verdict.mem_outputs hw)
  exact judgeBranches h hl k w hk P (hs.child (0 + k)) hv

theorem pipe {first next : Judge} (h : first.DrawsOn H) (h' : next.DrawsOn H) :
    (first.pipe next).DrawsOn H := by
  intro P s v c out hs hv hout
  obtain ⟨w, hw, hout⟩ := Judge.pipe_eq_ok hout
  exact h' (hs.child 1) (h (hs.child 0) hv hw) hout

/-! ## Modifiers -/

theorem passing {passes : Value → Bool} {output : Value → Value} {j : Judge}
    (hplain : ∀ v, passes v = true → (output v).isComposite = false) (h : j.DrawsOn H) :
    Judge.DrawsOn H fun s v c => if passes v then some (.ok (output v)) else j s v c := by
  intro P s v c out hs hv hout
  beta_reduce at hout
  by_cases hp : passes v = true
  · rw [if_pos hp] at hout
    cases hout
    exact .of_plain (hplain v hp)
  · rw [if_neg hp] at hout
    exact h hs hv hout

end Judge.DrawsOn

theorem Verdict.ofMapped_eq_ok {answer : Except Crash Mapped} {c : Context} {out : Value}
    (h : Verdict.ofMapped answer c = .ok out) : answer = .ok (.ok out) := by
  cases answer with
  | error crash => cases h
  | ok mapped =>
    cases mapped with
    | error message => cases h
    | ok w =>
      cases h
      rfl

/-- What a modifier puts in the place of another value lies in the heap, and the code that it calls
draws on it. -/
def Modifier.DrawsOn (H : Heap) : Modifier → Prop
  | default standard => standard.MadeOf H.Holds
  | fallback replacement => replacement.MadeOf H.Holds
  | transform mapper => mapper.DrawsOn H
  | preprocess mapper => mapper.DrawsOn H
  | _ => True

namespace Judge.DrawsOn

theorem modifier {m : Modifier} (hm : m.DrawsOn H) {j : Judge} (h : j.DrawsOn H) :
    (m.judge .sync j).DrawsOn H := by
  cases m with
  | optional => exact passing (fun _ _ => rfl) h
  | nullable => exact passing (fun _ _ => rfl) h
  | nullish =>
    refine @passing _ _ id _ (fun v hv => ?_) h
    cases v with
    | undefined | null => rfl
    | _ => cases hv
  | default standard =>
    intro P s v c out hs hv hout
    refine h hs ?_ hout
    split
    · exact hm.mono hs.held
    · exact hv
  | fallback replacement =>
    intro P s v c out hs hv hout
    obtain ⟨verdict, hinner, hout⟩ := Option.bind_eq_some_iff.mp hout
    cases verdict with
    | ok w =>
      cases hout
      exact h hs hv hinner
    | error e =>
      cases hout
      exact hm.mono hs.held
  | message text =>
    intro P s v c out hs hv hout
    obtain ⟨verdict, hinner, hout⟩ := Option.map_eq_some_iff.mp hout
    cases verdict with
    | ok w =>
      cases hout
      exact h hs hv hinner
    | error e => cases hout
  | refine check text =>
    intro P s v c out hs hv hout
    dsimp only [Modifier.judge] at hout
    refine h hs hv (Judge.checkOutput_eq_ok (fun w hw => ?_) hout)
    exact Verdict.ofCheck_eq_ok hw
  | superRefine refiner =>
    intro P s v c out hs hv hout
    dsimp only [Modifier.judge] at hout
    refine h hs hv (Judge.checkOutput_eq_ok (fun w hw => ?_) hout)
    exact Verdict.ofRefiner_eq_ok hw
  | transform mapper =>
    intro P s v c out hs hv hout
    obtain ⟨verdict, hinner, hout⟩ := Option.bind_eq_some_iff.mp hout
    obtain ⟨w, rfl, hw⟩ := Verdict.andThen_eq_ok hout
    exact hm (hs.child 1) (h (hs.child 0) hv hinner)
      (Verdict.ofMapped_eq_ok (Option.some.inj hw))
  | preprocess mapper =>
    intro P s v c out hs hv hout
    obtain ⟨w, hw, hout⟩ := Verdict.andThen_eq_ok hout
    exact h (hs.child 1) (hm (hs.child 0) hv (Verdict.ofMapped_eq_ok hw)) hout
  | refineAsync _ _ | transformAsync _ | preprocessAsync _ => exact h

end Judge.DrawsOn

/-! ## Schemas -/

namespace Schema

/-- A node takes containers from a heap and from nowhere else, and its shape declares a field
once. -/
structure DrawsOn (H : Heap) (s : Schema) : Prop where
  constants : ∀ l ∈ s.constants, l.MadeOf H.Holds
  keys : ∀ shape, s = object shape → shape.keys.Nodup
  code : ∀ m inner, s = modified m inner → m.DrawsOn H

section

variable {resolve : Resolution} {s : Schema}

/-- **A layer over children that draw on a heap draws on it.** -/
theorem layer_drawsOn {child : Schema → Evaluator} (hs : s.DrawsOn H)
    (href : ∀ ref, (resolve ref).judge.DrawsOn H)
    (h : ∀ t ∈ s.children, (child t).judge.DrawsOn H) :
    (s.layer .sync resolve child).judge.DrawsOn H := by
  have hbare := fun t (ht : t ∈ s.bare) => h t (mem_children_of_bare ht)
  have hheld := fun t (ht : t ∈ s.held) => h t (mem_children_of_held ht)
  cases s with
  | text t =>
    refine .leaf fun c v out hv => ?_
    obtain ⟨x, _, rfl⟩ := TextSchema.run_eq_ok hv
    exact .inr rfl
  | number n => exact .leaf fun c v out hv => .inl (NumberSchema.run_eq_ok hv).2
  | integer n => exact .leaf fun c v out hv => .inl (IntegerSchema.run_eq_ok hv).2
  | date d => exact .leaf fun c v out hv => .inl (DateSchema.run_eq_ok hv).2
  | plain p => exact .leaf fun c v out hv => .inl (Verdict.checked_eq_ok hv).2
  | literal w => exact .leaf fun c v out hv => .inl (Verdict.checked_eq_ok hv).2
  | words options => exact .leaf fun c v out hv => .inl (Verdict.checked_eq_ok hv).2
  | enumeration entries => exact .leaf fun c v out hv => .inl (Verdict.checked_eq_ok hv).2
  | object shape =>
    refine .object ?_ fun f hf => ?_
    · rw [Likeness.keys_map_eq]
      exact hs.keys shape rfl
    · obtain ⟨g, hg, rfl⟩ := List.mem_map.mp hf
      exact hheld g.2 (List.mem_map_of_mem hg)
  | array element bounds => exact .array bounds (hheld element (by simp [held]))
  | tuple items rest limits =>
    refine .tuple limits fun j hj => ?_
    rcases List.mem_append.mp hj with hj | hj
    · obtain ⟨t, ht, rfl⟩ := List.mem_map.mp hj
      exact hheld t (List.mem_append_left _ ht)
    · obtain ⟨t, ht, rfl⟩ := Option.map_eq_some_iff.mp (Option.mem_toList.mp hj)
      exact hheld t (List.mem_append_right _ (Option.mem_toList.mpr ht))
  | record key value limits => exact .record limits (hheld value (by simp [held]))
  | map key value limits =>
    exact .map limits (hheld key (by simp [held])) (hheld value (by simp [held]))
  | set element bounds => exact .set bounds (hheld element (by simp [held]))
  | union options =>
    refine .union fun j hj => ?_
    obtain ⟨t, ht, rfl⟩ := List.mem_map.mp hj
    exact hbare t ht
  | tagged discriminator options =>
    refine .tagged discriminator _ fun j hj => ?_
    obtain ⟨o, ho, rfl⟩ := List.mem_map.mp hj
    exact hbare (.object o) (List.mem_map_of_mem ho)
  | intersection branches =>
    refine .intersection fun j hj => ?_
    obtain ⟨t, ht, rfl⟩ := List.mem_map.mp hj
    exact hbare t ht
  | lazy ref => exact href ref
  | modified m inner => exact .modifier (hs.code m inner rfl) (hbare inner (by simp [bare]))
  | pipe first next => exact .pipe (hbare first (by simp [bare])) (hbare next (by simp [bare]))

theorem evaluator_drawsOn (hs : s.Every (DrawsOn H)) (href : ∀ ref, (resolve ref).judge.DrawsOn H) :
    (s.evaluator .sync resolve).judge.DrawsOn H := by
  induction hs with
  | intro s node _ ih =>
    rw [evaluator_eq_layer]
    exact layer_drawsOn node href ih

end

/-- **Outputs draw on the heap**, however often definitions are unfolded. -/
theorem resolved_drawsOn {schema : Schema} {family : Family} (hs : schema.Every (DrawsOn H))
    (hfamily : ∀ e ∈ family, e.2.Every (DrawsOn H)) (budget : Nat) :
    (schema.evaluator .sync (family.resolution .sync budget)).judge.DrawsOn H := by
  refine evaluator_drawsOn hs fun ref => ?_
  apply @Family.resolution_induction family .sync fun e => e.judge.DrawsOn H
  · intro P s v c out _ _ hv
    cases hv
  · intro e he resolve href
    exact evaluator_drawsOn (hfamily e he) href

end Schema

end ValueSchema
