/-
Fields in another order.

The fields of an object are judged one by one, each at the place that its position gives it, and
under its own key. So an object schema whose fields are declared in another order judges alike: a
field that is judged at another place builds containers of other names, and the output of the object
lists the fields in another order. A shape that is taken apart by a list of keys and put together
again is such a reordering: what is not listed comes first, and then what is.
-/
import ValueSchema.Proofs.Intersecting.Orders
import ValueSchema.Schema.Shape

set_option autoImplicit false

namespace ValueSchema

variable {H : Heap} {f : Ident → Ident} {s : Site} {v w : Value} {c : Context}

/-! ## Values up to identities and the order of keys -/

namespace Value

/-- Other names for containers do not show. -/
theorem canonical_rename (v : Value) : (v.rename f).canonical = v.canonical := by
  induction v using Value.induction with
  | node v ih =>
    cases v with
    | array id items | set id items =>
      simp only [rename_array, rename_set, canonical, canonicalItems_eq_map, List.map_map]
      congr 1
      exact List.map_congr_left ih
    | object id fields =>
      simp only [rename_object, canonical, canonicalFields_eq_map, Keyed.mapValues, List.map_map]
      congr 2
      exact List.map_congr_left fun e he =>
        congrArg (Prod.mk e.1) (forall_mem_parts_object.mp ih e he)
    | map id entries =>
      simp only [rename_map, canonical, canonicalEntries_eq_map, List.map_map]
      congr 1
      exact List.map_congr_left fun e he =>
        Prod.ext (forall_mem_parts_map.mp ih e he).1 (forall_mem_parts_map.mp ih e he).2
    | _ => rfl

/-- Objects with the same fields in another order are alike. -/
theorem alike_of_fields {id : Ident} {xs ys : List (String × Value)}
    (h : (canonicalFields xs).Perm (canonicalFields ys)) (hxs : (Keyed.keys xs).Nodup) :
    (object id xs).Alike (object id ys) := by
  have hkeys : (Keyed.keys (canonicalFields xs)).Nodup := by
    rwa [canonicalFields_eq_map, keys_map_snd]
  unfold Alike
  rw [canonical, canonical, inKeyOrder_congr h hkeys]

end Value

/-! ## Rearranged verdicts -/

/-- Two verdicts that differ in the order of issues, or in an output by the identities of
containers and the order of keys. Identities inside of issues do not count. -/
inductive Verdict.Rearranged : Verdict → Verdict → Prop
  | ok {v w : Value} (h : v.Alike w) : Rearranged (.ok v) (.ok w)
  | error {e e' : Issues}
      (h : (e.toList.map Issue.anonymous).Perm (e'.toList.map Issue.anonymous)) :
      Rearranged (.error e) (.error e')

theorem Verdict.Rearranged.refl (verdict : Verdict) : verdict.Rearranged verdict := by
  cases verdict with
  | ok v => exact .ok rfl
  | error e => exact .error (.refl _)

/-- Verdicts are rearranged if their issues are, and without issues the outputs are alike. -/
theorem Verdict.finish_rearranged {l l' : List Issue}
    (h : (l.map Issue.anonymous).Perm (l'.map Issue.anonymous)) (hout : l = [] → v.Alike w) :
    (Verdict.finish l v).Rearranged (Verdict.finish l' w) := by
  cases l with
  | nil =>
    obtain rfl : l' = [] := List.map_eq_nil_iff.mp h.nil_eq.symm
    exact .ok (hout rfl)
  | cons i rest =>
    cases l' with
    | nil => exact absurd h.eq_nil (List.cons_ne_nil _ _)
    | cons i' rest' => exact .error h

/-! ## Fields that change places -/

namespace Shape

variable {input : List (String × Value)} {fields others : List (String × Judge)}
  {e : Equiv.Perm Nat}

/-- A declared field as a judge of the whole input. -/
def fieldJudge (input : List (String × Value)) (field : String × Judge) : Judge :=
  fun s _ c => field.2 s (fieldOr field.1 input) (c.childKey field.1)

/-- Declared fields are judged as branches are, one by one and each at its own place. -/
theorem judgeFields_eq_branches : ∀ n, judgeFields s c input n fields
    = (Intersection.judgeBranches s v c n (fields.map (fieldJudge input))).map
        (Keyed.keys fields).zip := by
  induction fields with
  | nil => exact fun _ => rfl
  | cons g rest ih =>
    intro n
    simp only [judgeFields, List.map_cons, Intersection.judgeBranches, ih (n + 1), fieldJudge]
    cases g.2 (s.child n) (fieldOr g.1 input) (c.childKey g.1) with
    | none => rfl
    | some verdict =>
      cases Intersection.judgeBranches s v c (n + 1) (rest.map (fieldJudge input)) <;> rfl

/-- Verdicts at other positions, with the keys at the same other positions. -/
theorem zip_reordered {R : Verdict → Verdict → Prop} {keys keys' : List String}
    {l l' : List Verdict} (hkeys : ∀ n : Nat, keys'[e n]? = keys[n]?)
    (h : ∀ n : Nat, Option.Rel R l[n]? l'[e n]?) (n : Nat) :
    Option.Rel (Keyed.Like R) (keys.zip l)[n]? (keys'.zip l')[e n]? := by
  have hn := h n
  rw [List.zip_eq_zipWith, List.zip_eq_zipWith, List.getElem?_zipWith, List.getElem?_zipWith,
    hkeys n]
  generalize l[n]? = o at hn ⊢
  generalize l'[e n]? = o' at hn ⊢
  cases keys[n]? with
  | none => cases hn <;> exact .none
  | some key =>
    cases hn with
    | none => exact .none
    | some hxy => exact .some ⟨rfl, hxy⟩

/-- **Fields in another order** come to alike verdicts at other positions, if a renaming carries
what each field does at its place to what it does at the other one. -/
theorem judgeFields_reordered (he : ∀ n : Nat, others[e n]? = fields[n]?)
    (halike : ∀ g ∈ fields, ∀ n, (Likeness.renamed f).answer
      (g.2 (s.child n) (fieldOr g.1 input) (c.childKey g.1))
      (g.2 (s.child (e n)) (fieldOr g.1 input) (c.childKey g.1))) :
    Option.Rel (fun l l' : List (String × Verdict) =>
        ∀ n : Nat, Option.Rel (Keyed.Like (Likeness.renamed f).verdict) l[n]? l'[e n]?)
      (judgeFields s c input 0 fields) (judgeFields s c input 0 others) := by
  have hpositions : ∀ n : Nat,
      (others.map (fieldJudge input))[e n]? = (fields.map (fieldJudge input))[n]? := fun n => by
    rw [List.getElem?_map, List.getElem?_map, he]
  have hkeys : ∀ n : Nat, (Keyed.keys others)[e n]? = (Keyed.keys fields)[n]? := fun n => by
    rw [Keyed.keys, Keyed.keys, List.getElem?_map, List.getElem?_map, he]
  have hrel := Intersection.judgeBranches_reordered (v := .undefined) hpositions fun j hj n => by
    obtain ⟨g, hg, rfl⟩ := List.mem_map.mp hj
    exact halike g hg n
  rw [judgeFields_eq_branches (v := .undefined), judgeFields_eq_branches (v := .undefined)]
  generalize Intersection.judgeBranches s .undefined c 0 (fields.map (fieldJudge input)) = o
    at hrel ⊢
  generalize Intersection.judgeBranches s .undefined c 0 (others.map (fieldJudge input)) = o'
    at hrel ⊢
  cases hrel with
  | none => exact .none
  | some h => exact .some (zip_reordered hkeys h)

/-- The field of the output that a declared field makes. -/
def fieldOutput? (g : String × Verdict) : Option (String × Value) :=
  match g.2 with
  | .ok .undefined => none
  | .ok v => some (g.1, v)
  | .error _ => none

theorem fieldOutputs_eq_filterMap (l : List (String × Verdict)) :
    fieldOutputs l = l.filterMap fieldOutput? := rfl

/-- A field makes the same of alike verdicts, up to the names of containers. -/
theorem fieldOutput?_like {x y : String × Verdict}
    (h : Keyed.Like (Likeness.renamed f).verdict x y) :
    (fieldOutput? y).map (fun g => (g.1, g.2.canonical))
      = (fieldOutput? x).map fun g => (g.1, g.2.canonical) := by
  obtain ⟨key, verdict⟩ := x
  obtain ⟨key', verdict'⟩ := y
  obtain ⟨rfl, hverdict⟩ := h
  cases hverdict with
  | error _ => rfl
  | @ok v w hvw =>
    obtain rfl : v.rename f = w := hvw
    cases v with
    | undefined => rfl
    | _ => exact congrArg (fun out => some (key, out)) (Value.canonical_rename _)

section

variable {l l' : List (String × Verdict)}
  (h : ∀ n : Nat, Option.Rel (Keyed.Like (Likeness.renamed f).verdict) l[n]? l'[e n]?)
include h

theorem fieldOutputs_reordered : (Value.canonicalFields (fieldOutputs l)).Perm
    (Value.canonicalFields (fieldOutputs l')) := by
  have houtputs := (perm_of_related h _ _ fun x y hxy => fieldOutput?_like hxy).filterMap id
  rwa [List.filterMap_map, List.filterMap_map, Function.id_comp, ← List.map_filterMap,
    ← List.map_filterMap, ← fieldOutputs_eq_filterMap, ← fieldOutputs_eq_filterMap,
    ← Value.canonicalFields_eq_map, ← Value.canonicalFields_eq_map] at houtputs

theorem fieldIssues_reordered : ((Verdict.allIssues (l.map Prod.snd)).map Issue.anonymous).Perm
    ((Verdict.allIssues (l'.map Prod.snd)).map Issue.anonymous) := by
  refine Intersection.allIssues_reordered (f := f) (e := e) fun n => ?_
  have hn := h n
  rw [List.getElem?_map, List.getElem?_map]
  generalize l[n]? = o at hn ⊢
  generalize l'[e n]? = o' at hn ⊢
  cases hn with
  | none => exact .none
  | some hxy => exact .some hxy.2

end

theorem undeclared_of_perm {keys keys' : List String} (h : keys.Perm keys')
    (input : List (String × Value)) : undeclared keys input = undeclared keys' input := by
  unfold undeclared
  refine List.filter_congr fun g _ => congrArg _ ?_
  rw [Bool.eq_iff_iff, List.contains_iff_mem, List.contains_iff_mem, h.mem_iff]

/-- **Judging by reordered fields** comes to the same in another order. -/
theorem judge_reordered {shape : Shape Judge} (he : ∀ n : Nat, others[e n]? = shape.fields[n]?)
    (halike : ∀ id input, v = .object id input → ∀ g ∈ shape.fields, ∀ n,
      (Likeness.renamed f).answer (g.2 (s.child n) (fieldOr g.1 input) (c.childKey g.1))
        (g.2 (s.child (e n)) (fieldOr g.1 input) (c.childKey g.1)))
    (hnodup : shape.keys.Nodup) (hv : v.ownKeys.Nodup) :
    Option.Rel Verdict.Rearranged (shape.judge s v c) ((shape.withFields others).judge s v c) := by
  simp only [judge, withFields]
  cases hinput : guardedFields shape.limits c v with
  | error i => exact .some (.refl _)
  | ok input =>
    obtain ⟨id, rfl, _⟩ := guardedFields_eq_ok hinput
    have hkeys : shape.keys.Perm (Keyed.keys others) := (perm_of_positions he).map Prod.fst
    have hextra : undeclared (Shape.keys ⟨others, shape.unknown, shape.limits⟩) input
        = undeclared shape.keys input := (undeclared_of_perm hkeys input).symm
    have hrel := judgeFields_reordered he (halike id input rfl)
    simp only [hextra]
    cases hl : judgeFields s c input 0 shape.fields with
    | none =>
      rw [hl] at hrel
      generalize judgeFields s c input 0 others = answer at hrel ⊢
      cases hrel
      exact .none
    | some l =>
      cases hl' : judgeFields s c input 0 others with
      | none =>
        rw [hl, hl'] at hrel
        cases hrel
      | some l' =>
        rw [hl, hl'] at hrel
        cases hrel with
        | some h =>
          refine .some (Verdict.finish_rearranged ?_ fun hnone => ?_)
          · rw [List.map_append, List.map_append]
            exact (fieldIssues_reordered h).append_right _
          · have hissues := (List.append_eq_nil_iff.mp hnone).1
            have hjudged := fields_judged (u := shape.unknown) hnodup hv hl hissues
            refine Value.alike_of_fields ?_ hjudged.nodup
            have houtputs := fieldOutputs_reordered h
            rw [Value.canonicalFields_eq_map, Value.canonicalFields_eq_map] at houtputs ⊢
            rw [List.map_append, List.map_append]
            exact houtputs.append_right _

end Shape

/-! ## Shapes taken apart and put together -/

/-- A shape without some of its fields, merged with just these, declares the same fields with those
moved to the end. -/
theorem Shape.recombined_eq {σ : Type} {shape : Shape σ} (hnodup : shape.keys.Nodup)
    (keys : List String) :
    ∃ fields, shape.fields.Perm fields
      ∧ (shape.without keys).merge (shape.pick keys) = shape.withFields fields := by
  have hperm : shape.fields.Perm (shape.fields.filter (fun g => !keys.contains g.1)
      ++ shape.fields.filter fun g => keys.contains g.1) :=
    ((List.filter_append_perm (fun g => keys.contains g.1) shape.fields).symm).trans
      List.perm_append_comm
  refine ⟨_, hperm, ?_⟩
  have hkeys : (Keyed.keys (shape.fields.filter (fun g => !keys.contains g.1)
      ++ shape.fields.filter fun g => keys.contains g.1)).Nodup :=
    (hperm.map Prod.fst).nodup_iff.mp hnodup
  simp only [merge, extend, without, pick, withFields, withUnknown]
  rw [Keyed.insertAll_of_nodup hkeys]

/-! ## Schemas -/

namespace Schema

variable {shape : Shape Schema} {family : Family}

theorem depthLimit_object (shape : Shape Schema) : (object shape).depthLimit
    = max shape.limits.maxDepth (depthLimits (shape.fields.map Prod.snd)) := by
  have hfields : ∀ fields : List (String × Schema),
      fieldDepthLimits fields = depthLimits (fields.map Prod.snd) := by
    intro fields
    induction fields with
    | nil => rfl
    | cons g rest ih => rw [fieldDepthLimits, ih, List.map_cons, depthLimits]
  obtain ⟨fields, unknown, limits⟩ := shape
  rw [depthLimit, shapeDepthLimit, hfields]

theorem nextRun_object (shape : Shape Schema) :
    (object shape).nextRun = nextRuns (shape.fields.map Prod.snd) := by
  have hfields : ∀ fields : List (String × Schema),
      fieldNextRuns fields = nextRuns (fields.map Prod.snd) := by
    intro fields
    induction fields with
    | nil => rfl
    | cons g rest ih => rw [fieldNextRuns, ih, List.map_cons, nextRuns]
  obtain ⟨fields, unknown, limits⟩ := shape
  rw [nextRun, shapeNextRun, hfields]

theorem object_validateIn (shape : Shape Schema) (family : Family) (v : Value) (c : Context) :
    (object shape).validateIn family v c
      = (shape.map fun t => (t.evaluator .sync
          (family.resolution .sync (family.budget (object shape) v))).judge).judge
        (family.start (object shape) v) v c :=
  validateIn_eq_layer _ family v c

/-- **Objects do not depend on the order of their fields.** Whatever heap the value, the constants
and the code of a caller's draw on, an object schema with its fields in another order comes to an
answer exactly if the schema does, accepts exactly if it does, with an output that differs by
identities and the order of keys at most, and otherwise reports the same issues in another order. -/
theorem validateIn_fields_reordered {fields : List (String × Schema)}
    (hperm : shape.fields.Perm fields) (hshape : (object shape).Every (PureOver H))
    (hfamily : ∀ e ∈ family, e.2.Every (PureOver H)) (hv : v.MadeOf H.Holds)
    (hH : H.OlderThan (family.start (object shape) v).run) (c : Context) :
    Option.Rel Verdict.Rearranged ((object shape).validateIn family v c)
      ((object (shape.withFields fields)).validateIn family v c) := by
  have hschemas : (shape.fields.map Prod.snd).Perm (fields.map Prod.snd) := hperm.map Prod.snd
  have hbudget : family.budget (object (shape.withFields fields)) v
      = family.budget (object shape) v := by
    rw [Family.budget, Family.budget, depthLimit_object, depthLimit_object,
      depthLimits_of_perm hschemas]
    rfl
  have hstart : family.start (object (shape.withFields fields)) v
      = family.start (object shape) v := by
    rw [Family.start, Family.start, nextRun_object, nextRun_object, nextRuns_of_perm hschemas]
    rfl
  rw [object_validateIn, object_validateIn, hbudget, hstart]
  generalize family.budget (object shape) v = budget
  obtain ⟨run, hrun⟩ : ∃ run, family.start (object shape) v = Site.root run := ⟨_, rfl⟩
  rw [hrun] at hH ⊢
  obtain ⟨e, he⟩ := exists_positions hperm
  -- a field judges alike at its place and at the other one
  have hrenaming := Ident.moved_renaming (Ident.atBranch_injective e.injective) hH
  refine Shape.judge_reordered (f := Ident.moved run (Ident.atBranch e)) (e := e) (fun n => ?_)
    (fun id input hinput g hmem n => ?_) ?_ hv.nodup_ownKeys
  · show (fields.map _)[e n]? = (shape.fields.map _)[n]?
    rw [List.getElem?_map, List.getElem?_map, he]
  · obtain ⟨g, hg, rfl⟩ := List.mem_map.mp hmem
    subst hinput
    exact judged_alike (hshape.child (List.mem_map_of_mem hg)) hfamily
      (Judge.DrawsOn.fieldOr hv g.1) hrenaming (Ident.moved_atBranch_carried run e n) budget
  · rw [Likeness.keys_map_eq]
    exact hshape.node.draws.keys shape rfl

/-- **Taking an object schema apart and putting it together again** changes nothing but the order of
its fields. -/
theorem validateIn_recombined (hshape : (object shape).Every (PureOver H))
    (hfamily : ∀ e ∈ family, e.2.Every (PureOver H)) (hv : v.MadeOf H.Holds)
    (hH : H.OlderThan (family.start (object shape) v).run) (keys : List String) (c : Context) :
    Option.Rel Verdict.Rearranged ((object shape).validateIn family v c)
      ((object ((shape.without keys).merge (shape.pick keys))).validateIn family v c) := by
  obtain ⟨fields, hperm, heq⟩ := Shape.recombined_eq (hshape.node.draws.keys shape rfl) keys
  rw [heq]
  exact validateIn_fields_reordered hperm hshape hfamily hv hH c

end Schema

/-! ## A field that is taken out and put back -/

/-- Objects with an array put around one field, and all other fields kept. -/
def Shape.wrappedLeft : Shape Schema :=
  ⟨[("left", .modified (.transform Mapper.wrap) (.plain .any)), ("rest", .plain .any)],
    .passthrough, Limits.standard⟩

theorem Schema.wrappedLeft_pureOver (H : Heap) :
    (Schema.object Shape.wrappedLeft).Every (PureOver H) := by
  refine .intro _ ⟨trivial, nofun, fun shape hshape => ?_, nofun⟩ fun t ht => ?_
  · cases hshape
    decide
  · have ht : t ∈ [Schema.modified (.transform Mapper.wrap) (.plain .any), .plain .any] := ht
    rcases List.mem_pair.mp ht with rfl | rfl
    · exact wrapped_pureOver (any_pureOver H)
    · exact any_pureOver H

/-- The output with the fields as they were declared. -/
def Value.leftThenRest : Value :=
  .object (.made 0 []) [("left", .array (.made 0 [1, 0]) [.number Double.nan]),
    ("rest", .string "r"), ("right", .array (.given 1) [])]

/-- The output once the field is declared last. -/
def Value.restThenLeft : Value :=
  .object (.made 0 []) [("rest", .string "r"),
    ("left", .array (.made 0 [1, 1]) [.number Double.nan]), ("right", .array (.given 1) [])]

/-- A field that is taken out and put back: the outputs differ in the order of keys and in the name
of the array. -/
theorem Schema.wrappedLeft_recombined :
    (Schema.object Shape.wrappedLeft).validateIn [] Value.threeFields Context.root
        = some (.ok Value.leftThenRest)
      ∧ (Schema.object ((Shape.wrappedLeft.without ["left"]).merge
          (Shape.wrappedLeft.pick ["left"]))).validateIn [] Value.threeFields Context.root
        = some (.ok Value.restThenLeft)
      ∧ Value.leftThenRest.Alike Value.restThenLeft := by
  have hdeclared : (Schema.object Shape.wrappedLeft).validateIn [] Value.threeFields Context.root
      = some (.ok Value.leftThenRest) := by cbv
  have hrecombined : (Schema.object ((Shape.wrappedLeft.without ["left"]).merge
      (Shape.wrappedLeft.pick ["left"]))).validateIn [] Value.threeFields Context.root
      = some (.ok Value.restThenLeft) := by cbv
  have hfamily : ∀ e ∈ ([] : Family), e.2.Every (PureOver Heap.ofThreeFields) :=
    fun _ he => absurd he List.not_mem_nil
  have h := validateIn_recombined (wrappedLeft_pureOver _) hfamily Value.threeFields_madeOf
    (Heap.ofThreeFields_olderThan _) ["left"] Context.root
  rw [hdeclared, hrecombined] at h
  refine ⟨hdeclared, hrecombined, ?_⟩
  cases h with
  | some h =>
    cases h with
    | ok h => exact h

end ValueSchema
