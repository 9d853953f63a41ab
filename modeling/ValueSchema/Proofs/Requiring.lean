/-
What requiring fields does.

A field may be lenient through a stack of wrappers, each of which lets undefined pass, or null, or
both. Whether undefined passes in the end depends on the whole stack, in whatever order the
wrappers stand. Requiring a field takes off the wrappers on the outside, down to the first one
that lets null pass only: what stands beneath that one is left as it is. So undefined keeps
passing exactly if such a wrapper shelters a further one that lets it pass.

From this the law for objects follows. An object with required fields is rejected if it lacks a
field whose stack shelters nothing, and judged just as before if it lacks none of these.
-/
import Mathlib.Data.List.TakeWhile
import ValueSchema.Schema.Shape
import ValueSchema.Proofs.Acceptance
import ValueSchema.Proofs.Termination.Families

set_option autoImplicit false

namespace ValueSchema

/-! ## Stacks of wrappers -/

/-- A wrapper that lets undefined or null pass. -/
inductive Leniency
  | optional
  | nullable
  | nullish
deriving DecidableEq, Repr

namespace Leniency

def modifier : Leniency → Modifier
  | optional => .optional
  | nullable => .nullable
  | nullish => .nullish

/-- A stack of wrappers, the outermost one first, lets undefined pass. -/
def forgives (stack : List Leniency) : Bool := stack.any fun l => l != nullable

/-- A stack of wrappers lets null pass. -/
def voids (stack : List Leniency) : Bool := stack.any fun l => l != optional

/-- A value passes because of the wrappers. -/
def lets (stack : List Leniency) (v : Value) : Bool :=
  (forgives stack && v.isUndefined) || (voids stack && v.isNull)

/-- The stack that is left once a field is required. -/
def required : List Leniency → List Leniency
  | optional :: rest => required rest
  | nullish :: rest => nullable :: required rest
  | stack => stack

/-- Beneath a wrapper for null stands one that lets undefined pass. -/
def shelters (stack : List Leniency) : Bool := forgives (stack.dropWhile fun l => l != nullable)

/-- Requiring a field leaves of its leniency for undefined just what is sheltered. -/
theorem forgives_required (stack : List Leniency) :
    forgives (required stack) = shelters stack := by
  induction stack with
  | nil => rfl
  | cons l rest ih =>
    cases l with
    | optional => exact ih
    | nullable => rfl
    | nullish => exact ih

theorem forgives_of_shelters {stack : List Leniency} (h : shelters stack = true) :
    forgives stack = true := by
  rw [shelters, forgives, List.any_eq_true] at h
  obtain ⟨l, hl, hforgives⟩ := h
  exact List.any_eq_true.mpr ⟨l, (List.dropWhile_sublist _).subset hl, hforgives⟩

/-- Requiring a field does not change its leniency for null. -/
theorem voids_required (stack : List Leniency) : voids (required stack) = voids stack := by
  induction stack with
  | nil => rfl
  | cons l rest ih =>
    cases l with
    | optional => exact ih
    | nullable => rfl
    | nullish => rfl

end Leniency

/-! ## Wrapped schemas -/

/-- A schema within a stack of wrappers. -/
def Schema.lenient (stack : List Leniency) (core : Schema) : Schema :=
  stack.foldr (fun l inner => .modified l.modifier inner) core

/-- No judgement of undefined by the schema accepts it. -/
def Schema.RejectsUndefined (core : Schema) (family : Family) : Prop :=
  ∀ (budget : Nat) (s : Site) (c : Context) (out : Value),
    (core.evaluator .sync (family.resolution .sync budget)).judge s .undefined c ≠ some (.ok out)

namespace Schema

variable {family : Family} {core : Schema}

/-- What rejects undefined has no wrapper of its own to be taken off. -/
theorem RejectsUndefined.required_eq (h : core.RejectsUndefined family) : core.required = core := by
  cases core with
  | modified m inner =>
    cases m with
    | optional => exact absurd rfl (h 0 default default .undefined)
    | nullish => exact absurd rfl (h 0 default default .undefined)
    | _ => rfl
  | _ => rfl

theorem required_lenient (h : core.required = core) (stack : List Leniency) :
    (lenient stack core).required = lenient (Leniency.required stack) core := by
  induction stack with
  | nil => exact h
  | cons l rest ih =>
    cases l with
    | optional => exact ih
    | nullable => rfl
    | nullish => exact congrArg (Schema.modified .nullable) ih

/-- **A stack of wrappers acts as one**: what it lets pass it puts out, and everything else is
judged by the schema inside. -/
theorem lenient_judge (mode : Mode) (resolve : Resolution) (stack : List Leniency) (core : Schema)
    (s : Site) (v : Value) (c : Context) :
    ((lenient stack core).evaluator mode resolve).judge s v c
      = if Leniency.lets stack v then some (.ok v)
        else (core.evaluator mode resolve).judge s v c := by
  induction stack with
  | nil => rfl
  | cons l rest ih =>
    have hstep : ((lenient (l :: rest) core).evaluator mode resolve).judge s v c
        = l.modifier.judge mode ((lenient rest core).evaluator mode resolve).judge s v c := rfl
    rw [hstep]
    cases l <;> cases v <;>
      simp [Leniency.modifier, Modifier.judge, ih, Leniency.lets, Leniency.forgives,
        Leniency.voids, Value.isUndefined, Value.isNull]

theorem depthLimit_lenient (stack : List Leniency) (core : Schema) :
    (lenient stack core).depthLimit = core.depthLimit := by
  induction stack with
  | nil => rfl
  | cons l rest ih => exact ih

theorem nextRun_lenient (stack : List Leniency) (core : Schema) :
    (lenient stack core).nextRun = core.nextRun := by
  induction stack with
  | nil => rfl
  | cons l rest ih =>
    have hstep : (lenient (l :: rest) core).nextRun = max 0 (lenient rest core).nextRun := by
      cases l <;> rfl
    rw [hstep, ih, Nat.zero_max]

theorem every_lenient_iff {stack : List Leniency} {core : Schema} :
    (lenient stack core).Every family.Defines ↔ core.Every family.Defines := by
  induction stack with
  | nil => exact Iff.rfl
  | cons l rest ih =>
    rw [← ih]
    constructor
    · exact fun h => h.child (mem_children_of_bare (List.mem_singleton_self _))
    · intro h
      refine .intro _ trivial fun t ht => ?_
      cases List.mem_singleton.mp (show t ∈ [lenient rest core] from ht)
      exact h

end Schema

/-! ## Objects of wrapped fields -/

/-- A field: a schema that may be wrapped. -/
structure LenientField where
  stack : List Leniency
  core : Schema

/-- The schema of a field. -/
def LenientField.schema (f : LenientField) : Schema := .lenient f.stack f.core

/-- The field once it is required. -/
def LenientField.required (f : LenientField) : LenientField := ⟨Leniency.required f.stack, f.core⟩

/-- An object schema of wrapped fields. -/
def Schema.lenientObject (shape : Shape LenientField) : Schema :=
  .object (shape.map LenientField.schema)

/-- Under a key the value has nothing, or undefined. -/
def Value.Lacks (v : Value) (key : String) : Prop :=
  (v.get? key).getD .undefined = .undefined

namespace Schema

variable {family : Family} {shape : Shape LenientField}

theorem required_lenientObject (hcores : ∀ f ∈ shape.fields, f.2.core.RejectsUndefined family) :
    (shape.map LenientField.schema).required
      = (shape.map LenientField.required).map LenientField.schema := by
  rw [Shape.required, Shape.map_map, Shape.map_map]
  exact Shape.map_congr fun f hf => required_lenient (hcores f hf).required_eq f.2.stack

theorem fieldDepthLimits_mapValues {σ : Type} {f g : σ → Schema}
    (h : ∀ x, (f x).depthLimit = (g x).depthLimit) (l : List (String × σ)) :
    fieldDepthLimits (Keyed.mapValues f l) = fieldDepthLimits (Keyed.mapValues g l) := by
  induction l with
  | nil => rfl
  | cons x rest ih =>
    show max (f x.2).depthLimit (fieldDepthLimits (Keyed.mapValues f rest)) = _
    rw [ih, h]
    rfl

theorem fieldNextRuns_mapValues {σ : Type} {f g : σ → Schema}
    (h : ∀ x, (f x).nextRun = (g x).nextRun) (l : List (String × σ)) :
    fieldNextRuns (Keyed.mapValues f l) = fieldNextRuns (Keyed.mapValues g l) := by
  induction l with
  | nil => rfl
  | cons x rest ih =>
    show max (f x.2).nextRun (fieldNextRuns (Keyed.mapValues f rest)) = _
    rw [ih, h]
    rfl

/-- Whether references are defined does not depend on wrappers. -/
theorem every_lenientObject_iff : (lenientObject shape).Every family.Defines
    ↔ ∀ f ∈ shape.fields, f.2.core.Every family.Defines := by
  have hchild (t : Schema) : t ∈ (lenientObject shape).children
      ↔ ∃ f ∈ shape.fields, f.2.schema = t := by
    simp [lenientObject, children, bare, held, Shape.map, Keyed.mapValues]
  constructor
  · intro h f hf
    exact every_lenient_iff.mp (h.child ((hchild _).mpr ⟨f, hf, rfl⟩))
  · intro h
    refine .intro _ trivial fun t ht => ?_
    obtain ⟨f, hf, rfl⟩ := (hchild t).mp ht
    exact every_lenient_iff.mpr (h f hf)

theorem grounds_required (hg : family.Grounds (lenientObject shape)) :
    family.Grounds (lenientObject (shape.map LenientField.required)) where
  closed := hg.closed
  guarded := hg.guarded
  defines := by
    refine every_lenientObject_iff.mpr fun f hf => ?_
    obtain ⟨g, hmem, rfl⟩ := List.mem_map.mp hf
    exact every_lenientObject_iff.mp hg.defines g hmem

end Schema

/-! ## Judging objects of wrapped fields -/

/-- The judge of a field. -/
def LenientField.judge (resolve : Resolution) (f : LenientField) : Judge :=
  (f.schema.evaluator .sync resolve).judge

theorem LenientField.judge_eq (resolve : Resolution) (f : LenientField) (s : Site) (v : Value)
    (c : Context) : f.judge resolve s v c = if Leniency.lets f.stack v then some (.ok v)
      else (f.core.evaluator .sync resolve).judge s v c :=
  Schema.lenient_judge .sync resolve f.stack f.core s v c

/-- A required field judges a value as before unless undefined was let pass by a wrapper that was
taken off. -/
theorem LenientField.judge_required (resolve : Resolution) (f : LenientField) (s : Site)
    {v : Value} (c : Context) (h : v = .undefined → Leniency.shelters f.stack = true) :
    f.required.judge resolve s v c = f.judge resolve s v c := by
  have hlets : Leniency.lets f.required.stack v = Leniency.lets f.stack v := by
    rw [LenientField.required, Leniency.lets, Leniency.lets, Leniency.forgives_required,
      Leniency.voids_required]
    cases hv : v.isUndefined with
    | false => simp
    | true =>
      have hundefined : v = .undefined := by
        cases v <;> first | rfl | cases hv
      rw [h hundefined, Leniency.forgives_of_shelters (h hundefined)]
  rw [judge_eq, judge_eq, hlets]
  rfl

/-- A required field whose stack shelters nothing rejects undefined. -/
theorem LenientField.judge_required_undefined {family : Family} {f : LenientField}
    (hcore : f.core.RejectsUndefined family) (h : Leniency.shelters f.stack = false)
    (budget : Nat) (s : Site) (c : Context) (out : Value) :
    f.required.judge (family.resolution .sync budget) s .undefined c ≠ some (.ok out) := by
  have hlets : Leniency.lets f.required.stack .undefined = false := by
    rw [LenientField.required, Leniency.lets, Leniency.forgives_required, h]
    simp [Value.isNull]
  rw [judge_eq, hlets, if_neg Bool.false_ne_true]
  exact hcore budget s c out

namespace Shape

variable {σ : Type} {j j' : σ → Judge}

theorem judgeFields_congr {s : Site} {c : Context} {input : List (String × Value)}
    {fields : List (String × σ)}
    (h : ∀ f ∈ fields, ∀ s c, j f.2 s (fieldOr f.1 input) c = j' f.2 s (fieldOr f.1 input) c)
    (n : Nat) : judgeFields s c input n (Keyed.mapValues j fields)
      = judgeFields s c input n (Keyed.mapValues j' fields) := by
  induction fields generalizing n with
  | nil => rfl
  | cons f rest ih =>
    simp only [List.forall_mem_cons] at h
    have hrest := ih h.2 (n + 1)
    simp only [Keyed.mapValues, List.map_cons, judgeFields] at hrest ⊢
    rw [h.1, hrest]

/-- Two shapes of judges that agree on the fields of an object agree on the object. -/
theorem judge_congr {shape : Shape σ} {s : Site} {v : Value} {c : Context}
    (h : ∀ f ∈ shape.fields, ∀ s c, j f.2 s ((v.get? f.1).getD .undefined) c
      = j' f.2 s ((v.get? f.1).getD .undefined) c) :
    (shape.map j).judge s v c = (shape.map j').judge s v c := by
  have hkeys : (shape.map j).keys = (shape.map j').keys := by
    simp [Shape.keys, Shape.map, Keyed.keys, Keyed.mapValues, List.map_map]
  simp only [Shape.judge, hkeys]
  obtain ⟨fields, unknown, limits⟩ := shape
  simp only [Shape.map]
  cases hin : guardedFields limits c v with
  | error i => rfl
  | ok input =>
    obtain ⟨id, rfl, _⟩ := guardedFields_eq_ok hin
    dsimp only
    rw [judgeFields_congr h 0]

end Shape

namespace Schema

variable {family : Family}

theorem lenientObject_judge (mode : Mode) (resolve : Resolution) (shape : Shape LenientField) :
    ((lenientObject shape).evaluator mode resolve).judge
      = (shape.map fun f => (f.schema.evaluator mode resolve).judge).judge := by
  rw [lenientObject, evaluator_eq_layer]
  simp only [layer, Shape.map_map]

/-- Requiring fields changes neither the budget nor the start of a judgement. -/
theorem validateIn_requiredObject (shape : Shape LenientField) (v : Value) (c : Context) :
    (lenientObject (shape.map LenientField.required)).validateIn family v c
      = (shape.map fun f => f.required.judge
          (family.resolution .sync (family.budget (lenientObject shape) v))).judge
          (family.start (lenientObject shape) v) v c := by
  have hlimit : (lenientObject (shape.map LenientField.required)).depthLimit
      = (lenientObject shape).depthLimit := by
    simp only [lenientObject, depthLimit, Shape.map_map]
    refine congrArg (max shape.limits.maxDepth) (fieldDepthLimits_mapValues (fun f => ?_) _)
    exact (depthLimit_lenient _ f.core).trans (depthLimit_lenient _ f.core).symm
  have hrun : (lenientObject (shape.map LenientField.required)).nextRun
      = (lenientObject shape).nextRun := by
    simp only [lenientObject, nextRun, Shape.map_map]
    refine fieldNextRuns_mapValues (fun f => ?_) _
    exact (nextRun_lenient _ f.core).trans (nextRun_lenient _ f.core).symm
  rw [validateIn, Family.evaluator, lenientObject_judge, Shape.map_map, Family.start, hrun,
    Family.budget, hlimit]
  rfl

/-- **Requiring fields makes them required, sheltered leniency apart.** An object that lacks a
field whose stack shelters nothing is rejected; an object that lacks no such field is judged just
as before. -/
theorem validateIn_required {shape : Shape LenientField}
    (hcores : ∀ f ∈ shape.fields, f.2.core.RejectsUndefined family) (v : Value) (c : Context) :
    (∀ f ∈ shape.fields, Leniency.shelters f.2.stack = false → v.Lacks f.1 →
      (∀ out, (Schema.object (shape.map LenientField.schema).required).validateIn family v c
        ≠ some (.ok out))
      ∧ (family.Grounds (.object (shape.map LenientField.schema)) → ∃ e,
        (Schema.object (shape.map LenientField.schema).required).validateIn family v c
          = some (.error e)))
    ∧ ((∀ f ∈ shape.fields, v.Lacks f.1 → Leniency.shelters f.2.stack = true) →
      (Schema.object (shape.map LenientField.schema).required).validateIn family v c
        = (Schema.object (shape.map LenientField.schema)).validateIn family v c) := by
  rw [required_lenientObject hcores]
  refine ⟨fun f hf hshelters hlacks => ?_, fun h => ?_⟩
  · have hreject (out : Value) :
        (lenientObject (shape.map LenientField.required)).validateIn family v c
          ≠ some (.ok out) := by
      rw [validateIn_requiredObject]
      intro hok
      -- an object that is accepted has the field accepted, which stands as undefined
      obtain ⟨i, z, hz⟩ := Shape.field_accepted hok (List.mem_map_of_mem hf)
      rw [show (v.get? f.1).getD .undefined = .undefined from hlacks] at hz
      exact LenientField.judge_required_undefined (hcores f hf) hshelters _ _ _ z hz
    refine ⟨hreject, fun hg => ?_⟩
    obtain ⟨verdict, hverdict⟩ :=
      Family.evaluator_answers .sync (grounds_required hg) v c.depth _ v c rfl
    cases verdict with
    | ok out => exact absurd hverdict (hreject out)
    | error e => exact ⟨e, hverdict⟩
  · calc (lenientObject (shape.map LenientField.required)).validateIn family v c
      _ = (shape.map fun f => f.required.judge
            (family.resolution .sync (family.budget (lenientObject shape) v))).judge
            (family.start (lenientObject shape) v) v c := validateIn_requiredObject shape v c
      _ = (shape.map fun f => f.judge
            (family.resolution .sync (family.budget (lenientObject shape) v))).judge
            (family.start (lenientObject shape) v) v c :=
        Shape.judge_congr fun f hf s c =>
          LenientField.judge_required _ f.2 s c fun hundefined => h f hf hundefined
      _ = (lenientObject shape).validateIn family v c :=
        congrArg (fun judge : Judge => judge (family.start (lenientObject shape) v) v c)
          (lenientObject_judge .sync _ shape).symm

theorem text_rejectsUndefined (t : TextSchema) : (text t).RejectsUndefined family := by
  intro budget s c out h
  cases h

/-- A name that may be null, and may be left out as its field is optional. -/
def looseName : Shape LenientField :=
  ⟨[("name", ⟨[.optional, .nullable], .text .any⟩)], .strip, Limits.standard⟩

theorem looseName_cores : ∀ f ∈ looseName.fields, f.2.core.RejectsUndefined [] := by
  intro f hf
  cases List.mem_singleton.mp hf
  exact text_rejectsUndefined _

theorem looseName_grounds : Family.Grounds [] (lenientObject looseName) := by
  refine Family.nil_grounds (every_lenientObject_iff.mpr fun f hf => ?_)
  cases List.mem_singleton.mp hf
  exact .intro _ trivial fun t ht => absurd ht List.not_mem_nil

/-- Once the name is required, an object without it is rejected, and one with it is judged as
before. -/
theorem validateIn_required_name :
    (∀ f ∈ looseName.fields, f.2.core.RejectsUndefined [])
    ∧ (∃ e, (object (looseName.map LenientField.schema).required).validateIn []
        (.object (.given 0) []) Context.root = some (.error e))
    ∧ (object (looseName.map LenientField.schema).required).validateIn []
        (.object (.given 0) [("name", .null)]) Context.root
      = (object (looseName.map LenientField.schema)).validateIn []
        (.object (.given 0) [("name", .null)]) Context.root := by
  refine ⟨looseName_cores, ?_, ?_⟩
  · exact ((validateIn_required looseName_cores (.object (.given 0) []) Context.root).1 _
      List.mem_cons_self rfl rfl).2 looseName_grounds
  · refine (validateIn_required looseName_cores _ Context.root).2 fun f hf hlacks => ?_
    cases List.mem_singleton.mp hf
    cases hlacks

/-- Where the wrappers stand the other way round, the field may still be left out. -/
theorem required_keeps_sheltered :
    (∀ f ∈ [("name", LenientField.mk [.nullable, .optional] (.text .any))],
      f.2.core.RejectsUndefined [])
    ∧ (Value.object (.given 0) []).Lacks "name"
    ∧ (object ((Shape.mk [("name", LenientField.mk [.nullable, .optional] (.text .any))] .strip
        Limits.standard).map LenientField.schema).required).accepts [] (.object (.given 0) [])
      = some true := by
  refine ⟨fun f hf => ?_, rfl, by decide⟩
  cases List.mem_singleton.mp hf
  exact text_rejectsUndefined _

end Schema

end ValueSchema
