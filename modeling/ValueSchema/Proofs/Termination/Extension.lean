/-
Evaluators that are defined further.

Judging and testing come to nothing where a reference cannot be followed, so evaluators that follow
references less far are less defined. One is extended by another that comes to the same wherever the
first comes to anything. For judges this is lifting below the empty prefix, where nothing moves. A
layer over extended children is extended, so the evaluator of a schema is extended by every one that
unfolds definitions more often.
-/
import ValueSchema.Proofs.Rerooting.Layer
import ValueSchema.Proofs.Agreement.Schemas

set_option autoImplicit false

namespace ValueSchema

/-- Wherever the first test answers, the second one answers the same. -/
def Test.Extends (t t' : Test) : Prop :=
  ∀ ⦃s : Site⦄ ⦃v : Value⦄ ⦃depth : Nat⦄ ⦃passed : Bool⦄, t s v depth = some passed →
    t' s v depth = some passed

namespace Test

theorem both_extends {first first' : Option Bool} {second second' : Unit → Option Bool}
    (h : ∀ passed, first = some passed → first' = some passed)
    (h' : ∀ passed, second () = some passed → second' () = some passed) :
    ∀ passed, both first second = some passed → both first' second' = some passed := by
  intro passed hp
  cases first with
  | none => cases hp
  | some b =>
    rw [h b rfl]
    cases b with
    | true => exact h' passed hp
    | false => exact hp

namespace Extends

variable {σ : Type} {t t' : σ → Test} {s : Site} {depth : Nat}

/-! ## Extended containers -/

theorem testFields {input : List (String × Value)} {fields : List (String × σ)}
    (h : ∀ f ∈ fields, (t f.2).Extends (t' f.2)) : ∀ (n : Nat) (passed : Bool),
    Shape.testFields s depth input n (Keyed.mapValues t fields) = some passed →
    Shape.testFields s depth input n (Keyed.mapValues t' fields) = some passed := by
  induction fields with
  | nil => exact fun _ _ => id
  | cons f rest ih =>
    intro n
    rw [List.forall_mem_cons] at h
    exact both_extends (fun _ hp => h.1 hp) (ih h.2 (n + 1))

theorem object {shape : Shape σ} (h : ∀ f ∈ shape.fields, (t f.2).Extends (t' f.2)) :
    (shape.map t).test.Extends (shape.map t').test := by
  intro s v depth passed
  simp only [Shape.test, Likeness.keys_map_eq]
  simp only [Shape.map]
  cases guardedFields? shape.limits depth v with
  | none => exact id
  | some input => exact both_extends (testFields h 0) (fun _ => id) passed

theorem testFrom {testAt testAt' : Nat → Test} (h : ∀ n, (testAt n).Extends (testAt' n))
    (items : List Value) : ∀ (n : Nat) (passed : Bool),
    testFrom testAt s depth n items = some passed →
    ValueSchema.testFrom testAt' s depth n items = some passed := by
  induction items with
  | nil => exact fun _ _ => id
  | cons x rest ih => exact fun n => both_extends (fun _ hp => h n hp) (ih (n + 1))

theorem array (b : ArrayBounds) {k k' : Test} (h : k.Extends k') :
    (b.test k).Extends (b.test k') := by
  intro s v depth passed
  simp only [ArrayBounds.test]
  cases guardedItems? b.limits depth v with
  | none => exact id
  | some items =>
    dsimp only
    split
    · exact testFrom (fun _ => h) items 0 passed
    · exact id

theorem tuple {items : List σ} {rest : Option σ} (limits : Limits)
    (h : ∀ x ∈ items ++ rest.toList, (t x).Extends (t' x)) :
    Test.Extends (Tuple.test (items.map t) (rest.map t) limits)
      (Tuple.test (items.map t') (rest.map t') limits) := by
  intro s v depth passed
  simp only [Tuple.test, Tuple.childAt_map, List.length_map, Option.isSome_map]
  cases guardedItems? limits depth v with
  | none => exact id
  | some elements =>
    dsimp only
    split
    · refine testFrom (fun n => ?_) elements 0 passed
      cases hn : Tuple.childAt items rest n with
      | none => exact fun _ _ _ _ => id
      | some x => exact h x (Tuple.mem_of_childAt hn)
    · exact id

theorem set (b : SetBounds) {k k' : Test} (h : k.Extends k') : (b.test k).Extends (b.test k') := by
  intro s v depth passed
  cases v with
  | set id items =>
    simp only [SetBounds.test]
    split
    · exact testFrom (fun _ => h) items 0 passed
    · exact fun hp => hp
  | _ => exact id

theorem testEntries {key : Option σ} {k k' : Test} (h : ∀ x ∈ key, (t x).Extends (t' x))
    (hk : k.Extends k') (input : List (String × Value)) : ∀ (n : Nat) (passed : Bool),
    Record.testEntries (key.map t) k s depth n input = some passed →
    Record.testEntries (key.map t') k' s depth n input = some passed := by
  induction input with
  | nil => exact fun _ _ => id
  | cons f rest ih =>
    intro n
    refine both_extends ?_ (both_extends (fun _ hp => hk hp) (ih (n + 1)))
    cases key with
    | none => exact fun _ => id
    | some x => exact fun _ hp => h x rfl hp

theorem record {key : Option σ} {k k' : Test} (limits : Limits)
    (h : ∀ x ∈ key, (t x).Extends (t' x)) (hk : k.Extends k') :
    Test.Extends (Record.test (key.map t) k limits) (Record.test (key.map t') k' limits) := by
  intro s v depth passed
  simp only [Record.test]
  cases guardedFields? limits depth v with
  | none => exact id
  | some input => exact testEntries h hk input 0 passed

theorem testPairs {k k' i i' : Test} (h : k.Extends k') (h' : i.Extends i')
    (entries : List (Value × Value)) : ∀ (n : Nat) (passed : Bool),
    Dictionary.testEntries k i s depth n entries = some passed →
    Dictionary.testEntries k' i' s depth n entries = some passed := by
  induction entries with
  | nil => exact fun _ _ => id
  | cons e rest ih =>
    exact fun n => both_extends (fun _ hp => h hp)
      (both_extends (fun _ hp => h' hp) (ih (n + 1)))

theorem map {k k' i i' : Test} (limits : Limits) (h : k.Extends k') (h' : i.Extends i') :
    Test.Extends (Dictionary.test k i limits) (Dictionary.test k' i' limits) := by
  intro s v depth passed
  cases v with
  | map id entries =>
    simp only [Dictionary.test]
    split
    · exact testPairs h h' entries 0 passed
    · exact fun hp => hp
  | _ => exact id

/-! ## Extended choices and modifiers -/

theorem firstPassing? {options : List σ} (h : ∀ x ∈ options, (t x).Extends (t' x)) {v : Value} :
    ∀ {n : Nat} {found : Option Nat},
    Union.firstPassing? s v depth n (options.map t) = some found →
    Union.firstPassing? s v depth n (options.map t') = some found := by
  induction options with
  | nil => exact id
  | cons x rest ih =>
    intro n found hf
    rw [List.forall_mem_cons] at h
    obtain ⟨passed, hp, hf⟩ := Option.bind_eq_some_iff.mp hf
    simp only [List.map_cons, Union.firstPassing?]
    rw [h.1 hp]
    cases passed with
    | true => exact hf
    | false => exact ih h.2 hf

theorem union {options : List σ} (h : ∀ x ∈ options, (t x).Extends (t' x)) :
    Test.Extends (Union.test (options.map t)) (Union.test (options.map t')) := by
  intro s v depth passed hp
  obtain ⟨found, hf, rfl⟩ := Option.map_eq_some_iff.mp hp
  exact congrArg (Option.map Option.isSome) (firstPassing? h hf)

theorem tagged (discriminator : String) (literals : List (Option Value)) {options : List σ}
    (h : ∀ x ∈ options, (t x).Extends (t' x)) :
    Test.Extends (Tagged.test discriminator literals (options.map t))
      (Tagged.test discriminator literals (options.map t')) := by
  intro s v depth passed
  cases v with
  | object id fields =>
    simp only [Tagged.test, List.getElem?_map]
    cases Tagged.select? discriminator literals fields with
    | none => exact fun hp => hp
    | some n =>
      rw [Option.bind_some, Option.bind_some]
      cases hn : options[n]? with
      | none => exact fun hp => hp
      | some x => exact fun hp => h x (List.mem_of_getElem? hn) hp
  | _ => exact id

theorem toTest {j j' : Judge} (h : j.Lifts "" j') : j.toTest.Extends j'.toTest := by
  intro s v depth passed hp
  obtain ⟨verdict, hv, rfl⟩ := Option.map_eq_some_iff.mp hp
  have hverdict := h hv
  rw [Context.under_empty, Verdict.under_empty] at hverdict
  exact congrArg (Option.map Except.isOk) hverdict

theorem passing (passes : Value → Bool) {k k' : Test} (h : k.Extends k') :
    Test.Extends (fun s v depth => if passes v then some true else k s v depth)
      (fun s v depth => if passes v then some true else k' s v depth) := by
  intro s v depth passed
  dsimp only
  split
  · exact id
  · exact fun hp => h hp

theorem modifier (m : Modifier) {k k' : Test} {full full' : Judge} (h : k.Extends k')
    (hfull : full.Lifts "" full') : (m.test k full).Extends (m.test k' full') := by
  cases m with
  | optional => exact passing Value.isUndefined h
  | nullable => exact passing Value.isNull h
  | nullish => exact passing (fun v => v.isUndefined || v.isNull) h
  | default standard => exact fun _ _ _ _ hp => h hp
  | fallback replacement => exact fun _ _ _ _ => id
  | refine _ _ | superRefine _ | transform _ | preprocess _ => exact toTest hfull
  | _ => exact h

end Extends

end Test

/-! ## Layers -/

/-- The first evaluator comes to nothing or to what the second one comes to. -/
structure Evaluator.Extends (e e' : Evaluator) : Prop where
  judge : e.judge.Lifts "" e'.judge
  test : e.test.Extends e'.test

theorem Evaluator.unresolved_extends (e : Evaluator) : Evaluator.unresolved.Extends e where
  judge := fun _ _ _ _ h => nomatch h
  test := fun _ _ _ _ h => nomatch h

theorem Judge.Lifts.same {j j' : Judge} (h : j.Lifts "" j') {s : Site} {v : Value} {c : Context}
    {verdict : Verdict} (hv : j s v c = some verdict) : j' s v c = some verdict := by
  have hlifted := h hv
  rwa [Context.under_empty, Verdict.under_empty] at hlifted

theorem Context.joins_empty (name : String) : Joins "" name := .inl rfl

theorem Refiner.moves_empty (r : Refiner) (path : String) (v : Value) : r.Moves "" path v := by
  refine ⟨?_, fun name _ => Context.joins_empty name⟩
  rw [Context.rebase_empty]

theorem Schema.refinerMoves_empty (child : Schema → Evaluator) (s : Schema) :
    s.RefinerMoves "" child := by
  unfold RefinerMoves
  split
  · exact fun _ _ c out _ => Refiner.moves_empty _ c.path out
  · trivial

/-- **A layer over extended children is extended.** -/
theorem Schema.layer_extends {mode : Mode} {resolve resolve' : Resolution}
    {child child' : Schema → Evaluator} {s : Schema}
    (href : ∀ ref, (resolve ref).Extends (resolve' ref))
    (h : ∀ t ∈ s.children, (child t).Extends (child' t)) :
    (s.layer mode resolve child).Extends (s.layer mode resolve' child') := by
  have hjudge : (s.layer mode resolve child).judge.Lifts ""
      (s.layer mode resolve' child').judge := fun _ _ _ _ hv =>
    layer_lifts (fun name _ => Context.joins_empty name) (refinerMoves_empty child s)
      (fun ref => (href ref).judge) (fun t ht => (h t ht).judge) hv
  have hbare := fun t (ht : t ∈ s.bare) => (h t (mem_children_of_bare ht)).test
  have hheld := fun t (ht : t ∈ s.held) => (h t (mem_children_of_held ht)).test
  refine ⟨hjudge, ?_⟩
  cases s with
  | object shape => exact .object fun f hf => hheld f.2 (List.mem_map_of_mem hf)
  | array element bounds => exact .array bounds (hheld element (by simp [held]))
  | tuple items rest limits => exact .tuple limits hheld
  | record key value limits =>
    refine .record limits (fun t ht => ?_) (hheld value (by simp [held]))
    exact hheld t (List.mem_append_left _ (Option.mem_toList.mpr ht))
  | map key value limits =>
    exact .map limits (hheld key (by simp [held])) (hheld value (by simp [held]))
  | set element bounds => exact .set bounds (hheld element (by simp [held]))
  | union options => exact .union hbare
  | tagged discriminator options =>
    exact .tagged discriminator _ fun o ho => hbare (.object o) (List.mem_map_of_mem ho)
  | intersection branches => exact .toTest hjudge
  | lazy ref => exact (href ref).test
  | modified m inner => exact .modifier m (hbare inner (by simp [bare])) hjudge
  | pipe first next => exact .toTest hjudge
  | _ => exact fun _ _ _ _ => id

/-! ## Schemas and families -/

theorem Schema.evaluator_extends {mode : Mode} {resolve resolve' : Resolution}
    (href : ∀ ref, (resolve ref).Extends (resolve' ref)) (s : Schema) :
    (s.evaluator mode resolve).Extends (s.evaluator mode resolve') := by
  induction s using Schema.induction with
  | node s ih =>
    rw [evaluator_eq_layer, evaluator_eq_layer]
    exact layer_extends href ih

/-- **Unfolding definitions more often changes no answer.** -/
theorem Family.resolution_extends_of_le {family : Family} {mode : Mode} {budget budget' : Nat}
    (h : budget ≤ budget') (ref : Reference) :
    (family.resolution mode budget ref).Extends (family.resolution mode budget' ref) := by
  induction budget generalizing budget' ref with
  | zero => exact Evaluator.unresolved_extends _
  | succ budget ih =>
    obtain ⟨more, rfl⟩ : ∃ more, budget' = more + 1 := ⟨budget' - 1, by omega⟩
    unfold resolution
    cases Keyed.find? ref.name family with
    | none => exact Evaluator.unresolved_extends _
    | some definition =>
      exact definition.evaluator_extends fun ref => ih (Nat.le_of_succ_le_succ h) ref

end ValueSchema
