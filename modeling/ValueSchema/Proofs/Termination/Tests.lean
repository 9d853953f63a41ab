/-
Testing a layer comes to an answer.

A test asks its children one after the other and stops at the first one that decides, so a node
whose children all answer answers, too, and a container asks its children only within its own depth
limit. Nodes without a test of their own judge at the root, where their judge has to answer.
-/
import ValueSchema.Proofs.Termination.Layer

set_option autoImplicit false

namespace ValueSchema

/-- The test answers for every value at a depth. -/
def Test.Answers (t : Test) (depth : Nat) : Prop :=
  ∀ (s : Site) (v : Value), ∃ passed, t s v depth = some passed

theorem Guard.eq_ok_of_isOk {check : Except Refusal Unit} (h : check.isOk = true) :
    check = .ok () := by
  cases check with
  | ok _ => rfl
  | error _ => cases h

theorem guardedFields?_eq_some {limits : Limits} {depth : Nat} {v : Value}
    {fields : List (String × Value)} (h : guardedFields? limits depth v = some fields) :
    (∃ id, v = .object id fields) ∧ depth ≤ limits.maxDepth := by
  cases v with
  | object id input =>
    simp only [guardedFields?] at h
    split at h
    · cases h
      exact ⟨⟨id, rfl⟩, Guard.depth_le_of_checkObject (Guard.eq_ok_of_isOk ‹_›)⟩
    · cases h
  | _ => cases h

theorem guardedItems?_eq_some {limits : Limits} {depth : Nat} {v : Value}
    {items : List Value} (h : guardedItems? limits depth v = some items) :
    (∃ id, v = .array id items) ∧ depth ≤ limits.maxDepth := by
  cases v with
  | array id input =>
    simp only [guardedItems?] at h
    split at h
    · cases h
      exact ⟨⟨id, rfl⟩, Guard.depth_le_of_checkDepth (Guard.eq_ok_of_isOk ‹_›)⟩
    · cases h
  | _ => cases h

namespace Test

/-! ## One test after the other -/

theorem both_answers {first : Option Bool} {second : Unit → Option Bool}
    (h : ∃ passed, first = some passed) (h' : ∃ passed, second () = some passed) :
    ∃ passed, both first second = some passed := by
  obtain ⟨passed, rfl⟩ := h
  -- the second one is asked only if the first one passed
  cases passed with
  | true => exact h'
  | false => exact ⟨false, rfl⟩

theorem both_eq_true {first : Option Bool} {second : Unit → Option Bool}
    (h : both first second = some true) : first = some true ∧ second () = some true := by
  cases first with
  | none => cases h
  | some b =>
    cases b with
    | true => exact ⟨rfl, h⟩
    | false => cases h

namespace Answers

variable {σ : Type} {t : σ → Test} {s : Site} {depth : Nat}

/-! ## Answers of containers -/

theorem testFields {input : List (String × Value)} {fields : List (String × σ)}
    (h : ∀ f ∈ fields, (t f.2).Answers (depth + 1)) : ∀ n : Nat,
    ∃ passed, Shape.testFields s depth input n (Keyed.mapValues t fields) = some passed := by
  induction fields with
  | nil => exact fun _ => ⟨true, rfl⟩
  | cons f rest ih =>
    intro n
    rw [List.forall_mem_cons] at h
    exact both_answers (h.1 _ _) (ih h.2 (n + 1))

theorem object {shape : Shape σ}
    (h : depth ≤ shape.limits.maxDepth → ∀ f ∈ shape.fields, (t f.2).Answers (depth + 1)) :
    (shape.map t).test.Answers depth := by
  intro s v
  simp only [Shape.test, Shape.map]
  cases hin : guardedFields? shape.limits depth v with
  | none => exact ⟨false, rfl⟩
  | some input => exact both_answers (testFields (h (guardedFields?_eq_some hin).2) 0) ⟨_, rfl⟩

theorem testFrom {testAt : Nat → Test} (h : ∀ n, (testAt n).Answers (depth + 1))
    (items : List Value) : ∀ n : Nat, ∃ passed, testFrom testAt s depth n items = some passed := by
  induction items with
  | nil => exact fun _ => ⟨true, rfl⟩
  | cons x rest ih => exact fun n => both_answers (h n _ _) (ih (n + 1))

theorem array (b : ArrayBounds) {k : Test}
    (h : depth ≤ b.limits.maxDepth → k.Answers (depth + 1)) : (b.test k).Answers depth := by
  intro s v
  simp only [ArrayBounds.test]
  cases hin : guardedItems? b.limits depth v with
  | none => exact ⟨false, rfl⟩
  | some items =>
    dsimp only
    split
    · exact testFrom (fun _ => h (guardedItems?_eq_some hin).2) items 0
    · exact ⟨false, rfl⟩

theorem tuple {items : List σ} {rest : Option σ} (limits : Limits)
    (h : depth ≤ limits.maxDepth → ∀ x ∈ items ++ rest.toList, (t x).Answers (depth + 1)) :
    Test.Answers (Tuple.test (items.map t) (rest.map t) limits) depth := by
  intro s v
  simp only [Tuple.test, Tuple.childAt_map]
  cases hin : guardedItems? limits depth v with
  | none => exact ⟨false, rfl⟩
  | some elements =>
    dsimp only
    split
    · refine testFrom (fun n => ?_) elements 0
      -- a position without a child refuses what stands there
      cases hn : Tuple.childAt items rest n with
      | none => exact fun _ _ => ⟨false, rfl⟩
      | some x => exact h (guardedItems?_eq_some hin).2 x (Tuple.mem_of_childAt hn)
    · exact ⟨false, rfl⟩

theorem set (b : SetBounds) {k : Test}
    (h : depth ≤ b.limits.maxDepth → k.Answers (depth + 1)) : (b.test k).Answers depth := by
  intro s v
  cases v with
  | set id items =>
    simp only [SetBounds.test]
    split
    · rename_i hok
      rw [Bool.and_eq_true] at hok
      have hdepth := Guard.depth_le_of_checkDepth (Guard.eq_ok_of_isOk hok.1)
      exact testFrom (fun _ => h hdepth) items 0
    · exact ⟨false, rfl⟩
  | _ => exact ⟨false, rfl⟩

theorem testEntries {key : Option σ} {k : Test} (h : ∀ x ∈ key, (t x).Answers (depth + 1))
    (hk : k.Answers (depth + 1)) (input : List (String × Value)) : ∀ n : Nat,
    ∃ passed, Record.testEntries (key.map t) k s depth n input = some passed := by
  induction input with
  | nil => exact fun _ => ⟨true, rfl⟩
  | cons f rest ih =>
    intro n
    refine both_answers ?_ (both_answers (hk _ _) (ih (n + 1)))
    cases key with
    | none => exact ⟨true, rfl⟩
    | some x => exact h x rfl _ _

theorem record {key : Option σ} {k : Test} (limits : Limits)
    (h : depth ≤ limits.maxDepth → ∀ x ∈ key, (t x).Answers (depth + 1))
    (hk : depth ≤ limits.maxDepth → k.Answers (depth + 1)) :
    Test.Answers (Record.test (key.map t) k limits) depth := by
  intro s v
  simp only [Record.test]
  cases hin : guardedFields? limits depth v with
  | none => exact ⟨false, rfl⟩
  | some input =>
    have hdepth := (guardedFields?_eq_some hin).2
    exact testEntries (h hdepth) (hk hdepth) input 0

theorem testPairs {k k' : Test} (h : k.Answers (depth + 1)) (h' : k'.Answers (depth + 1))
    (entries : List (Value × Value)) : ∀ n : Nat,
    ∃ passed, Dictionary.testEntries k k' s depth n entries = some passed := by
  induction entries with
  | nil => exact fun _ => ⟨true, rfl⟩
  | cons e rest ih => exact fun n => both_answers (h _ _) (both_answers (h' _ _) (ih (n + 1)))

theorem map {k k' : Test} (limits : Limits) (h : depth ≤ limits.maxDepth → k.Answers (depth + 1))
    (h' : depth ≤ limits.maxDepth → k'.Answers (depth + 1)) :
    Test.Answers (Dictionary.test k k' limits) depth := by
  intro s v
  cases v with
  | map id entries =>
    simp only [Dictionary.test]
    split
    · have hdepth := Guard.depth_le_of_checkDepth (Guard.eq_ok_of_isOk ‹_›)
      exact testPairs (h hdepth) (h' hdepth) entries 0
    · exact ⟨false, rfl⟩
  | _ => exact ⟨false, rfl⟩

/-! ## Answers of choices and modifiers -/

theorem firstPassing? {options : List σ} (h : ∀ x ∈ options, (t x).Answers depth) {v : Value} :
    ∀ n : Nat, ∃ found, Union.firstPassing? s v depth n (options.map t) = some found := by
  induction options with
  | nil => exact fun _ => ⟨none, rfl⟩
  | cons x rest ih =>
    intro n
    rw [List.forall_mem_cons] at h
    obtain ⟨passed, hp⟩ := h.1 (s.child n) v
    simp only [List.map_cons, Union.firstPassing?]
    rw [hp]
    cases passed with
    | true => exact ⟨some n, rfl⟩
    | false => exact ih h.2 (n + 1)

theorem union {options : List σ} (h : ∀ x ∈ options, (t x).Answers depth) :
    Test.Answers (Union.test (options.map t)) depth := by
  intro s v
  obtain ⟨found, hf⟩ := firstPassing? (s := s) (v := v) h 0
  exact ⟨found.isSome, congrArg (Option.map Option.isSome) hf⟩

theorem tagged (discriminator : String) (literals : List (Option Value)) {options : List σ}
    (h : ∀ x ∈ options, (t x).Answers depth) :
    Test.Answers (Tagged.test discriminator literals (options.map t)) depth := by
  intro s v
  cases v with
  | object id fields =>
    simp only [Tagged.test, List.getElem?_map]
    cases Tagged.select? discriminator literals fields with
    | none => exact ⟨false, rfl⟩
    | some n =>
      rw [Option.bind_some]
      cases hn : options[n]? with
      | none => exact ⟨false, rfl⟩
      | some x => exact h x (List.mem_of_getElem? hn) _ _
  | _ => exact ⟨false, rfl⟩

/-- Judging to test answers where the judge does. -/
theorem toTest {j : Judge} (h : j.Answers depth) : j.toTest.Answers depth := by
  intro s v
  obtain ⟨verdict, hv⟩ := h s v (Context.withDepth depth) rfl
  exact ⟨verdict.isOk, congrArg (Option.map Except.isOk) hv⟩

theorem passing (passes : Value → Bool) {k : Test} (h : k.Answers depth) :
    Test.Answers (fun s v depth => if passes v then some true else k s v depth) depth := by
  intro s v
  by_cases hp : passes v = true
  · exact ⟨true, if_pos hp⟩
  · obtain ⟨passed, hk⟩ := h s v
    exact ⟨passed, (if_neg hp).trans hk⟩

theorem modifier (m : Modifier) {k : Test} {full : Judge} (h : k.Answers depth)
    (hfull : full.Answers depth) : (m.test k full).Answers depth := by
  cases m with
  | optional => exact passing Value.isUndefined h
  | nullable => exact passing Value.isNull h
  | nullish => exact passing (fun v => v.isUndefined || v.isNull) h
  | default standard => exact fun s _ => h s _
  | fallback replacement => exact fun _ _ => ⟨true, rfl⟩
  | refine _ _ | superRefine _ | transform _ | preprocess _ => exact toTest hfull
  | _ => exact h

end Answers

end Test

/-! ## Layers -/

/-- An evaluator judges and tests every value at a depth. -/
structure Evaluator.Answers (e : Evaluator) (depth : Nat) : Prop where
  judge : e.judge.Answers depth
  test : e.test.Answers depth

/-- **A layer over evaluators that answer answers**, and those below a container are asked only
within its limit. -/
theorem Schema.layer_evaluator_answers {mode : Mode} {resolve : Resolution}
    {child : Schema → Evaluator} {s : Schema} {depth : Nat}
    (href : ∀ ref, s = .lazy ref → (resolve ref).Answers depth)
    (hbare : ∀ t ∈ s.bare, (child t).Answers depth)
    (hheld : (∀ m ∈ s.ownLimit?, depth ≤ m) → ∀ t ∈ s.held, (child t).Answers (depth + 1)) :
    (s.layer mode resolve child).Answers depth := by
  have hjudge : (s.layer mode resolve child).judge.Answers depth :=
    layer_answers (fun ref hr => (href ref hr).judge) (fun t ht => (hbare t ht).judge)
      fun hd t ht => (hheld hd t ht).judge
  have hin := fun t ht => (hbare t ht).test
  have hbelow := fun hd t ht => (hheld hd t ht).test
  refine ⟨hjudge, ?_⟩
  cases s with
  | object shape =>
    exact .object fun hd f hf =>
      hbelow (by simpa [ownLimit?] using hd) f.2 (List.mem_map_of_mem hf)
  | array element bounds =>
    exact .array bounds fun hd => hbelow (by simpa [ownLimit?] using hd) element (by simp [held])
  | tuple items rest limits =>
    exact .tuple limits fun hd => hbelow (by simpa [ownLimit?] using hd)
  | record key value limits =>
    refine .record limits (fun hd x hx => ?_) fun hd => ?_
    · exact hbelow (by simpa [ownLimit?] using hd) x (by simp [held, Option.mem_def.mp hx])
    · exact hbelow (by simpa [ownLimit?] using hd) value (by simp [held])
  | map key value limits =>
    refine .map limits (fun hd => ?_) fun hd => ?_
    · exact hbelow (by simpa [ownLimit?] using hd) key (by simp [held])
    · exact hbelow (by simpa [ownLimit?] using hd) value (by simp [held])
  | set element bounds =>
    exact .set bounds fun hd => hbelow (by simpa [ownLimit?] using hd) element (by simp [held])
  | union options => exact .union hin
  | tagged discriminator options =>
    exact .tagged discriminator _ fun o ho => hin (.object o) (List.mem_map_of_mem ho)
  -- what has no test of its own judges to test
  | intersection branches => exact .toTest hjudge
  | lazy ref => exact (href ref rfl).test
  | modified m inner => exact .modifier m (hin inner (by simp [bare])) hjudge
  | pipe first next => exact .toTest hjudge
  | _ => exact fun _ _ => ⟨_, rfl⟩

end ValueSchema
