/-
What an accepting judge has found.

A container that accepts was of the right type, within the depth limit, free of keys that are never
allowed and of the right size, all of its parts were accepted, and its output is put together from
their outputs. A tagged union that accepts has selected an option that does, an intersection has
merged the outputs of branches that all do, and what hands an output on was handed one. Each of
these facts is read off the judge once, here; whoever reasons about outputs starts from them.
-/
import ValueSchema.Judgement.Object
import ValueSchema.Judgement.Entry
import ValueSchema.Judgement.Sequence
import ValueSchema.Judgement.Union
import ValueSchema.Judgement.Intersection
import ValueSchema.Judgement.Modified

set_option autoImplicit false

namespace ValueSchema

/-! ## The guard -/

namespace Guard

theorem depth_le_of_checkDepth {depth : Nat} {limits : Limits}
    (h : checkDepth depth limits = .ok ()) : depth ≤ limits.maxDepth := by
  unfold checkDepth at h
  split at h
  · cases h
  · omega

theorem isDangerous_of_checkKeys {keys : List String} (h : checkKeys keys = .ok ()) :
    ∀ key ∈ keys, isDangerous key = false := by
  unfold checkKeys at h
  cases hf : keys.find? isDangerous with
  | some key =>
    rw [hf] at h
    cases h
  | none => exact fun key hkey => Bool.eq_false_iff.mpr (List.find?_eq_none.mp hf key hkey)

/-- An object passes if it passes both checks. -/
theorem checkObject_eq_ok {keys : List String} {depth : Nat} {limits : Limits}
    (h : checkObject keys depth limits = .ok ()) :
    checkDepth depth limits = .ok () ∧ checkKeys keys = .ok () := by
  unfold checkObject at h
  cases hd : checkDepth depth limits with
  | error r =>
    rw [hd] at h
    cases h
  | ok _ =>
    rw [hd] at h
    exact ⟨rfl, h⟩

theorem depth_le_of_checkObject {keys : List String} {depth : Nat} {limits : Limits}
    (h : checkObject keys depth limits = .ok ()) : depth ≤ limits.maxDepth :=
  depth_le_of_checkDepth (checkObject_eq_ok h).1

theorem isDangerous_of_checkObject {keys : List String} {depth : Nat} {limits : Limits}
    (h : checkObject keys depth limits = .ok ()) : ∀ key ∈ keys, isDangerous key = false :=
  isDangerous_of_checkKeys (checkObject_eq_ok h).2

end Guard

theorem guardedFields_eq_ok {limits : Limits} {c : Context} {v : Value}
    {fields : List (String × Value)} (h : guardedFields limits c v = .ok fields) :
    ∃ id, v = .object id fields
      ∧ Guard.checkObject (Keyed.keys fields) c.depth limits = .ok () := by
  -- only an object is looked at by the guard
  cases v with
  | object id input =>
    simp only [guardedFields] at h
    cases hd : Guard.checkObject (Keyed.keys input) c.depth limits with
    | error r =>
      rw [hd] at h
      cases h
    | ok _ =>
      rw [hd] at h
      cases h
      exact ⟨id, rfl, hd⟩
  | _ => cases h

theorem guardedItems_eq_ok {limits : Limits} {c : Context} {v : Value} {items : List Value}
    (h : guardedItems limits c v = .ok items) :
    ∃ id, v = .array id items ∧ c.depth ≤ limits.maxDepth := by
  cases v with
  | array id input =>
    simp only [guardedItems] at h
    cases hd : Guard.checkDepth c.depth limits with
    | error r =>
      rw [hd] at h
      cases h
    | ok _ =>
      rw [hd] at h
      cases h
      exact ⟨id, rfl, Guard.depth_le_of_checkDepth hd⟩
  | _ => cases h

/-! ## Verdicts without issues -/

namespace Verdict

theorem finish_eq_ok {issues : List Issue} {v out : Value} (h : finish issues v = .ok out) :
    issues = [] ∧ v = out := by
  cases issues with
  | nil =>
    cases h
    exact ⟨rfl, rfl⟩
  | cons i rest => cases h

theorem eq_ok_of_issues {v : Verdict} (h : v.issues = []) : ∃ out, v = .ok out := by
  cases v with
  | ok out => exact ⟨out, rfl⟩
  | error e => cases h

theorem allIssues_cons_eq_nil {v : Verdict} {l : List Verdict} (h : allIssues (v :: l) = []) :
    (∃ out, v = .ok out) ∧ allIssues l = [] := by
  simp only [allIssues, List.flatMap_cons, List.append_eq_nil_iff] at h
  exact ⟨eq_ok_of_issues h.1, h.2⟩

end Verdict

/-! ## Leaves -/

variable {s : Site} {v out : Value} {c : Context}

theorem TextSchema.run_eq_ok {t : TextSchema} (h : t.run c v = .ok out) :
    ∃ x, v = .string x ∧ out = .string (t.output x) := by
  cases v with
  | string x =>
    simp only [TextSchema.run] at h
    cases hf : t.firstFailure? x with
    | none =>
      rw [hf] at h
      cases h
      exact ⟨x, rfl, rfl⟩
    | some failure =>
      rw [hf] at h
      cases failure <;> cases h
  | _ => cases h

theorem NumberSchema.run_eq_ok {n : NumberSchema} (h : n.run c v = .ok out) :
    (∃ x, v = .number x) ∧ out = v := by
  cases v with
  | number x =>
    simp only [NumberSchema.run] at h
    by_cases hn : x.isNaN = true
    · rw [if_pos hn] at h
      cases h
    · rw [if_neg hn] at h
      cases hf : n.firstFailure? x with
      | none =>
        rw [hf] at h
        cases h
        exact ⟨⟨x, rfl⟩, rfl⟩
      | some k =>
        rw [hf] at h
        cases h
  | _ => cases h

theorem IntegerSchema.run_eq_ok {n : IntegerSchema} (h : n.run c v = .ok out) :
    (∃ x, v = .bigint x) ∧ out = v := by
  cases v with
  | bigint x =>
    simp only [IntegerSchema.run] at h
    cases hf : n.firstFailure? x with
    | none =>
      rw [hf] at h
      cases h
      exact ⟨⟨x, rfl⟩, rfl⟩
    | some k =>
      rw [hf] at h
      cases h
  | _ => cases h

theorem DateSchema.run_eq_ok {d : DateSchema} (h : d.run c v = .ok out) :
    (∃ t, v = .date t) ∧ out = v := by
  unfold DateSchema.run at h
  cases hf : d.failure? c v with
  | none =>
    rw [hf] at h
    cases h
    refine ⟨?_, rfl⟩
    cases v with
    | date t => exact ⟨t, rfl⟩
    | _ => cases hf
  | some i =>
    rw [hf] at h
    cases h

/-- What passes a check, and is rejected otherwise, is put out as it is. -/
theorem Verdict.checked_eq_ok {passes : Bool} {i : Issue}
    (h : (if passes then .ok v else Verdict.reject i) = (.ok out : Verdict)) :
    passes = true ∧ out = v := by
  cases passes with
  | true =>
    cases h
    exact ⟨rfl, rfl⟩
  | false => cases h

/-! ## Containers -/

theorem Shape.judge_eq_ok {shape : Shape Judge} (h : shape.judge s v c = some (.ok out)) :
    ∃ id input l, v = .object id input
      ∧ Guard.checkObject (Keyed.keys input) c.depth shape.limits = .ok ()
      ∧ judgeFields s c input 0 shape.fields = some l
      ∧ Verdict.allIssues (l.map Prod.snd) = []
      ∧ shape.unknown.issues shape.limits c (undeclared shape.keys input) = []
      ∧ out = .object s.ident
        (fieldOutputs l ++ shape.unknown.kept (undeclared shape.keys input)) := by
  simp only [Shape.judge] at h
  cases hin : guardedFields shape.limits c v with
  | error i =>
    rw [hin] at h
    cases h
  | ok input =>
    rw [hin] at h
    obtain ⟨id, rfl, hguard⟩ := guardedFields_eq_ok hin
    obtain ⟨l, hl, h⟩ := Option.bind_eq_some_iff.mp h
    -- no issue at all means none of a field and none of an unknown key
    obtain ⟨hnone, rfl⟩ := Verdict.finish_eq_ok (Option.some.inj h)
    obtain ⟨hfields, hunknown⟩ := List.append_eq_nil_iff.mp hnone
    exact ⟨id, input, l, rfl, hguard, hl, hfields, hunknown, rfl⟩

theorem Shape.judgeFields_accepted {input : List (String × Value)}
    {fields : List (String × Judge)} : ∀ {n : Nat} {l : List (String × Verdict)},
    judgeFields s c input n fields = some l → Verdict.allIssues (l.map Prod.snd) = [] →
    ∀ f ∈ fields, ∃ i z, f.2 (s.child i) (fieldOr f.1 input) (c.childKey f.1) = some (.ok z) := by
  induction fields with
  | nil => exact fun _ _ f hf => absurd hf List.not_mem_nil
  | cons g rest ih =>
    intro n l hl hnone f hf
    obtain ⟨verdict, hv, hl⟩ := Option.bind_eq_some_iff.mp hl
    obtain ⟨others, ho, hl⟩ := Option.bind_eq_some_iff.mp hl
    cases hl
    obtain ⟨⟨z, rfl⟩, hothers⟩ := Verdict.allIssues_cons_eq_nil hnone
    rcases List.mem_cons.mp hf with rfl | hf
    · exact ⟨n, z, hv⟩
    · exact ih ho hothers f hf

/-- An object that is accepted has every declared field accepted, a missing one as undefined. -/
theorem Shape.field_accepted {shape : Shape Judge} (h : shape.judge s v c = some (.ok out))
    {f : String × Judge} (hf : f ∈ shape.fields) :
    ∃ i z, f.2 (s.child i) ((v.get? f.1).getD .undefined) (c.childKey f.1) = some (.ok z) := by
  obtain ⟨id, input, l, rfl, _, hl, hnone, _⟩ := Shape.judge_eq_ok h
  exact judgeFields_accepted hl hnone f hf

theorem Record.judge_eq_ok {key : Option Judge} {value : Judge} {limits : Limits}
    (h : Record.judge key value limits s v c = some (.ok out)) :
    ∃ id input l, v = .object id input
      ∧ Guard.checkObject (Keyed.keys input) c.depth limits = .ok ()
      ∧ judgeEntries key value s c 0 input = some l
      ∧ l.flatMap Entry.issues = []
      ∧ out = Value.ofEntries s.ident (l.filterMap Entry.output?) := by
  simp only [Record.judge] at h
  cases hin : guardedFields limits c v with
  | error i =>
    rw [hin] at h
    cases h
  | ok input =>
    rw [hin] at h
    obtain ⟨id, rfl, hguard⟩ := guardedFields_eq_ok hin
    obtain ⟨l, hl, h⟩ := Option.bind_eq_some_iff.mp h
    obtain ⟨hnone, rfl⟩ := Verdict.finish_eq_ok (Option.some.inj h)
    exact ⟨id, input, l, rfl, hguard, hl, hnone, rfl⟩

/-- The elements of a sequence were all accepted, and the output is built from theirs. -/
theorem elements_eq_ok {judgeAt : Nat → Judge} {items : List Value} {build : List Value → Value}
    (h : (do
      let verdicts ← judgeAll judgeAt s c items
      some (Verdict.finish (Verdict.allIssues verdicts) (build (Verdict.outputs verdicts))))
        = some (.ok out)) :
    ∃ l, judgeAll judgeAt s c items = some l ∧ Verdict.allIssues l = []
      ∧ out = build (Verdict.outputs l) := by
  obtain ⟨l, hl, h⟩ := Option.bind_eq_some_iff.mp h
  obtain ⟨hnone, rfl⟩ := Verdict.finish_eq_ok (Option.some.inj h)
  exact ⟨l, hl, hnone, rfl⟩

theorem ArrayBounds.judge_eq_ok {b : ArrayBounds} {element : Judge}
    (h : b.judge element s v c = some (.ok out)) :
    ∃ id items l, v = .array id items ∧ c.depth ≤ b.limits.maxDepth
      ∧ judgeAll (fun _ => element) s c items = some l ∧ Verdict.allIssues l = []
      ∧ out = .array s.ident (Verdict.outputs l) := by
  simp only [ArrayBounds.judge] at h
  cases hin : guardedItems b.limits c v with
  | error i =>
    rw [hin] at h
    cases h
  | ok items =>
    simp only [hin] at h
    obtain ⟨id, rfl, hdepth⟩ := guardedItems_eq_ok hin
    cases hf : b.fault? items with
    | some fault =>
      rw [hf] at h
      cases h
    | none =>
      rw [hf] at h
      obtain ⟨l, hl, hnone, rfl⟩ := elements_eq_ok h
      exact ⟨id, items, l, rfl, hdepth, hl, hnone, rfl⟩

namespace Tuple

variable {σ τ : Type}

theorem childAt_map (f : σ → τ) (items : List σ) (rest : Option σ) (n : Nat) :
    childAt (items.map f) (rest.map f) n = (childAt items rest n).map f := by
  simp only [childAt, List.getElem?_map]
  cases items[n]? <;> rfl

theorem mem_of_childAt {items : List σ} {rest : Option σ} {n : Nat} {x : σ}
    (h : childAt items rest n = some x) : x ∈ items ++ rest.toList := by
  unfold childAt at h
  cases hn : items[n]? with
  | some y =>
    rw [hn] at h
    cases h
    exact List.mem_append_left _ (List.mem_of_getElem? hn)
  | none =>
    rw [hn] at h
    have hrest : rest = some x := h
    rw [hrest]
    exact List.mem_append_right _ List.mem_cons_self

/-- A tuple of the right size has a child in charge of each of its elements. -/
theorem exists_childAt {items : List σ} {rest : Option σ} {size n : Nat}
    (h : fault? items.length rest.isSome size = none) (hn : n < size) :
    ∃ x, childAt items rest n = some x := by
  unfold childAt
  cases hitem : items[n]? with
  | some x => exact ⟨x, rfl⟩
  | none =>
    cases rest with
    | some x => exact ⟨x, rfl⟩
    | none =>
      -- without a rest a tuple of the right size ends with its last place
      have hlen : items.length ≤ n := List.getElem?_eq_none_iff.mp hitem
      have hmore : items.length < size := by omega
      unfold fault? at h
      rw [if_neg (by omega), if_pos (by simp [hmore])] at h
      cases h

end Tuple

/-- The judge that a tuple has for a position. -/
def Tuple.judgeAt (items : List Judge) (rest : Option Judge) (n : Nat) : Judge :=
  match childAt items rest n with
  | some judge => judge
  | none => fun _ v _ => some (.ok v)

theorem Tuple.judge_eq_ok {items : List Judge} {rest : Option Judge} {limits : Limits}
    (h : Tuple.judge items rest limits s v c = some (.ok out)) :
    ∃ id elements l, v = .array id elements ∧ c.depth ≤ limits.maxDepth
      ∧ fault? items.length rest.isSome elements.length = none
      ∧ judgeAll (judgeAt items rest) s c elements = some l ∧ Verdict.allIssues l = []
      ∧ out = .array s.ident (Verdict.outputs l) := by
  simp only [Tuple.judge] at h
  cases hin : guardedItems limits c v with
  | error i =>
    rw [hin] at h
    cases h
  | ok elements =>
    simp only [hin] at h
    obtain ⟨id, rfl, hdepth⟩ := guardedItems_eq_ok hin
    cases hf : fault? items.length rest.isSome elements.length with
    | some fault =>
      rw [hf] at h
      cases h
    | none =>
      rw [hf] at h
      obtain ⟨l, hl, hnone, rfl⟩ := elements_eq_ok h
      exact ⟨id, elements, l, rfl, hdepth, hf, hl, hnone, rfl⟩

theorem SetBounds.judge_eq_ok {b : SetBounds} {element : Judge}
    (h : b.judge element s v c = some (.ok out)) :
    ∃ id items l, v = .set id items ∧ c.depth ≤ b.limits.maxDepth
      ∧ judgeAll (fun _ => element) s c items = some l ∧ Verdict.allIssues l = []
      ∧ out = Value.ofElements s.ident (Verdict.outputs l) := by
  cases v with
  | set id items =>
    simp only [SetBounds.judge] at h
    cases hd : Guard.checkDepth c.depth b.limits with
    | error r =>
      rw [hd] at h
      cases h
    | ok _ =>
      simp only [hd] at h
      cases hf : b.fault? c items.length with
      | some i =>
        rw [hf] at h
        cases h
      | none =>
        rw [hf] at h
        obtain ⟨l, hl, hnone, rfl⟩ := elements_eq_ok h
        exact ⟨id, items, l, rfl, Guard.depth_le_of_checkDepth hd, hl, hnone, rfl⟩
  | _ => cases h

theorem Dictionary.judge_eq_ok {key value : Judge} {limits : Limits}
    (h : Dictionary.judge key value limits s v c = some (.ok out)) :
    ∃ id entries l, v = .map id entries ∧ c.depth ≤ limits.maxDepth
      ∧ judgeEntries key value s c 0 entries = some l
      ∧ (l.flatMap fun e => e.1.issues ++ e.2.issues) = []
      ∧ out = .map s.ident (l.filterMap output?) := by
  cases v with
  | map id entries =>
    simp only [Dictionary.judge] at h
    cases hd : Guard.checkDepth c.depth limits with
    | error r =>
      rw [hd] at h
      cases h
    | ok _ =>
      rw [hd] at h
      obtain ⟨l, hl, h⟩ := Option.bind_eq_some_iff.mp h
      obtain ⟨hnone, rfl⟩ := Verdict.finish_eq_ok (Option.some.inj h)
      exact ⟨id, entries, l, rfl, Guard.depth_le_of_checkDepth hd, hl, hnone, rfl⟩
  | _ => cases h

/-! ## Choices and chains -/

theorem Tagged.judge_eq_ok {discriminator : String} {literals : List (Option Value)}
    {options : List Judge}
    (h : Tagged.judge discriminator literals options s v c = some (.ok out)) :
    ∃ id fields n judge, v = .object id fields ∧ select? discriminator literals fields = some n
      ∧ options[n]? = some judge ∧ judge (s.child n) v c = some (.ok out) := by
  cases v with
  | object id fields =>
    simp only [Tagged.judge] at h
    cases hsel : select? discriminator literals fields with
    | none =>
      rw [hsel] at h
      cases h
    | some n =>
      rw [hsel, Option.bind_some] at h
      cases hn : options[n]? with
      | none =>
        rw [hn] at h
        cases h
      | some judge =>
        rw [hn] at h
        exact ⟨id, fields, n, judge, rfl, hsel, hn, h⟩
  | _ => cases h

theorem Intersection.judge_eq_ok {branches : List Judge}
    (h : Intersection.judge branches s v c = some (.ok out)) :
    ∃ l, judgeBranches s v c 0 branches = some l ∧ Verdict.allIssues l = []
      ∧ mergeAll (s.child l.length) (Verdict.outputs l) = some out := by
  obtain ⟨l, hl, h⟩ := Option.map_eq_some_iff.mp h
  unfold combine at h
  -- branches that raised an issue are not merged
  cases hi : Verdict.allIssues l with
  | cons i rest =>
    rw [hi] at h
    cases h
  | nil =>
    rw [hi] at h
    dsimp only [Issues.ofList?] at h
    cases hm : mergeAll (s.child l.length) (Verdict.outputs l) with
    | none =>
      rw [hm] at h
      cases h
    | some merged =>
      rw [hm] at h
      cases h
      exact ⟨l, hl, hi, hm⟩

theorem Verdict.andThen_eq_ok {verdict : Verdict} {next : Value → Option Verdict}
    (h : verdict.andThen next = some (.ok out)) :
    ∃ w, verdict = .ok w ∧ next w = some (.ok out) := by
  cases verdict with
  | ok w => exact ⟨w, rfl, h⟩
  | error e => cases h

theorem Verdict.ofCheck_eq_ok {answer : Except Crash Bool} {message : String}
    (h : Verdict.ofCheck answer message c v = .ok out) : out = v := by
  cases answer with
  | error crash => cases h
  | ok passed =>
    cases passed with
    | true =>
      cases h
      rfl
    | false => cases h

theorem Verdict.ofRefiner_eq_ok {refiner : Refiner}
    (h : Verdict.ofRefiner refiner c v = .ok out) : out = v := by
  unfold Verdict.ofRefiner at h
  dsimp only at h
  -- a report rejects, so there was none
  split at h
  · cases h
  · exact Verdict.ofCheck_eq_ok h

theorem Judge.pipe_eq_ok {first next : Judge} (h : first.pipe next s v c = some (.ok out)) :
    ∃ w, first (s.child 0) v c = some (.ok w) ∧ next (s.child 1) w c = some (.ok out) := by
  obtain ⟨verdict, hv, h⟩ := Option.bind_eq_some_iff.mp h
  obtain ⟨w, rfl, hw⟩ := Verdict.andThen_eq_ok h
  exact ⟨w, hv, hw⟩

/-- What passes a check is put out as it is. -/
theorem Judge.checkOutput_eq_ok {check : Context → Value → Verdict} {inner : Judge}
    (hcheck : ∀ w, check c w = .ok out → out = w)
    (h : inner.checkOutput check s v c = some (.ok out)) : inner s v c = some (.ok out) := by
  obtain ⟨verdict, hv, h⟩ := Option.bind_eq_some_iff.mp h
  obtain ⟨w, rfl, hw⟩ := Verdict.andThen_eq_ok h
  rw [hcheck w (Option.some.inj hw)]
  exact hv

/-! ## Verdicts on parts

Whatever a container collects is the verdict of one of its children on some part, one level below
the container. -/

/-- A verdict of a judge on a value that stands one level below a context. -/
def Judge.JudgesBelow (j : Judge) (c : Context) (verdict : Verdict) : Prop :=
  ∃ s v c', c'.depth = c.depth + 1 ∧ j s v c' = some verdict

theorem Shape.judgeFields_below {input : List (String × Value)} {fields : List (String × Judge)} :
    ∀ {n : Nat} {l : List (String × Verdict)}, judgeFields s c input n fields = some l →
    ∀ e ∈ l, ∃ f ∈ fields, f.1 = e.1 ∧ f.2.JudgesBelow c e.2 := by
  induction fields with
  | nil =>
    intro n l hl e he
    cases hl
    exact absurd he List.not_mem_nil
  | cons f rest ih =>
    intro n l hl e he
    obtain ⟨verdict, hv, hl⟩ := Option.bind_eq_some_iff.mp hl
    obtain ⟨others, ho, hl⟩ := Option.bind_eq_some_iff.mp hl
    cases hl
    -- the verdict is that on the first field, or one of the rest
    rcases List.mem_cons.mp he with rfl | he
    · exact ⟨f, List.mem_cons_self, rfl, s.child n, fieldOr f.1 input, c.childKey f.1, rfl, hv⟩
    · obtain ⟨g, hg, hkey, hbelow⟩ := ih ho e he
      exact ⟨g, List.mem_cons_of_mem _ hg, hkey, hbelow⟩

theorem judgeFrom_below {judgeAt : Nat → Judge} {items : List Value} :
    ∀ {n : Nat} {l : List Verdict}, judgeFrom judgeAt s c n items = some l →
    ∀ verdict ∈ l, ∃ m < n + items.length, (judgeAt m).JudgesBelow c verdict := by
  induction items with
  | nil =>
    intro n l hl verdict hmem
    cases hl
    exact absurd hmem List.not_mem_nil
  | cons x rest ih =>
    intro n l hl verdict hmem
    obtain ⟨first, hv, hl⟩ := Option.bind_eq_some_iff.mp hl
    obtain ⟨others, ho, hl⟩ := Option.bind_eq_some_iff.mp hl
    cases hl
    rw [List.length_cons]
    rcases List.mem_cons.mp hmem with rfl | hmem
    · exact ⟨n, by omega, s.child n, x, c.childIndex n, rfl, hv⟩
    · obtain ⟨m, hm, hbelow⟩ := ih ho verdict hmem
      exact ⟨m, by omega, hbelow⟩

theorem Record.judgeEntries_below {key : Option Judge} {value : Judge}
    {input : List (String × Value)} : ∀ {n : Nat} {l : List Entry},
    judgeEntries key value s c n input = some l →
    ∀ e ∈ l, e.key ∈ Keyed.keys input
      ∧ (∃ s', judgeKey key s' e.key (c.childKey e.key) = some e.keyVerdict)
      ∧ value.JudgesBelow c e.valueVerdict := by
  induction input with
  | nil =>
    intro n l hl e he
    cases hl
    exact absurd he List.not_mem_nil
  | cons f rest ih =>
    obtain ⟨name, x⟩ := f
    intro n l hl e he
    obtain ⟨verdict, hk, hl⟩ := Option.bind_eq_some_iff.mp hl
    obtain ⟨verdict', hv, hl⟩ := Option.bind_eq_some_iff.mp hl
    obtain ⟨others, ho, hl⟩ := Option.bind_eq_some_iff.mp hl
    cases hl
    rcases List.mem_cons.mp he with rfl | he
    · exact ⟨List.mem_cons_self, ⟨_, hk⟩, _, x, c.childKey name, rfl, hv⟩
    · obtain ⟨hname, hkey, hbelow⟩ := ih ho e he
      exact ⟨List.mem_cons_of_mem _ hname, hkey, hbelow⟩

theorem Dictionary.judgeEntries_below {key value : Judge} {entries : List (Value × Value)} :
    ∀ {n : Nat} {l : List (Verdict × Verdict)},
    judgeEntries key value s c n entries = some l →
    ∀ e ∈ l, key.JudgesBelow c e.1 ∧ value.JudgesBelow c e.2 := by
  induction entries with
  | nil =>
    intro n l hl e he
    cases hl
    exact absurd he List.not_mem_nil
  | cons f rest ih =>
    obtain ⟨k, x⟩ := f
    intro n l hl e he
    obtain ⟨verdict, hk, hl⟩ := Option.bind_eq_some_iff.mp hl
    obtain ⟨verdict', hv, hl⟩ := Option.bind_eq_some_iff.mp hl
    obtain ⟨others, ho, hl⟩ := Option.bind_eq_some_iff.mp hl
    cases hl
    rcases List.mem_cons.mp he with rfl | he
    · exact ⟨⟨_, k, _, rfl, hk⟩, _, x, _, rfl, hv⟩
    · exact ih ho e he

/-! ## Verdicts behind outputs -/

theorem Verdict.mem_outputs {l : List Verdict} (h : v ∈ outputs l) : (.ok v : Verdict) ∈ l := by
  obtain ⟨verdict, hmem, hv⟩ := List.mem_filterMap.mp h
  cases verdict with
  | ok w =>
    cases hv
    exact hmem
  | error e => cases hv

theorem Shape.mem_fieldOutputs {l : List (String × Verdict)} {f : String × Value}
    (h : f ∈ fieldOutputs l) : (f.1, (.ok f.2 : Verdict)) ∈ l := by
  obtain ⟨⟨key, verdict⟩, hmem, hf⟩ := List.mem_filterMap.mp h
  dsimp only at hf
  split at hf
  · cases hf
  · cases hf
    exact hmem
  · cases hf

theorem Record.Entry.output?_eq_some {e : Entry} {f : String × Value} (h : e.output? = some f) :
    ∃ k, e.keyVerdict = .ok k ∧ f.1 = outputKey e.key k ∧ e.valueVerdict = .ok f.2 := by
  unfold output? at h
  split at h
  · cases h
  · rename_i hkey hvalue
    cases h
    exact ⟨_, hkey, rfl, hvalue⟩
  · cases h

theorem Dictionary.output?_eq_some {e : Verdict × Verdict} {f : Value × Value}
    (h : output? e = some f) : e = (.ok f.1, .ok f.2) := by
  unfold output? at h
  split at h
  · cases h
    rfl
  · cases h

/-! ## Verdicts on the value itself -/

theorem Union.firstOutput?_mem {options : List Judge} : ∀ {n : Nat},
    firstOutput? s v c n options = some (some out) →
    ∃ judge ∈ options, ∃ m, judge (s.child m) v c = some (.ok out) := by
  induction options with
  | nil =>
    intro n h
    cases h
  | cons judge rest ih =>
    intro n h
    obtain ⟨verdict, hv, h⟩ := Option.bind_eq_some_iff.mp h
    cases verdict with
    | ok w =>
      cases h
      exact ⟨judge, List.mem_cons_self, n, hv⟩
    | error e =>
      obtain ⟨other, hmem, m, hm⟩ := ih h
      exact ⟨other, List.mem_cons_of_mem _ hmem, m, hm⟩

theorem Intersection.judgeBranches_mem {branches : List Judge} :
    ∀ {n : Nat} {l : List Verdict}, judgeBranches s v c n branches = some l →
    ∀ verdict ∈ l, ∃ judge ∈ branches, ∃ m, judge (s.child m) v c = some verdict := by
  induction branches with
  | nil =>
    intro n l hl verdict hmem
    cases hl
    exact absurd hmem List.not_mem_nil
  | cons judge rest ih =>
    intro n l hl verdict hmem
    obtain ⟨first, hv, hl⟩ := Option.bind_eq_some_iff.mp hl
    obtain ⟨others, ho, hl⟩ := Option.bind_eq_some_iff.mp hl
    cases hl
    rcases List.mem_cons.mp hmem with rfl | hmem
    · exact ⟨judge, List.mem_cons_self, n, hv⟩
    · obtain ⟨other, hmem, m, hm⟩ := ih ho verdict hmem
      exact ⟨other, List.mem_cons_of_mem _ hmem, m, hm⟩

end ValueSchema
