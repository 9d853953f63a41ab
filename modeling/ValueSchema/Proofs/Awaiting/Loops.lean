/-
Waiting comes to the same as judging at once.

A judge that waits asks for the parts in the order in which they stand and gathers outputs and
issues as the answers come. A judge that does not wait has the list of all verdicts first and reads
outputs and issues off it. The invariant of every waiting loop says how far the two have come: what
is gathered behind any start is that start followed by what the verdicts from there on hold. At the
empty start this is what the other judge reads off, so the containers are equal as functions of
their children, and only deferred code itself is left to be told apart.
-/
import ValueSchema.Judgement.Awaited
import ValueSchema.Proofs.Acceptance

set_option autoImplicit false

namespace ValueSchema

/-! ## Reading lists of verdicts from the front -/

/-- A map over a list that is read behind its first element. -/
theorem map_eq_map_bind_cons {α β : Type} {x : Option (List α)} {a : α} {f g : List α → β}
    (h : ∀ l, f l = g (a :: l)) :
    x.map f = (x.bind fun l => some (a :: l)).map g := by
  rcases x with _ | l
  · rfl
  · exact congrArg some (h l)

theorem Verdict.outputs_cons (r : Verdict) (l : List Verdict) :
    Verdict.outputs (r :: l) = Verdict.outputs [r] ++ Verdict.outputs l :=
  List.filterMap_append (l := [r])

theorem Verdict.allIssues_cons (r : Verdict) (l : List Verdict) :
    Verdict.allIssues (r :: l) = r.issues ++ Verdict.allIssues l := List.flatMap_cons

theorem Shape.fieldOutputs_cons (e : String × Verdict) (l : List (String × Verdict)) :
    Shape.fieldOutputs (e :: l) = Shape.fieldOutputs [e] ++ Shape.fieldOutputs l :=
  List.filterMap_append (l := [e])

theorem filterMap_cons_eq_append {α β : Type} (f : α → Option β) (a : α) (l : List α) :
    (a :: l).filterMap f = (f a).toList ++ l.filterMap f := by
  rcases h : f a with _ | b
  · rw [List.filterMap_cons_none h, Option.toList_none, List.nil_append]
  · rw [List.filterMap_cons_some h, Option.toList_some, List.singleton_append]

theorem Keyed.insertAll_append {α : Type} (l entries others : List (String × α)) :
    Keyed.insertAll l (entries ++ others) = Keyed.insertAll (Keyed.insertAll l entries) others :=
  List.foldl_append

/-! ## Gathering

One lemma for each way to take a verdict in: the outputs and the issues grow by those of the
verdict. -/

namespace Gathered

theorem collect_eq (g : Gathered Value) (r : Verdict) :
    g.collect r = ⟨g.outputs ++ Verdict.outputs [r], g.issues ++ r.issues⟩ := by
  rcases r with e | v
  · simp only [collect, report, Verdict.outputs, List.filterMap_cons, Verdict.output?,
      List.filterMap_nil, List.append_nil, Verdict.issues]
  · simp only [collect, add, Verdict.outputs, List.filterMap_cons, Verdict.output?,
      List.filterMap_nil, Verdict.issues, List.append_nil]

theorem collectField_eq (g : Gathered (String × Value)) (key : String) (r : Verdict) :
    g.collectField key r
      = ⟨g.outputs ++ Shape.fieldOutputs [(key, r)], g.issues ++ r.issues⟩ := by
  rcases r with e | v
  · simp only [collectField, report, Shape.fieldOutputs, List.filterMap_cons, List.filterMap_nil,
      List.append_nil, Verdict.issues]
  · by_cases hv : v = .undefined
    · rw [hv]
      simp only [collectField, Shape.fieldOutputs, List.filterMap_cons, List.filterMap_nil,
        List.append_nil, Verdict.issues]
    · simp only [collectField, add, Shape.fieldOutputs, List.filterMap_cons, List.filterMap_nil,
        List.append_nil, Verdict.issues]

/-- An entry of a record is written to the output at once. -/
theorem collectEntry_eq (g : Gathered (String × Value)) (e : Record.Entry) :
    g.collectEntry e.key e.keyVerdict e.valueVerdict
      = ⟨Keyed.insertAll g.outputs e.output?.toList, g.issues ++ e.issues⟩ := by
  obtain ⟨key, k, v⟩ := e
  rcases k with ek | k <;> rcases v with ev | v
  · simp only [collectEntry, report, Record.Entry.output?, Record.Entry.issues, Verdict.issues,
      Option.toList_none, Keyed.insertAll, List.foldl_nil, List.append_assoc]
  · by_cases hv : v = .undefined
    · rw [hv]
      simp only [collectEntry, report, Record.Entry.output?, Record.Entry.issues, Verdict.issues,
        Option.toList_none, Keyed.insertAll, List.foldl_nil, List.append_nil]
    · simp only [collectEntry, report, Record.Entry.output?, Record.Entry.issues, Verdict.issues,
        Option.toList_none, Keyed.insertAll, List.foldl_nil, List.append_nil]
  · simp only [collectEntry, report, Record.Entry.output?, Record.Entry.issues, Verdict.issues,
      Option.toList_none, Keyed.insertAll, List.foldl_nil, List.append_nil, List.nil_append]
  · by_cases hv : v = .undefined
    · rw [hv]
      simp only [collectEntry, report, Record.Entry.output?, Record.Entry.issues, Verdict.issues,
        Option.toList_none, Keyed.insertAll, List.foldl_nil, List.append_nil]
    · simp only [collectEntry, report, Record.Entry.output?, Record.Entry.issues, Verdict.issues,
        Option.toList_some, Keyed.insertAll, List.foldl_cons, List.foldl_nil, List.append_nil]

theorem collectPair_eq (g : Gathered (Value × Value)) (k v : Verdict) :
    g.collectPair k v
      = ⟨g.outputs ++ (Dictionary.output? (k, v)).toList, g.issues ++ (k.issues ++ v.issues)⟩ := by
  rcases k with ek | k <;> rcases v with ev | v <;>
    simp only [collectPair, add, report, Dictionary.output?, Verdict.issues, Option.toList_none,
      Option.toList_some, List.append_nil, List.nil_append, List.append_assoc]

end Gathered

/-! ## Arrays, tuples and sets -/

/-- **The loop over elements.** Where every position that it comes to has a judge, it gathers the
verdicts of these judges. -/
theorem awaitFrom_eq {judgeAt : Nat → Option Judge} {total : Nat → Judge} {s : Site} {c : Context}
    (items : List Value) : ∀ (n : Nat) (g : Gathered Value),
    (∀ k, n ≤ k → k < n + items.length → judgeAt k = some (total k)) →
    awaitFrom judgeAt s c n g items = (judgeFrom total s c n items).map fun l =>
      ⟨g.outputs ++ Verdict.outputs l, g.issues ++ Verdict.allIssues l⟩ := by
  -- the induction is on the elements that are left, the start grows by one verdict
  induction items with
  | nil =>
    intro n g _
    simp only [awaitFrom, judgeFrom, Option.map_some, Verdict.outputs, Verdict.allIssues,
      List.filterMap_nil, List.flatMap_nil, List.append_nil]
  | cons v rest ih =>
    intro n g h
    have hn : judgeAt n = some (total n) := h n (Nat.le_refl n) (by rw [List.length_cons]; omega)
    have hrest : ∀ k, n + 1 ≤ k → k < n + 1 + rest.length → judgeAt k = some (total k) := by
      intro k hle hlt
      exact h k (by omega) (by rw [List.length_cons]; omega)
    simp only [awaitFrom, hn, judgeFrom, Option.bind_eq_bind]
    rcases total n (s.child n) v (c.childIndex n) with _ | r
    · rfl
    · rw [Option.bind_some, Option.bind_some, ih (n + 1) (g.collect r) hrest, Gathered.collect_eq]
      rw [map_eq_map_bind_cons]
      intro l
      dsimp only
      rw [List.append_assoc, List.append_assoc, ← Verdict.outputs_cons, ← Verdict.allIssues_cons]

theorem awaitFrom_start {judgeAt : Nat → Option Judge} {total : Nat → Judge} {s : Site}
    {c : Context} {items : List Value}
    (h : ∀ k, k < items.length → judgeAt k = some (total k)) :
    awaitFrom judgeAt s c 0 .nothing items = (judgeAll total s c items).map fun l =>
      ⟨Verdict.outputs l, Verdict.allIssues l⟩ := by
  have hloop := awaitFrom_eq (s := s) (c := c) items 0 .nothing fun k _ hlt => h k (by omega)
  simpa only [Gathered.nothing, List.nil_append, judgeAll] using hloop

/-- **Arrays.** -/
theorem ArrayBounds.await_eq_judge (b : ArrayBounds) (element : Judge) :
    b.await element = b.judge element := by
  funext s v c
  unfold ArrayBounds.await ArrayBounds.judge
  rcases guardedItems b.limits c v with i | items
  · rfl
  · rcases hf : b.fault? items with _ | fault
    · simp only [hf, awaitFrom_start fun _ _ => rfl, Option.bind_eq_bind]
      rw [Option.bind_map]
      rfl
    · simp only [hf]

/-- **Tuples.** A tuple of the right size has no element that would be passed over. -/
theorem Tuple.await_eq_judge (items : List Judge) (rest : Option Judge) (limits : Limits) :
    Tuple.await items rest limits = Tuple.judge items rest limits := by
  funext s v c
  unfold Tuple.await Tuple.judge
  rcases guardedItems limits c v with i | elements
  · rfl
  · rcases hf : fault? items.length rest.isSome elements.length with _ | fault
    · have hinCharge : ∀ k, k < elements.length →
          childAt items rest k = some (judgeAt items rest k) := by
        intro k hk
        obtain ⟨judge, hjudge⟩ := exists_childAt hf hk
        rw [judgeAt, hjudge]
      simp only [hf, Option.bind_eq_bind]
      rw [awaitFrom_start hinCharge, Option.bind_map]
      rfl
    · simp only [hf]

/-- **Sets.** -/
theorem SetBounds.await_eq_judge (b : SetBounds) (element : Judge) :
    b.await element = b.judge element := by
  funext s v c
  unfold SetBounds.await SetBounds.judge
  rcases v with _ | _ | _ | _ | _ | _ | _ | _ | _ | _ | _ | ⟨id, items⟩ <;> try rfl
  dsimp only
  rcases Guard.checkDepth c.depth b.limits with r | _
  · rfl
  · dsimp only
    rcases b.fault? c items.length with _ | i
    · simp only [awaitFrom_start fun _ _ => rfl, Option.bind_eq_bind]
      rw [Option.bind_map]
      rfl
    · rfl

/-! ## Objects, records and maps -/

namespace Shape

/-- **The loop over declared fields** gathers their verdicts in the order of the declarations. -/
theorem awaitFields_eq {s : Site} {c : Context} {input : List (String × Value)}
    (fields : List (String × Judge)) : ∀ (n : Nat) (g : Gathered (String × Value)),
    awaitFields s c input n g fields = (judgeFields s c input n fields).map fun l =>
      ⟨g.outputs ++ fieldOutputs l, g.issues ++ Verdict.allIssues (l.map Prod.snd)⟩ := by
  induction fields with
  | nil =>
    intro n g
    simp only [awaitFields, judgeFields, Option.map_some, fieldOutputs, List.filterMap_nil,
      List.map_nil, Verdict.allIssues, List.flatMap_nil, List.append_nil]
  | cons f rest ih =>
    intro n g
    obtain ⟨key, judge⟩ := f
    simp only [awaitFields, judgeFields, Option.bind_eq_bind]
    rcases judge (s.child n) (fieldOr key input) (c.childKey key) with _ | r
    · rfl
    · rw [Option.bind_some, Option.bind_some, ih (n + 1) (g.collectField key r),
        Gathered.collectField_eq]
      rw [map_eq_map_bind_cons]
      intro l
      dsimp only
      rw [List.append_assoc, List.append_assoc, ← fieldOutputs_cons, List.map_cons,
        Verdict.allIssues_cons]

/-- **Objects.** -/
theorem await_eq_judge (shape : Shape Judge) : shape.await = shape.judge := by
  funext s v c
  unfold await judge
  rcases guardedFields shape.limits c v with i | input
  · rfl
  · simp only [awaitFields_eq, Gathered.nothing, List.nil_append, Option.bind_eq_bind]
    rw [Option.bind_map]
    rfl

end Shape

namespace Record

/-- **The loop over record entries** gathers what the entries hold. Outputs are written as they
come, so that a key that comes up again is written at its first place. -/
theorem awaitEntries_eq {keyJudge : Option Judge} {valueJudge : Judge} {s : Site} {c : Context}
    (input : List (String × Value)) : ∀ (n : Nat) (g : Gathered (String × Value)),
    awaitEntries keyJudge valueJudge s c n g input
      = (judgeEntries keyJudge valueJudge s c n input).map fun l =>
        ⟨Keyed.insertAll g.outputs (l.filterMap Entry.output?),
          g.issues ++ l.flatMap Entry.issues⟩ := by
  induction input with
  | nil =>
    intro n g
    simp only [awaitEntries, judgeEntries, Option.map_some, List.filterMap_nil, Keyed.insertAll,
      List.foldl_nil, List.flatMap_nil, List.append_nil]
  | cons f rest ih =>
    intro n g
    obtain ⟨key, v⟩ := f
    simp only [awaitEntries, judgeEntries, Option.bind_eq_bind]
    rcases judgeKey keyJudge ((s.child n).child 0) key (c.childKey key) with _ | k
    · rfl
    rcases valueJudge ((s.child n).child 1) v (c.childKey key) with _ | r
    · rfl
    simp only [Option.bind_some]
    rw [ih (n + 1) (g.collectEntry key k r), Gathered.collectEntry_eq g ⟨key, k, r⟩]
    rw [map_eq_map_bind_cons]
    intro l
    dsimp only
    rw [← Keyed.insertAll_append, ← filterMap_cons_eq_append, List.flatMap_cons,
      List.append_assoc]

/-- **Records.** -/
theorem await_eq_judge (keyJudge : Option Judge) (valueJudge : Judge) (limits : Limits) :
    await keyJudge valueJudge limits = judge keyJudge valueJudge limits := by
  funext s v c
  unfold await judge
  rcases guardedFields limits c v with i | input
  · rfl
  · simp only [awaitEntries_eq, Gathered.nothing, List.nil_append, Option.bind_eq_bind]
    rw [Option.bind_map]
    rfl

end Record

namespace Dictionary

/-- **The loop over map entries** gathers the outputs and the issues of both parts of each. -/
theorem awaitEntries_eq {keyJudge valueJudge : Judge} {s : Site} {c : Context}
    (entries : List (Value × Value)) : ∀ (n : Nat) (g : Gathered (Value × Value)),
    awaitEntries keyJudge valueJudge s c n g entries
      = (judgeEntries keyJudge valueJudge s c n entries).map fun l =>
        ⟨g.outputs ++ l.filterMap output?,
          g.issues ++ l.flatMap fun e => e.1.issues ++ e.2.issues⟩ := by
  induction entries with
  | nil =>
    intro n g
    simp only [awaitEntries, judgeEntries, Option.map_some, List.filterMap_nil, List.flatMap_nil,
      List.append_nil]
  | cons e rest ih =>
    intro n g
    obtain ⟨key, v⟩ := e
    simp only [awaitEntries, judgeEntries, Option.bind_eq_bind]
    rcases keyJudge ((s.child n).child 0) key ((c.childIndex n).atKey "key") with _ | k
    · rfl
    rcases valueJudge ((s.child n).child 1) v ((c.childIndex n).atKey "value") with _ | r
    · rfl
    simp only [Option.bind_some]
    rw [ih (n + 1) (g.collectPair k r), Gathered.collectPair_eq]
    rw [map_eq_map_bind_cons]
    intro l
    dsimp only
    rw [List.append_assoc, List.append_assoc, ← filterMap_cons_eq_append, List.flatMap_cons]

/-- **Maps.** -/
theorem await_eq_judge (keyJudge valueJudge : Judge) (limits : Limits) :
    await keyJudge valueJudge limits = judge keyJudge valueJudge limits := by
  funext s v c
  unfold await judge
  rcases v with _ | _ | _ | _ | _ | _ | _ | _ | _ | _ | _ | _ <;> try rfl
  rename_i id entries
  rcases Guard.checkDepth c.depth limits with r | _
  · rfl
  · simp only [awaitEntries_eq, Gathered.nothing, List.nil_append, Option.bind_eq_bind]
    rw [Option.bind_map]
    rfl

end Dictionary

/-! ## Unions and intersections -/

/-- **The loop over options** ends with the first output, or with the refusal of them all. -/
theorem Union.awaitFirst_eq {s : Site} {v : Value} {c : Context} {count : Nat}
    (options : List Judge) : ∀ n : Nat,
    awaitFirst s v c count n options = (firstOutput? s v c n options).map fun output? =>
      match output? with
      | some output => .ok output
      | none => Verdict.reject (noMatch c count) := by
  induction options with
  | nil => exact fun _ => rfl
  | cons judge rest ih =>
    intro n
    simp only [awaitFirst, firstOutput?, Option.bind_eq_bind]
    rcases judge (s.child n) v c with _ | r
    · rfl
    rcases r with e | output
    · exact ih (n + 1)
    · rfl

/-- **Unions.** -/
theorem Union.await_eq_judge (options : List Judge) :
    Union.await options = Union.judge options := by
  funext s v c
  unfold Union.await Union.judge
  rw [awaitFirst_eq]
  rcases firstOutput? s v c 0 options with _ | output? | output?
  · rfl
  · rfl
  · rfl

namespace Intersection

/-- **The loop over branches** adds their verdicts to those that are there. -/
theorem awaitBranches_eq {s : Site} {v : Value} {c : Context} (branches : List Judge) :
    ∀ (n : Nat) (verdicts : List Verdict),
    awaitBranches s v c n verdicts branches
      = (judgeBranches s v c n branches).map (verdicts ++ ·) := by
  induction branches with
  | nil =>
    intro n verdicts
    simp only [awaitBranches, judgeBranches, Option.map_some, List.append_nil]
  | cons judge rest ih =>
    intro n verdicts
    simp only [awaitBranches, judgeBranches, Option.bind_eq_bind]
    rcases judge (s.child n) v c with _ | r
    · rfl
    · rw [Option.bind_some, Option.bind_some, ih (n + 1) (verdicts ++ [r])]
      rw [map_eq_map_bind_cons]
      intro l
      rw [List.append_assoc, List.singleton_append]

/-- **Intersections.** -/
theorem await_eq_judge (branches : List Judge) : await branches = judge branches := by
  funext s v c
  unfold await judge
  rw [awaitBranches_eq]
  simp only [List.nil_append, Option.map_id']

end Intersection

/-! ## Modifiers -/

/-- **Modifiers.** A judge that waits comes to what the modifier is when deferred code is in
force. -/
theorem Modifier.await_eq_judge (m : Modifier) (inner : Judge) :
    m.await inner = m.judge .async inner := by
  rcases m with _ | _ | _ | standard | replacement | text | _ | _ | _ | _ | _ | _ | _ <;> try rfl
  · -- the replacement of undefined is chosen before the schema inside is asked
    funext s v c
    exact (apply_ite (fun input => inner s input c) (v.isUndefined = true) standard v).symm
  · funext s v c
    show (inner s v c).bind _ = (inner s v c).map _
    rcases inner s v c with _ | e | output
    · rfl
    · rfl
    · rfl

end ValueSchema
