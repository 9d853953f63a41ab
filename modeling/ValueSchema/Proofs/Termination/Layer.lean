/-
Judging a layer comes to an answer.

A judgement comes to nothing only where a reference cannot be followed. A node whose children all
answer answers, too, and a container asks its children only if it stands within its own depth
limit. So below the limits of all containers nothing is asked any more, which is what bounds the
descent into definitions.
-/
import ValueSchema.Proofs.Acceptance
import ValueSchema.Proofs.Layer
import ValueSchema.Proofs.Likeness.Containers

set_option autoImplicit false

namespace ValueSchema

/-- The judge comes to a verdict on every value at a depth. -/
def Judge.Answers (j : Judge) (depth : Nat) : Prop :=
  ∀ (s : Site) (v : Value) (c : Context), c.depth = depth → ∃ verdict, j s v c = some verdict

theorem depth_le_of_guardedFields {limits : Limits} {c : Context} {v : Value}
    {fields : List (String × Value)} (h : guardedFields limits c v = .ok fields) :
    c.depth ≤ limits.maxDepth := by
  obtain ⟨_, _, hguard⟩ := guardedFields_eq_ok h
  exact Guard.depth_le_of_checkObject hguard

theorem depth_le_of_guardedItems {limits : Limits} {c : Context} {v : Value}
    {items : List Value} (h : guardedItems limits c v = .ok items) :
    c.depth ≤ limits.maxDepth := by
  obtain ⟨_, _, hdepth⟩ := guardedItems_eq_ok h
  exact hdepth

namespace Judge.Answers

variable {σ : Type} {j : σ → Judge} {s : Site} {v : Value} {c : Context} {depth : Nat}

/-! ## Containers -/

theorem judgeFields {input : List (String × Value)} {fields : List (String × σ)}
    (h : ∀ f ∈ fields, (j f.2).Answers (c.depth + 1)) : ∀ n : Nat,
    ∃ l, Shape.judgeFields s c input n (Keyed.mapValues j fields) = some l := by
  induction fields with
  | nil => exact fun _ => ⟨[], rfl⟩
  | cons f rest ih =>
    intro n
    simp only [List.forall_mem_cons] at h
    -- a field answers one level deeper, whatever its input is
    obtain ⟨verdict, hv⟩ := h.1 (s.child n) (fieldOr f.1 input) (c.childKey f.1) rfl
    obtain ⟨l, hl⟩ := ih h.2 (n + 1)
    simp only [Keyed.mapValues, List.map_cons, Shape.judgeFields] at hl ⊢
    rw [hv, hl]
    exact ⟨_, rfl⟩

theorem object {shape : Shape σ}
    (h : depth ≤ shape.limits.maxDepth → ∀ f ∈ shape.fields, (j f.2).Answers (depth + 1)) :
    (shape.map j).judge.Answers depth := by
  intro s v c hc
  subst hc
  simp only [Shape.judge, Shape.map]
  cases hin : guardedFields shape.limits c v with
  | error i => exact ⟨_, rfl⟩
  | ok input =>
    -- the guard has let the object through, so its depth is within the limit
    obtain ⟨l, hl⟩ := judgeFields (s := s) (h (depth_le_of_guardedFields hin)) 0
    dsimp only
    rw [hl]
    exact ⟨_, rfl⟩

theorem judgeFrom {judgeAt : Nat → Judge} (h : ∀ n, (judgeAt n).Answers (c.depth + 1))
    (items : List Value) : ∀ n : Nat, ∃ l, judgeFrom judgeAt s c n items = some l := by
  induction items with
  | nil => exact fun _ => ⟨[], rfl⟩
  | cons x rest ih =>
    intro n
    obtain ⟨verdict, hv⟩ := h n (s.child n) x (c.childIndex n) rfl
    obtain ⟨l, hl⟩ := ih (n + 1)
    simp only [ValueSchema.judgeFrom]
    rw [hv, hl]
    exact ⟨_, rfl⟩

/-- What is built from the verdicts on all elements is an answer. -/
theorem judgeAll {judgeAt : Nat → Judge} (h : ∀ n, (judgeAt n).Answers (c.depth + 1))
    (items : List Value) (build : List Verdict → Verdict) :
    ∃ verdict, (do
      let verdicts ← judgeAll judgeAt s c items
      some (build verdicts)) = some verdict := by
  obtain ⟨l, hl⟩ := judgeFrom (s := s) h items 0
  simp only [ValueSchema.judgeAll]
  rw [hl]
  exact ⟨_, rfl⟩

theorem array (b : ArrayBounds) {k : Judge}
    (h : depth ≤ b.limits.maxDepth → k.Answers (depth + 1)) : (b.judge k).Answers depth := by
  intro s v c hc
  subst hc
  simp only [ArrayBounds.judge]
  cases hin : guardedItems b.limits c v with
  | error i => exact ⟨_, rfl⟩
  | ok items =>
    cases hf : b.fault? items with
    | some fault => exact ⟨_, by simp only [hf]; rfl⟩
    | none =>
      simp only [hf]
      exact judgeAll (fun _ => h (depth_le_of_guardedItems hin)) items _

theorem tuple {items : List σ} {rest : Option σ} (limits : Limits)
    (h : depth ≤ limits.maxDepth → ∀ x ∈ items ++ rest.toList, (j x).Answers (depth + 1)) :
    Judge.Answers (Tuple.judge (items.map j) (rest.map j) limits) depth := by
  intro s v c hc
  subst hc
  simp only [Tuple.judge, Tuple.childAt_map]
  cases hin : guardedItems limits c v with
  | error i => exact ⟨_, rfl⟩
  | ok elements =>
    dsimp only
    cases Tuple.fault? (items.map j).length (rest.map j).isSome elements.length with
    | some fault => exact ⟨_, rfl⟩
    | none =>
      refine judgeAll (fun n => ?_) elements _
      -- a position without a child accepts what stands there
      cases hn : Tuple.childAt items rest n with
      | none => exact fun _ v _ _ => ⟨.ok v, rfl⟩
      | some x => exact h (depth_le_of_guardedItems hin) x (Tuple.mem_of_childAt hn)

theorem set (b : SetBounds) {k : Judge}
    (h : depth ≤ b.limits.maxDepth → k.Answers (depth + 1)) : (b.judge k).Answers depth := by
  intro s v c hc
  subst hc
  cases v with
  | set id items =>
    simp only [SetBounds.judge]
    cases hd : Guard.checkDepth c.depth b.limits with
    | error r => exact ⟨_, rfl⟩
    | ok _ =>
      cases hf : b.fault? c items.length with
      | some i => exact ⟨_, rfl⟩
      | none => exact judgeAll (fun _ => h (Guard.depth_le_of_checkDepth hd)) items _
  | _ => exact ⟨_, rfl⟩

theorem judgeEntries {key : Option σ} {k : Judge} (h : ∀ x ∈ key, (j x).Answers (c.depth + 1))
    (hk : k.Answers (c.depth + 1)) (input : List (String × Value)) : ∀ n : Nat,
    ∃ l, Record.judgeEntries (key.map j) k s c n input = some l := by
  induction input with
  | nil => exact fun _ => ⟨[], rfl⟩
  | cons f rest ih =>
    intro n
    -- without a key schema the answer is there at once
    have hkey : ∃ verdict, Record.judgeKey (key.map j) ((s.child n).child 0) f.1
        (c.childKey f.1) = some verdict := by
      cases key with
      | none => exact ⟨_, rfl⟩
      | some x => exact h x rfl _ _ _ rfl
    obtain ⟨verdict, hv⟩ := hkey
    obtain ⟨verdict', hv'⟩ := hk ((s.child n).child 1) f.2 (c.childKey f.1) rfl
    obtain ⟨l, hl⟩ := ih (n + 1)
    simp only [Record.judgeEntries]
    rw [hv, hv', hl]
    exact ⟨_, rfl⟩

theorem record {key : Option σ} {k : Judge} (limits : Limits)
    (h : depth ≤ limits.maxDepth → ∀ x ∈ key, (j x).Answers (depth + 1))
    (hk : depth ≤ limits.maxDepth → k.Answers (depth + 1)) :
    Judge.Answers (Record.judge (key.map j) k limits) depth := by
  intro s v c hc
  subst hc
  simp only [Record.judge]
  cases hin : guardedFields limits c v with
  | error i => exact ⟨_, rfl⟩
  | ok input =>
    have hle := depth_le_of_guardedFields hin
    obtain ⟨l, hl⟩ := judgeEntries (s := s) (h hle) (hk hle) input 0
    dsimp only
    rw [hl]
    exact ⟨_, rfl⟩

theorem judgePairs {k k' : Judge} (h : k.Answers (c.depth + 1)) (h' : k'.Answers (c.depth + 1))
    (entries : List (Value × Value)) : ∀ n : Nat,
    ∃ l, Dictionary.judgeEntries k k' s c n entries = some l := by
  induction entries with
  | nil => exact fun _ => ⟨[], rfl⟩
  | cons e rest ih =>
    intro n
    obtain ⟨verdict, hv⟩ := h ((s.child n).child 0) e.1 ((c.childIndex n).atKey "key") rfl
    obtain ⟨verdict', hv'⟩ := h' ((s.child n).child 1) e.2 ((c.childIndex n).atKey "value") rfl
    obtain ⟨l, hl⟩ := ih (n + 1)
    simp only [Dictionary.judgeEntries]
    rw [hv, hv', hl]
    exact ⟨_, rfl⟩

theorem map {k k' : Judge} (limits : Limits) (h : depth ≤ limits.maxDepth → k.Answers (depth + 1))
    (h' : depth ≤ limits.maxDepth → k'.Answers (depth + 1)) :
    Judge.Answers (Dictionary.judge k k' limits) depth := by
  intro s v c hc
  subst hc
  cases v with
  | map id entries =>
    simp only [Dictionary.judge]
    cases hd : Guard.checkDepth c.depth limits with
    | error r => exact ⟨_, rfl⟩
    | ok _ =>
      have hle := Guard.depth_le_of_checkDepth hd
      obtain ⟨l, hl⟩ := judgePairs (s := s) (h hle) (h' hle) entries 0
      dsimp only
      rw [hl]
      exact ⟨_, rfl⟩
  | _ => exact ⟨_, rfl⟩

/-! ## Choices -/

theorem firstOutput? {options : List σ} (h : ∀ x ∈ options, (j x).Answers c.depth) : ∀ n : Nat,
    ∃ found, Union.firstOutput? s v c n (options.map j) = some found := by
  induction options with
  | nil => exact fun _ => ⟨none, rfl⟩
  | cons x rest ih =>
    intro n
    simp only [List.forall_mem_cons] at h
    obtain ⟨verdict, hv⟩ := h.1 (s.child n) v c rfl
    simp only [List.map_cons, Union.firstOutput?]
    rw [hv]
    -- an option that rejects leaves the answer to the rest
    cases verdict with
    | ok output => exact ⟨_, rfl⟩
    | error e => exact ih h.2 (n + 1)

theorem union {options : List σ} (h : ∀ x ∈ options, (j x).Answers depth) :
    Judge.Answers (Union.judge (options.map j)) depth := by
  intro s v c hc
  subst hc
  obtain ⟨found, hf⟩ := firstOutput? (s := s) (v := v) h 0
  simp only [Union.judge]
  rw [hf]
  cases found <;> exact ⟨_, rfl⟩

theorem tagged (discriminator : String) (literals : List (Option Value)) {options : List σ}
    (h : ∀ x ∈ options, (j x).Answers depth) :
    Judge.Answers (Tagged.judge discriminator literals (options.map j)) depth := by
  intro s v c hc
  cases v with
  | object id fields =>
    simp only [Tagged.judge, List.getElem?_map]
    cases Tagged.select? discriminator literals fields with
    | none => exact ⟨_, rfl⟩
    | some n =>
      rw [Option.bind_some]
      cases hn : options[n]? with
      | none => exact ⟨_, rfl⟩
      | some x => exact h x (List.mem_of_getElem? hn) _ _ _ hc
  | _ => exact ⟨_, rfl⟩

theorem judgeBranches {branches : List σ} (h : ∀ x ∈ branches, (j x).Answers c.depth) :
    ∀ n : Nat, ∃ l, Intersection.judgeBranches s v c n (branches.map j) = some l := by
  induction branches with
  | nil => exact fun _ => ⟨[], rfl⟩
  | cons x rest ih =>
    intro n
    simp only [List.forall_mem_cons] at h
    obtain ⟨verdict, hv⟩ := h.1 (s.child n) v c rfl
    obtain ⟨l, hl⟩ := ih h.2 (n + 1)
    simp only [List.map_cons, Intersection.judgeBranches]
    rw [hv, hl]
    exact ⟨_, rfl⟩

theorem intersection {branches : List σ} (h : ∀ x ∈ branches, (j x).Answers depth) :
    Judge.Answers (Intersection.judge (branches.map j)) depth := by
  intro s v c hc
  subst hc
  obtain ⟨l, hl⟩ := judgeBranches (s := s) (v := v) h 0
  simp only [Intersection.judge]
  rw [hl]
  exact ⟨_, rfl⟩

/-! ## Modifiers and pipes -/

theorem andThen (verdict : Verdict) {next : Value → Option Verdict}
    (h : ∀ output, ∃ verdict', next output = some verdict') :
    ∃ verdict', verdict.andThen next = some verdict' := by
  -- an issue is an answer, an output is handed on
  cases verdict with
  | ok output => exact h output
  | error e => exact ⟨_, rfl⟩

variable {k k' : Judge}

theorem pipe (h : k.Answers depth) (h' : k'.Answers depth) : (k.pipe k').Answers depth := by
  intro s v c hc
  obtain ⟨verdict, hv⟩ := h (s.child 0) v c hc
  simp only [Judge.pipe]
  rw [hv]
  exact andThen verdict fun output => h' (s.child 1) output c hc

theorem mapInput (mapper : Mapper) (h : k.Answers depth) : (k.mapInput mapper).Answers depth :=
  fun s _ c hc => andThen _ fun output => h (s.child 1) output c hc

theorem mapOutput (mapper : Mapper) (h : k.Answers depth) :
    (k.mapOutput mapper).Answers depth := by
  intro s v c hc
  obtain ⟨verdict, hv⟩ := h (s.child 0) v c hc
  simp only [Judge.mapOutput]
  rw [hv]
  exact andThen verdict fun _ => ⟨_, rfl⟩

theorem checkOutput (check : Context → Value → Verdict) (h : k.Answers depth) :
    (k.checkOutput check).Answers depth := by
  intro s v c hc
  obtain ⟨verdict, hv⟩ := h s v c hc
  simp only [Judge.checkOutput]
  rw [hv]
  exact andThen verdict fun _ => ⟨_, rfl⟩

/-- What a modifier lets pass is an answer without the schema inside. -/
theorem passing (passes : Value → Bool) (output : Value → Value) (h : k.Answers depth) :
    Judge.Answers (fun s v c => if passes v then some (.ok (output v)) else k s v c) depth := by
  intro s v c hc
  by_cases hp : passes v = true
  · exact ⟨_, if_pos hp⟩
  · obtain ⟨verdict, hv⟩ := h s v c hc
    exact ⟨verdict, (if_neg hp).trans hv⟩

theorem modifier (mode : Mode) (m : Modifier) (h : k.Answers depth) :
    (m.judge mode k).Answers depth := by
  cases m with
  | optional => exact passing Value.isUndefined (fun _ => .undefined) h
  | nullable => exact passing Value.isNull (fun _ => .null) h
  | nullish => exact passing (fun v => v.isUndefined || v.isNull) id h
  | default standard => exact fun s _ c hc => h s _ c hc
  | fallback replacement =>
    intro s v c hc
    obtain ⟨verdict, hv⟩ := h s v c hc
    simp only [Modifier.judge]
    rw [hv]
    cases verdict <;> exact ⟨_, rfl⟩
  | message text =>
    intro s v c hc
    obtain ⟨verdict, hv⟩ := h s v c hc
    simp only [Modifier.judge]
    rw [hv]
    exact ⟨_, rfl⟩
  | refine check text => exact checkOutput _ h
  | superRefine refiner => exact checkOutput _ h
  | transform mapper => exact mapOutput _ h
  | preprocess mapper => exact mapInput _ h
  | refineAsync check text =>
    cases mode with
    | sync => exact h
    | async => exact checkOutput _ h
  | transformAsync mapper =>
    cases mode with
    | sync => exact h
    | async => exact mapOutput (fun s v => (mapper s v).await) h
  | preprocessAsync mapper =>
    cases mode with
    | sync => exact h
    | async => exact mapInput (fun s v => (mapper s v).await) h

end Judge.Answers

namespace Schema

/-! ## Layers -/

/-- The depth limit of a container node. -/
def ownLimit? : Schema → Option Nat
  | object shape => some shape.limits.maxDepth
  | array _ bounds => some bounds.limits.maxDepth
  | tuple _ _ limits => some limits.maxDepth
  | record _ _ limits => some limits.maxDepth
  | map _ _ limits => some limits.maxDepth
  | set _ bounds => some bounds.limits.maxDepth
  | _ => none

/-- **A layer over children that answer answers**, and those below a container are asked only
within its limit. -/
theorem layer_answers {mode : Mode} {resolve : Resolution} {child : Schema → Evaluator}
    {s : Schema} {depth : Nat}
    (href : ∀ ref, s = .lazy ref → (resolve ref).judge.Answers depth)
    (hbare : ∀ t ∈ s.bare, (child t).judge.Answers depth)
    (hheld : (∀ m ∈ s.ownLimit?, depth ≤ m) → ∀ t ∈ s.held, (child t).judge.Answers (depth + 1)) :
    (s.layer mode resolve child).judge.Answers depth := by
  cases s with
  | object shape =>
    exact .object fun hd f hf =>
      hheld (by simpa [ownLimit?] using hd) f.2 (List.mem_map_of_mem hf)
  | array element bounds =>
    exact .array bounds fun hd => hheld (by simpa [ownLimit?] using hd) element (by simp [held])
  | tuple items rest limits =>
    exact .tuple limits fun hd => hheld (by simpa [ownLimit?] using hd)
  | record key value limits =>
    refine .record limits (fun hd x hx => ?_) fun hd => ?_
    · exact hheld (by simpa [ownLimit?] using hd) x (by simp [held, Option.mem_def.mp hx])
    · exact hheld (by simpa [ownLimit?] using hd) value (by simp [held])
  | map key value limits =>
    refine .map limits (fun hd => ?_) fun hd => ?_
    · exact hheld (by simpa [ownLimit?] using hd) key (by simp [held])
    · exact hheld (by simpa [ownLimit?] using hd) value (by simp [held])
  | set element bounds =>
    exact .set bounds fun hd => hheld (by simpa [ownLimit?] using hd) element (by simp [held])
  | union options => exact .union hbare
  | tagged discriminator options =>
    exact .tagged discriminator _ fun o ho => hbare (.object o) (List.mem_map_of_mem ho)
  | intersection branches => exact .intersection hbare
  | lazy ref => exact href ref rfl
  | modified m inner => exact .modifier mode m (hbare inner (by simp [bare]))
  | pipe first next => exact .pipe (hbare first (by simp [bare])) (hbare next (by simp [bare]))
  | _ => exact fun _ _ _ _ => ⟨_, rfl⟩

end Schema

end ValueSchema
