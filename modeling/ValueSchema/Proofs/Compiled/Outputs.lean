/-
Outputs of accepted inputs.

The output that a compiled schema puts together for an input is compared with what judging comes
to. It is built at the sites at which judging builds it, so the two agree wherever something is
built; where the input itself is put out, they agree up to the identities of the arrays, tuples
and maps that judging would have built anew. What agreement means is left open here: a relation
that containers of related parts keep, and that looks through identities if some container of the
schema is shared.
-/
import ValueSchema.Proofs.Acceptance
import ValueSchema.Proofs.Compiled.Nodes
import ValueSchema.Proofs.Likeness.Outputs
import ValueSchema.Proofs.Agreement.Schemas
import ValueSchema.Proofs.Termination.Layer

set_option autoImplicit false

namespace ValueSchema

open List (Forall₂)

/-! ## Relations that look through identities -/

/-- Arrays and maps of related parts are related whatever their identities are. -/
structure Value.IgnoresIdentity (R : Value → Value → Prop) : Prop where
  array : ∀ {id id' : Ident} {xs ys : List Value}, Forall₂ R xs ys →
    R (.array id xs) (.array id' ys)
  map : ∀ {id id' : Ident} {xs ys : List (Value × Value)}, Forall₂ (Value.EntryLike R) xs ys →
    R (.map id xs) (.map id' ys)

/-- Related elements make related sets, those that agree with an earlier one being left out. -/
def Value.KeepsSets (R : Value → Value → Prop) : Prop :=
  ∀ ⦃id : Ident⦄ ⦃xs ys : List Value⦄, Forall₂ R xs ys →
    R (Value.ofElements id xs) (Value.ofElements id ys)

namespace Output

theorem eq_same {o : Output} (h : o.isSame = true) : o = same := by
  cases o with
  | same => rfl
  | build f => cases h

/-- All outputs of a list are there, and one is that of one element. -/
theorem all?_map {σ : Type} {f : σ → Option Output} {l : List σ} {os : List Output}
    (h : all? (l.map f) = some os) :
    os = l.map (fun x => (f x).getD same) ∧ ∀ x ∈ l, f x = some ((f x).getD same) := by
  induction l generalizing os with
  | nil =>
    cases h
    exact ⟨rfl, fun _ hx => absurd hx List.not_mem_nil⟩
  | cons x rest ih =>
    rw [List.map_cons] at h
    -- one child without an output leaves the whole list without
    cases hx : f x with
    | none =>
      rw [hx] at h
      cases h
    | some o =>
      rw [hx, all?] at h
      obtain ⟨os', hos, rfl⟩ := Option.map_eq_some_iff.mp h
      obtain ⟨hrest, hall⟩ := ih hos
      refine ⟨?_, ?_⟩
      · rw [List.map_cons, ← hrest, hx]
        rfl
      · rw [List.forall_mem_cons]
        exact ⟨by rw [hx]; rfl, hall⟩

/-- Whatever the judge accepts, the output is there and related to what the judge puts out. -/
def Yields (R : Value → Value → Prop) (o : Output) (j : Judge) : Prop :=
  ∀ ⦃s : Site⦄ ⦃v : Value⦄ ⦃c : Context⦄ ⦃out : Value⦄, j s v c = some (.ok out) →
    ∃ w, o.apply s v c.depth = some w ∧ R out w

namespace Yields

variable {R : Value → Value → Prop} {s : Site} {c : Context}

/-! ## Leaves -/

/-- A leaf that puts its input out. -/
theorem leaf (hR : Value.Congruence R) {run : Context → Value → Verdict}
    (h : ∀ c v out, run c v = .ok out → out = v) {accepts : Value → Bool} :
    same.Yields R (Evaluator.leaf run accepts).judge := by
  intro s v c out hv
  rw [h c v out (Option.some.inj hv)]
  exact ⟨v, rfl, hR.refl v⟩

/-! ## Objects and records -/

section

variable {σ : Type} {j : σ → Judge} {o : σ → Output}

theorem fieldsFrom (hR : Value.Congruence R) {input : List (String × Value)}
    {fields : List (String × σ)} (h : ∀ f ∈ fields, (o f.2).Yields R (j f.2)) :
    ∀ {n : Nat} {l : List (String × Verdict)},
    Shape.judgeFields s c input n (Keyed.mapValues j fields) = some l →
    Verdict.allIssues (l.map Prod.snd) = [] →
    ∃ ws, Output.fieldsFrom s c.depth input n (Keyed.mapValues o fields) = some ws
      ∧ Forall₂ (Keyed.Like R) (Shape.fieldOutputs l) ws := by
  induction fields with
  | nil =>
    intro n l hl _
    cases hl
    exact ⟨[], rfl, .nil⟩
  | cons f rest ih =>
    intro n l hl hnone
    simp only [List.forall_mem_cons] at h
    obtain ⟨verdict, hv, hl⟩ := Option.bind_eq_some_iff.mp hl
    obtain ⟨others, ho, hl⟩ := Option.bind_eq_some_iff.mp hl
    cases hl
    rw [List.map_cons] at hnone
    obtain ⟨⟨out, hok⟩, hnone⟩ := Verdict.allIssues_cons_eq_nil hnone
    simp only at hok
    subst hok
    obtain ⟨w, hw, hrel⟩ := h.1 hv
    obtain ⟨ws, hws, hrels⟩ := ih h.2 ho hnone
    simp only [Keyed.mapValues, List.map_cons, Output.fieldsFrom] at hws ⊢
    -- the output of the field is looked up where the field was judged
    have happly : (o f.2).apply (s.child n) (fieldOr f.1 input) (c.depth + 1) = some w := hw
    rw [happly, hws, Shape.fieldOutputs_ok, hR.undefined hrel]
    refine ⟨_, rfl, ?_⟩
    split
    · exact hrels
    · exact .cons ⟨rfl, hrel⟩ hrels

theorem object (hR : Value.Congruence R) {shape : Shape σ}
    (h : ∀ f ∈ shape.fields, (o f.2).Yields R (j f.2)) :
    (Output.object (shape.map o)).Yields R (shape.map j).judge := by
  intro s v c out hv
  obtain ⟨id, input, l, rfl, _, hl, hnone, _, rfl⟩ := Shape.judge_eq_ok hv
  -- the fields agree by induction, and kept keys are put out as they came in
  obtain ⟨ws, hws, hrels⟩ := fieldsFrom hR h hl hnone
  have hkeys : ∀ {τ υ : Type} (f : σ → τ) (g : σ → υ),
      Keyed.keys (Keyed.mapValues f shape.fields) = Keyed.keys (Keyed.mapValues g shape.fields) :=
    fun f g => by simp only [Keyed.keys, Keyed.mapValues, List.map_map, Function.comp_def]
  simp only [Output.object, Output.apply, Shape.map, hws]
  refine ⟨_, rfl, hR.object (List.rel_append hrels ?_)⟩
  simp only [Shape.keys, hkeys j o]
  exact List.forall₂_same.mpr fun _ _ => ⟨rfl, hR.refl _⟩

/-- One entry of a record, once its key and its value are put out. -/
theorem entriesFrom_cons {keyOutput : Option Output} {valueOutput : Output} {depth n : Nat}
    {key : String} {v w w' : Value} {rest ws : List (String × Value)}
    (hkey : (match keyOutput with
      | some o => o.apply ((s.child n).child 0) (.string key) (depth + 1)
      | none => some (.string key)) = some w)
    (hvalue : valueOutput.apply ((s.child n).child 1) v (depth + 1) = some w')
    (hrest : Output.entriesFrom keyOutput valueOutput s depth (n + 1) rest = some ws) :
    Output.entriesFrom keyOutput valueOutput s depth n ((key, v) :: rest)
      = some (if w'.isUndefined then ws else (Record.outputKey key w, w') :: ws) := by
  cases keyOutput with
  | none =>
    cases hkey
    simp only [Output.entriesFrom, hvalue, hrest]
    rfl
  | some o =>
    have hkey' : o.apply ((s.child n).child 0) (.string key) (depth + 1) = some w := hkey
    simp only [Output.entriesFrom, hkey', hvalue, hrest]
    rfl

theorem entriesFrom (hR : Value.Congruence R) {key : Option σ} {k : Judge} {ok : Output}
    (h : ∀ x ∈ key, (o x).Yields R (j x)) (hk : ok.Yields R k)
    {input : List (String × Value)} : ∀ {n : Nat} {l : List Record.Entry},
    Record.judgeEntries (key.map j) k s c n input = some l →
    l.flatMap Record.Entry.issues = [] →
    ∃ ws, Output.entriesFrom (key.map o) ok s c.depth n input = some ws
      ∧ Forall₂ (Keyed.Like R) (l.filterMap Record.Entry.output?) ws := by
  induction input with
  | nil =>
    intro n l hl _
    cases hl
    exact ⟨[], rfl, .nil⟩
  | cons f rest ih =>
    obtain ⟨name, x⟩ := f
    intro n l hl hnone
    obtain ⟨verdict, hv, hl⟩ := Option.bind_eq_some_iff.mp hl
    obtain ⟨verdict', hv', hl⟩ := Option.bind_eq_some_iff.mp hl
    obtain ⟨others, ho, hl⟩ := Option.bind_eq_some_iff.mp hl
    cases hl
    simp only [List.flatMap_cons, Record.Entry.issues, List.append_eq_nil_iff] at hnone
    obtain ⟨out, rfl⟩ := Verdict.eq_ok_of_issues hnone.1.1
    obtain ⟨out', rfl⟩ := Verdict.eq_ok_of_issues hnone.1.2
    obtain ⟨w', hw', hrel'⟩ := hk hv'
    obtain ⟨ws, hws, hrels⟩ := ih ho hnone.2
    have hname : ∃ w, (match key.map o with
        | some o => o.apply ((s.child n).child 0) (.string name) (c.depth + 1)
        | none => some (.string name)) = some w ∧ R out w := by
      cases key with
      | none =>
        cases hv
        exact ⟨_, rfl, hR.refl _⟩
      | some y => exact h y rfl hv
    obtain ⟨w, hw, hrel⟩ := hname
    refine ⟨_, entriesFrom_cons hw hw' hws, ?_⟩
    rw [List.filterMap_cons, Likeness.entryOutput_ok]
    have hkeyed : Record.outputKey name out = Record.outputKey name w := by
      simp only [Record.outputKey, hR.string hrel]
    rw [hR.undefined hrel', hkeyed]
    -- an entry whose value came to undefined is dropped on both sides
    by_cases hundefined : w'.isUndefined = true
    · rw [if_pos hundefined, if_pos hundefined]
      exact hrels
    · rw [if_neg hundefined, if_neg hundefined]
      exact .cons ⟨rfl, hrel'⟩ hrels

theorem record (hR : Value.Congruence R) {key : Option σ} {k : Judge} {ok : Output}
    (limits : Limits) (h : ∀ x ∈ key, (o x).Yields R (j x)) (hk : ok.Yields R k) :
    (Output.record (key.map o) ok).Yields R (Record.judge (key.map j) k limits) := by
  intro s v c out hv
  obtain ⟨id, input, l, rfl, _, hl, hnone, rfl⟩ := Record.judge_eq_ok hv
  obtain ⟨ws, hws, hrels⟩ := entriesFrom hR h hk hl hnone
  simp only [Output.record, Output.apply, hws]
  exact ⟨_, rfl, hR.object (Keyed.ofList_like hrels)⟩

end

/-! ## Arrays, tuples and sets -/

theorem itemsFrom {judgeAt : Nat → Judge} {outputAt : Nat → Output}
    (h : ∀ n, (outputAt n).Yields R (judgeAt n)) {items : List Value} :
    ∀ {n : Nat} {l : List Verdict}, judgeFrom judgeAt s c n items = some l →
    Verdict.allIssues l = [] →
    ∃ ws, Output.itemsFrom outputAt s c.depth n items = some ws
      ∧ Forall₂ R (Verdict.outputs l) ws := by
  induction items with
  | nil =>
    intro n l hl _
    cases hl
    exact ⟨[], rfl, .nil⟩
  | cons x rest ih =>
    intro n l hl hnone
    obtain ⟨verdict, hv, hl⟩ := Option.bind_eq_some_iff.mp hl
    obtain ⟨others, ho, hl⟩ := Option.bind_eq_some_iff.mp hl
    cases hl
    obtain ⟨⟨out, rfl⟩, hnone⟩ := Verdict.allIssues_cons_eq_nil hnone
    obtain ⟨w, hw, hrel⟩ := h n hv
    obtain ⟨ws, hws, hrels⟩ := ih ho hnone
    have happly : (outputAt n).apply (s.child n) x (c.depth + 1) = some w := hw
    simp only [Output.itemsFrom, happly, hws]
    exact ⟨_, rfl, .cons hrel hrels⟩

theorem itemsFrom_same (s : Site) (depth : Nat) (items : List Value) : ∀ n : Nat,
    Output.itemsFrom (fun _ => same) s depth n items = some items := by
  induction items with
  | nil => exact fun _ => rfl
  | cons x rest ih =>
    intro n
    simp only [Output.itemsFrom, Output.apply, ih (n + 1)]
    rfl

theorem array (hR : Value.Congruence R) (b : ArrayBounds) {k : Judge} {o : Output}
    (hid : o.isSame = true → Value.IgnoresIdentity R) (h : o.Yields R k) :
    (Output.array o).Yields R (b.judge k) := by
  intro s v c out hv
  obtain ⟨id, items, l, rfl, _, hl, hnone, rfl⟩ := ArrayBounds.judge_eq_ok hv
  obtain ⟨ws, hws, hrels⟩ := itemsFrom (fun _ => h) hl hnone
  unfold Output.array
  by_cases hsame : o.isSame = true
  · -- the elements are put out as they are, and so is the array
    rw [eq_same hsame, itemsFrom_same] at hws
    cases hws
    rw [if_pos hsame]
    exact ⟨_, rfl, (hid hsame).array hrels⟩
  · rw [if_neg hsame]
    simp only [Output.items, Output.apply, hws]
    exact ⟨_, rfl, hR.array hrels⟩

theorem tuple {σ : Type} {j : σ → Judge} {o : σ → Output} (hR : Value.Congruence R)
    {items : List σ} {rest : Option σ} (limits : Limits)
    (hid : (∀ x ∈ items ++ rest.toList, (o x).isSame = true) → Value.IgnoresIdentity R)
    (h : ∀ x ∈ items ++ rest.toList, (o x).Yields R (j x)) :
    (Output.tuple (items.map o) (rest.map o)).Yields R
      (Tuple.judge (items.map j) (rest.map j) limits) := by
  intro s v c out hv
  obtain ⟨id, elements, l, rfl, _, _, hl, hnone, rfl⟩ := Tuple.judge_eq_ok hv
  -- a position without a child hands its element on
  have hat : ∀ n, ((Tuple.childAt (items.map o) (rest.map o) n).getD same).Yields R
      (Tuple.judgeAt (items.map j) (rest.map j) n) := by
    intro n
    simp only [Tuple.judgeAt, Tuple.childAt_map]
    cases hn : Tuple.childAt items rest n with
    | none =>
      intro s v c out hv
      cases hv
      exact ⟨v, rfl, hR.refl v⟩
    | some x => exact h x (Tuple.mem_of_childAt hn)
  obtain ⟨ws, hws, hrels⟩ := itemsFrom hat hl hnone
  unfold Output.tuple
  by_cases hsame : ((items.map o).all isSame && (rest.map o).all isSame) = true
  · have hall : ∀ x ∈ items ++ rest.toList, (o x).isSame = true := by
      rw [Bool.and_eq_true, List.all_map, List.all_eq_true] at hsame
      intro x hx
      rcases List.mem_append.mp hx with hx | hx
      · exact hsame.1 x hx
      · rw [Option.mem_toList] at hx
        cases hx
        exact hsame.2
    have heach : (fun n => (Tuple.childAt (items.map o) (rest.map o) n).getD same)
        = fun _ => same := by
      funext n
      rw [Tuple.childAt_map]
      cases hn : Tuple.childAt items rest n with
      | none => rfl
      | some x => exact eq_same (hall x (Tuple.mem_of_childAt hn))
    rw [heach, itemsFrom_same] at hws
    cases hws
    rw [if_pos hsame]
    exact ⟨_, rfl, (hid hall).array hrels⟩
  · rw [if_neg hsame]
    simp only [Output.items, Output.apply, hws]
    exact ⟨_, rfl, hR.array hrels⟩

theorem set (hset : Value.KeepsSets R) (b : SetBounds) {k : Judge} {o : Output}
    (h : o.Yields R k) : (Output.set o).Yields R (b.judge k) := by
  intro s v c out hv
  obtain ⟨id, items, l, rfl, _, hl, hnone, rfl⟩ := SetBounds.judge_eq_ok hv
  obtain ⟨ws, hws, hrels⟩ := itemsFrom (fun _ => h) hl hnone
  simp only [Output.set, Output.apply, hws]
  exact ⟨_, rfl, hset hrels⟩

/-! ## Maps -/

theorem pairsFrom {k k' : Judge} {o o' : Output} (h : o.Yields R k) (h' : o'.Yields R k')
    {entries : List (Value × Value)} : ∀ {n : Nat} {l : List (Verdict × Verdict)},
    Dictionary.judgeEntries k k' s c n entries = some l →
    (l.flatMap fun e => e.1.issues ++ e.2.issues) = [] →
    ∃ ws, Output.pairsFrom o o' s c.depth n entries = some ws
      ∧ Forall₂ (Value.EntryLike R) (l.filterMap Dictionary.output?) ws := by
  induction entries with
  | nil =>
    intro n l hl _
    cases hl
    exact ⟨[], rfl, .nil⟩
  | cons e rest ih =>
    obtain ⟨x, y⟩ := e
    intro n l hl hnone
    obtain ⟨verdict, hv, hl⟩ := Option.bind_eq_some_iff.mp hl
    obtain ⟨verdict', hv', hl⟩ := Option.bind_eq_some_iff.mp hl
    obtain ⟨others, ho, hl⟩ := Option.bind_eq_some_iff.mp hl
    cases hl
    simp only [List.flatMap_cons, List.append_eq_nil_iff] at hnone
    obtain ⟨out, rfl⟩ := Verdict.eq_ok_of_issues hnone.1.1
    obtain ⟨out', rfl⟩ := Verdict.eq_ok_of_issues hnone.1.2
    obtain ⟨w, hw, hrel⟩ := h hv
    obtain ⟨w', hw', hrel'⟩ := h' hv'
    obtain ⟨ws, hws, hrels⟩ := ih ho hnone.2
    have happly : o.apply ((s.child n).child 0) x (c.depth + 1) = some w := hw
    have happly' : o'.apply ((s.child n).child 1) y (c.depth + 1) = some w' := hw'
    simp only [Output.pairsFrom, happly, happly', hws]
    exact ⟨_, rfl, .cons ⟨hrel, hrel'⟩ hrels⟩

theorem pairsFrom_same (s : Site) (depth : Nat) (entries : List (Value × Value)) : ∀ n : Nat,
    Output.pairsFrom same same s depth n entries = some entries := by
  induction entries with
  | nil => exact fun _ => rfl
  | cons e rest ih =>
    intro n
    simp only [Output.pairsFrom, Output.apply, ih (n + 1)]
    rfl

theorem map (hR : Value.Congruence R) {k k' : Judge} {o o' : Output} (limits : Limits)
    (hid : o.isSame = true → o'.isSame = true → Value.IgnoresIdentity R)
    (h : o.Yields R k) (h' : o'.Yields R k') :
    (Output.map o o').Yields R (Dictionary.judge k k' limits) := by
  intro s v c out hv
  obtain ⟨id, entries, l, rfl, _, hl, hnone, rfl⟩ := Dictionary.judge_eq_ok hv
  obtain ⟨ws, hws, hrels⟩ := pairsFrom h h' hl hnone
  unfold Output.map
  by_cases hsame : (o.isSame && o'.isSame) = true
  · have hboth := Bool.and_eq_true_iff.mp hsame
    rw [eq_same hboth.1, eq_same hboth.2, pairsFrom_same] at hws
    cases hws
    rw [if_pos hsame]
    exact ⟨_, rfl, (hid hboth.1 hboth.2).map hrels⟩
  · rw [if_neg hsame]
    simp only [Output.apply, hws]
    exact ⟨_, rfl, hR.map hrels⟩

/-! ## Unions -/

section

variable {σ : Type} {j : σ → Judge} {t : σ → Test} {o : σ → Output}

/-- The option that accepts first is the one that passes first. -/
theorem firstPassing? {options : List σ} (h : ∀ x ∈ options, (j x).Agrees (t x)) {v : Value} :
    ∀ {n : Nat} {out : Value},
    Union.firstOutput? s v c n (options.map j) = some (some out) →
    ∃ m x, options[m]? = some x
      ∧ Union.firstPassing? s v c.depth n (options.map t) = some (some (n + m))
      ∧ j x (s.child (n + m)) v c = some (.ok out) := by
  induction options with
  | nil =>
    intro n out hv
    cases hv
  | cons y rest ih =>
    intro n out hv
    simp only [List.forall_mem_cons] at h
    obtain ⟨verdict, hy, hv⟩ := Option.bind_eq_some_iff.mp hv
    have htest : t y (s.child n) v c.depth = some verdict.isOk := h.1 hy
    -- places count from the position of the search, so the hit moves by one with it
    cases verdict with
    | ok output =>
      cases hv
      refine ⟨0, y, rfl, ?_, hy⟩
      simp only [List.map_cons, Union.firstPassing?, htest]
      rfl
    | error e =>
      obtain ⟨m, x, hm, hfirst, hx⟩ := ih h.2 hv
      have hplace : n + 1 + m = n + (m + 1) := by omega
      rw [hplace] at hfirst hx
      refine ⟨m + 1, x, hm, ?_, hx⟩
      simp only [List.map_cons, Union.firstPassing?, htest]
      exact hfirst

theorem union {options : List σ} (hagrees : ∀ x ∈ options, (j x).Agrees (t x))
    (h : ∀ x ∈ options, (o x).Yields R (j x)) :
    (Output.union (options.map t) (options.map o)).Yields R (Union.judge (options.map j)) := by
  intro s v c out hv
  obtain ⟨found, hf, hv⟩ := Option.bind_eq_some_iff.mp hv
  cases found with
  | none => cases hv
  | some output =>
    cases hv
    obtain ⟨m, x, hm, hfirst, hx⟩ := firstPassing? hagrees hf
    rw [Nat.zero_add] at hfirst hx
    simp only [Output.union, Output.apply, hfirst]
    have hat : (options.map o)[m]?.getD same = o x := by
      rw [List.getElem?_map, hm]
      rfl
    show ∃ w, ((options.map o)[m]?.getD same).apply (s.child m) v c.depth = some w ∧ R out w
    rw [hat]
    exact h x (List.mem_of_getElem? hm) hx

theorem tagged (discriminator : String) (literals : List (Option Value)) {options : List σ}
    (h : ∀ x ∈ options, (o x).Yields R (j x)) :
    (Output.tagged discriminator literals (options.map o)).Yields R
      (Tagged.judge discriminator literals (options.map j)) := by
  intro s v c out hv
  obtain ⟨id, fields, n, judge, rfl, hsel, hn, hjudge⟩ := Tagged.judge_eq_ok hv
  rw [List.getElem?_map] at hn
  obtain ⟨x, hx, rfl⟩ := Option.map_eq_some_iff.mp hn
  simp only [Output.tagged, Output.apply, hsel, List.getElem?_map, hx]
  exact h x (List.mem_of_getElem? hx) hjudge

end

/-! ## Modifiers -/

theorem passing {k : Judge} {o : Output} (passes : Value → Bool) (output : Value → Value)
    (hout : ∀ v, passes v = true → output v = v) (hR : Value.Congruence R)
    (h : o.Yields R k) : (o.passing passes).Yields R
      (fun s v c => if passes v then some (.ok (output v)) else k s v c) := by
  intro s v c out hv
  beta_reduce at hv
  unfold Output.passing
  -- what passes is put out as it is, whether the schema inside keeps its input or not
  by_cases hp : passes v = true
  · rw [if_pos hp, hout v hp] at hv
    cases hv
    split
    · exact ⟨v, rfl, hR.refl v⟩
    · exact ⟨v, if_pos hp, hR.refl v⟩
  · rw [if_neg hp] at hv
    obtain ⟨w, hw, hrel⟩ := h hv
    refine ⟨w, ?_, hrel⟩
    split
    · rename_i hsame
      rw [eq_same hsame] at hw
      exact hw
    · exact (if_neg hp).trans hw

theorem modified (hR : Value.Congruence R) {m : Modifier} {k : Judge} {t : Test} {o o' : Output}
    (hagrees : k.Agrees t) (h : o.Yields R k) (ho : Output.modified m t o = some o') :
    o'.Yields R (m.judge .sync k) := by
  cases m with
  | optional =>
    cases ho
    exact passing Value.isUndefined (fun _ => .undefined)
      (fun v hv => by cases v <;> first | rfl | cases hv) hR h
  | nullable =>
    cases ho
    exact passing Value.isNull (fun _ => .null)
      (fun v hv => by cases v <;> first | rfl | cases hv) hR h
  | nullish =>
    cases ho
    exact passing (fun v => v.isUndefined || v.isNull) id (fun _ _ => rfl) hR h
  | default standard =>
    cases ho
    exact fun s v c out hv => h hv
  | fallback replacement =>
    cases ho
    intro s v c out hv
    obtain ⟨verdict, hk, hv⟩ := Option.bind_eq_some_iff.mp hv
    have htest : t s v c.depth = some verdict.isOk := hagrees hk
    simp only [Output.apply, htest]
    cases verdict with
    | ok output =>
      cases hv
      exact h hk
    | error e =>
      cases hv
      exact ⟨replacement, rfl, hR.refl _⟩
  | message text =>
    cases ho
    intro s v c out hv
    obtain ⟨verdict, hk, hv⟩ := Option.map_eq_some_iff.mp hv
    cases verdict with
    | ok output =>
      cases hv
      exact h hk
    | error e => cases hv
  | refineAsync _ _ | transformAsync _ | preprocessAsync _ =>
    cases ho
    exact h
  | refine _ _ | superRefine _ | transform _ | preprocess _ => cases ho

end Yields

end Output

end ValueSchema
