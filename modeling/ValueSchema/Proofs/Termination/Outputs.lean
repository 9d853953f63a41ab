/-
Outputs come to an answer.

A compiled node that has accepted an input puts its output together from the outputs of its
children, one level deeper for a container. What the node has accepted its children have accepted,
so where a child has an output for whatever it accepts, the node has one. And as for judges and
tests, an output that is defined further answers the same.
-/
import ValueSchema.Proofs.Compiled.Fits
import ValueSchema.Proofs.Termination.Tests
import ValueSchema.Proofs.Termination.Extension

set_option autoImplicit false

namespace ValueSchema

open List (Forall₂)

namespace Output

theorem apply_build (f : Site → Value → Nat → Option Value) : (build f).apply = f := rfl

/-- There is an output for every input that a test accepts at a depth. -/
def AnswersFor (o : Output) (t : Test) (depth : Nat) : Prop :=
  ∀ (s : Site) (v : Value), t s v depth = some true → ∃ w, o.apply s v depth = some w

/-- Two outputs share their inputs or build both, and wherever the first one answers, the second
one answers the same. -/
structure Extends (o o' : Output) : Prop where
  same : o.isSame = o'.isSame
  apply : ∀ ⦃s : Site⦄ ⦃v : Value⦄ ⦃depth : Nat⦄ ⦃w : Value⦄, o.apply s v depth = some w →
    o'.apply s v depth = some w

namespace AnswersFor

variable {σ : Type} {t : σ → Test} {o : σ → Output} {s : Site} {depth : Nat}

/-! ## Answers of containers -/

theorem same (t : Test) (depth : Nat) : Output.same.AnswersFor t depth := fun _ v _ => ⟨v, rfl⟩

theorem fieldsFrom {input : List (String × Value)} {fields : List (String × σ)}
    (h : ∀ f ∈ fields, (o f.2).AnswersFor (t f.2) (depth + 1)) : ∀ n : Nat,
    Shape.testFields s depth input n (Keyed.mapValues t fields) = some true →
    ∃ l, fieldsFrom s depth input n (Keyed.mapValues o fields) = some l := by
  induction fields with
  | nil => exact fun _ _ => ⟨[], rfl⟩
  | cons f rest ih =>
    intro n hp
    rw [List.forall_mem_cons] at h
    -- the field and the rest have both passed
    obtain ⟨hfield, hrest⟩ := Test.both_eq_true hp
    obtain ⟨w, hw⟩ := h.1 _ _ hfield
    obtain ⟨l, hl⟩ := ih h.2 (n + 1) hrest
    simp only [Keyed.mapValues, List.map_cons, Output.fieldsFrom] at hl ⊢
    rw [hw, hl]
    exact ⟨_, rfl⟩

theorem object {shape : Shape σ} (h : depth ≤ shape.limits.maxDepth →
      ∀ f ∈ shape.fields, (o f.2).AnswersFor (t f.2) (depth + 1)) :
    (Output.object (shape.map o)).AnswersFor (shape.map t).test depth := by
  intro s v hp
  simp only [Shape.test, Shape.map] at hp
  cases hin : guardedFields? shape.limits depth v with
  | none =>
    rw [hin] at hp
    cases hp
  | some input =>
    rw [hin] at hp
    obtain ⟨⟨id, rfl⟩, hdepth⟩ := guardedFields?_eq_some hin
    obtain ⟨hfields, _⟩ := Test.both_eq_true hp
    obtain ⟨l, hl⟩ := fieldsFrom (h hdepth) 0 hfields
    simp only [Output.object, Shape.map, apply_build]
    rw [hl]
    exact ⟨_, rfl⟩

theorem itemsFrom {testAt : Nat → Test} {outputAt : Nat → Output}
    (h : ∀ n, (outputAt n).AnswersFor (testAt n) (depth + 1)) (items : List Value) : ∀ n : Nat,
    testFrom testAt s depth n items = some true →
    ∃ l, itemsFrom outputAt s depth n items = some l := by
  induction items with
  | nil => exact fun _ _ => ⟨[], rfl⟩
  | cons x rest ih =>
    intro n hp
    obtain ⟨hitem, hrest⟩ := Test.both_eq_true hp
    obtain ⟨w, hw⟩ := h n _ _ hitem
    obtain ⟨l, hl⟩ := ih (n + 1) hrest
    simp only [Output.itemsFrom]
    rw [hw, hl]
    exact ⟨_, rfl⟩

theorem array (b : ArrayBounds) {k : Output} {kt : Test}
    (h : depth ≤ b.limits.maxDepth → k.AnswersFor kt (depth + 1)) :
    (Output.array k).AnswersFor (b.test kt) depth := by
  unfold Output.array
  split
  · exact same _ _
  · intro s v hp
    simp only [ArrayBounds.test] at hp
    cases hin : guardedItems? b.limits depth v with
    | none =>
      rw [hin] at hp
      cases hp
    | some items =>
      simp only [hin] at hp
      obtain ⟨⟨id, rfl⟩, hdepth⟩ := guardedItems?_eq_some hin
      split at hp
      · obtain ⟨l, hl⟩ := itemsFrom (fun _ => h hdepth) items 0 hp
        exact ⟨_, congrArg (Option.map _) hl⟩
      · cases hp

theorem tuple {items : List σ} {rest : Option σ} (limits : Limits)
    (h : depth ≤ limits.maxDepth →
      ∀ x ∈ items ++ rest.toList, (o x).AnswersFor (t x) (depth + 1)) :
    (Output.tuple (items.map o) (rest.map o)).AnswersFor
      (Tuple.test (items.map t) (rest.map t) limits) depth := by
  unfold Output.tuple
  split
  · exact same _ _
  · intro s v hp
    simp only [Tuple.test, Tuple.childAt_map] at hp
    cases hin : guardedItems? limits depth v with
    | none =>
      rw [hin] at hp
      cases hp
    | some elements =>
      simp only [hin] at hp
      obtain ⟨⟨id, rfl⟩, hdepth⟩ := guardedItems?_eq_some hin
      split at hp
      · refine (itemsFrom (fun n => (?_ : ((Tuple.childAt (items.map o) (rest.map o) n).getD
          Output.same).AnswersFor _ (depth + 1))) elements 0 hp).elim fun l hl =>
            ⟨_, congrArg (Option.map _) hl⟩
        rw [Tuple.childAt_map]
        cases hn : Tuple.childAt items rest n with
        | none =>
          intro s v hnone
          cases hnone
        | some x => exact h hdepth x (Tuple.mem_of_childAt hn)
      · cases hp

theorem set (b : SetBounds) {k : Output} {kt : Test}
    (h : depth ≤ b.limits.maxDepth → k.AnswersFor kt (depth + 1)) :
    (Output.set k).AnswersFor (b.test kt) depth := by
  intro s v hp
  cases v with
  | set id items =>
    simp only [SetBounds.test] at hp
    split at hp
    · rename_i hok
      rw [Bool.and_eq_true] at hok
      have hdepth := Guard.depth_le_of_checkDepth (Guard.eq_ok_of_isOk hok.1)
      obtain ⟨l, hl⟩ := itemsFrom (fun _ => h hdepth) items 0 hp
      exact ⟨_, congrArg (Option.map _) hl⟩
    · cases hp
  | _ => cases hp

theorem entriesFrom {key : Option σ} {k : Output} {kt : Test}
    (h : ∀ x ∈ key, (o x).AnswersFor (t x) (depth + 1)) (hk : k.AnswersFor kt (depth + 1))
    (input : List (String × Value)) : ∀ n : Nat,
    Record.testEntries (key.map t) kt s depth n input = some true →
    ∃ l, entriesFrom (key.map o) k s depth n input = some l := by
  induction input with
  | nil => exact fun _ _ => ⟨[], rfl⟩
  | cons f rest ih =>
    obtain ⟨name, x⟩ := f
    intro n hp
    obtain ⟨hkey, hp⟩ := Test.both_eq_true hp
    obtain ⟨hvalue, hrest⟩ := Test.both_eq_true hp
    obtain ⟨w, hw⟩ := hk _ _ hvalue
    obtain ⟨l, hl⟩ := ih (n + 1) hrest
    -- without a key schema the key is put out as it is
    cases key with
    | none => exact ⟨_, Yields.entriesFrom_cons rfl hw hl⟩
    | some y =>
      obtain ⟨w', hw'⟩ := h y rfl _ _ hkey
      exact ⟨_, Yields.entriesFrom_cons hw' hw hl⟩

theorem record {key : Option σ} {k : Output} {kt : Test} (limits : Limits)
    (h : depth ≤ limits.maxDepth → ∀ x ∈ key, (o x).AnswersFor (t x) (depth + 1))
    (hk : depth ≤ limits.maxDepth → k.AnswersFor kt (depth + 1)) :
    (Output.record (key.map o) k).AnswersFor (Record.test (key.map t) kt limits) depth := by
  intro s v hp
  simp only [Record.test] at hp
  cases hin : guardedFields? limits depth v with
  | none =>
    rw [hin] at hp
    cases hp
  | some input =>
    rw [hin] at hp
    obtain ⟨⟨id, rfl⟩, hdepth⟩ := guardedFields?_eq_some hin
    obtain ⟨l, hl⟩ := entriesFrom (h hdepth) (hk hdepth) input 0 hp
    exact ⟨_, congrArg (Option.map _) hl⟩

theorem pairsFrom {k k' : Output} {kt kt' : Test} (h : k.AnswersFor kt (depth + 1))
    (h' : k'.AnswersFor kt' (depth + 1)) (entries : List (Value × Value)) : ∀ n : Nat,
    Dictionary.testEntries kt kt' s depth n entries = some true →
    ∃ l, pairsFrom k k' s depth n entries = some l := by
  induction entries with
  | nil => exact fun _ _ => ⟨[], rfl⟩
  | cons e rest ih =>
    intro n hp
    obtain ⟨hkey, hp⟩ := Test.both_eq_true hp
    obtain ⟨hvalue, hrest⟩ := Test.both_eq_true hp
    obtain ⟨w, hw⟩ := h _ _ hkey
    obtain ⟨w', hw'⟩ := h' _ _ hvalue
    obtain ⟨l, hl⟩ := ih (n + 1) hrest
    simp only [Output.pairsFrom]
    rw [hw, hw', hl]
    exact ⟨_, rfl⟩

theorem map {k k' : Output} {kt kt' : Test} (limits : Limits)
    (h : depth ≤ limits.maxDepth → k.AnswersFor kt (depth + 1))
    (h' : depth ≤ limits.maxDepth → k'.AnswersFor kt' (depth + 1)) :
    (Output.map k k').AnswersFor (Dictionary.test kt kt' limits) depth := by
  unfold Output.map
  split
  · exact same _ _
  · intro s v hp
    cases v with
    | map id entries =>
      simp only [Dictionary.test] at hp
      split at hp
      · have hdepth := Guard.depth_le_of_checkDepth (Guard.eq_ok_of_isOk ‹_›)
        obtain ⟨l, hl⟩ := pairsFrom (h hdepth) (h' hdepth) entries 0 hp
        exact ⟨_, congrArg (Option.map _) hl⟩
      · cases hp
    | _ => cases hp

/-! ## Answers of choices and modifiers -/

/-- The option that is found has passed. -/
theorem firstPassing? {options : List σ} {v : Value} : ∀ {n m : Nat},
    Union.firstPassing? s v depth n (options.map t) = some (some m) →
    ∃ x, m < n + options.length ∧ n ≤ m ∧ options[m - n]? = some x
      ∧ t x (s.child m) v depth = some true := by
  induction options with
  | nil => exact fun h => nomatch h
  | cons y rest ih =>
    intro n m hm
    obtain ⟨passed, hp, hm⟩ := Option.bind_eq_some_iff.mp hm
    cases passed with
    | true =>
      cases hm
      refine ⟨y, by simp, Nat.le_refl n, by simp, hp⟩
    | false =>
      obtain ⟨x, hlt, hle, hx, htest⟩ := ih hm
      obtain ⟨k, rfl⟩ : ∃ k, m = n + 1 + k := ⟨m - (n + 1), by omega⟩
      refine ⟨x, by simp only [List.length_cons]; omega, by omega, ?_, htest⟩
      have hsub : n + 1 + k - n = k + 1 := by omega
      have hsub' : n + 1 + k - (n + 1) = k := by omega
      rw [hsub'] at hx
      rw [hsub, List.getElem?_cons_succ, hx]

theorem union {options : List σ} (h : ∀ x ∈ options, (o x).AnswersFor (t x) depth) :
    (Output.union (options.map t) (options.map o)).AnswersFor (Union.test (options.map t))
      depth := by
  intro s v hp
  obtain ⟨found, hf, hsome⟩ := Option.map_eq_some_iff.mp hp
  obtain ⟨m, rfl⟩ := Option.isSome_iff_exists.mp hsome
  obtain ⟨x, _, _, hx, htest⟩ := firstPassing? hf
  rw [Nat.sub_zero] at hx
  obtain ⟨w, hw⟩ := h x (List.mem_of_getElem? hx) _ _ htest
  refine ⟨w, ?_⟩
  simp only [Output.union, apply_build]
  rw [hf]
  show ((options.map o)[m]?.getD Output.same).apply (s.child m) v depth = some w
  rw [List.getElem?_map, hx]
  exact hw

theorem tagged (discriminator : String) (literals : List (Option Value)) {options : List σ}
    (h : ∀ x ∈ options, (o x).AnswersFor (t x) depth) :
    (Output.tagged discriminator literals (options.map o)).AnswersFor
      (Tagged.test discriminator literals (options.map t)) depth := by
  intro s v hp
  cases v with
  | object id fields =>
    simp only [Tagged.test, List.getElem?_map] at hp
    simp only [Output.tagged, apply_build, List.getElem?_map]
    cases hsel : Tagged.select? discriminator literals fields with
    | none =>
      rw [hsel] at hp
      cases hp
    | some n =>
      rw [hsel, Option.bind_some] at hp
      cases hn : options[n]? with
      | none =>
        rw [hn] at hp
        cases hp
      | some x =>
        rw [hn] at hp
        dsimp only
        rw [hn]
        exact h x (List.mem_of_getElem? hn) _ _ hp
  | _ => cases hp

theorem passing (passes : Value → Bool) {k : Output} {kt : Test} (h : k.AnswersFor kt depth) :
    (k.passing passes).AnswersFor (fun s v depth => if passes v then some true else kt s v depth)
      depth := by
  unfold Output.passing
  split
  · exact same _ _
  · intro s v hp
    simp only [apply_build]
    split
    · exact ⟨v, rfl⟩
    · rename_i hv
      exact h s v ((if_neg hv).symm.trans hp)

theorem modified {m : Modifier} {k k' : Output} {kt : Test} {full : Judge}
    (h : k.AnswersFor kt depth) (ht : kt.Answers depth) (hk : Output.modified m kt k = some k') :
    k'.AnswersFor (m.test kt full) depth := by
  cases m with
  | optional =>
    cases hk
    exact passing Value.isUndefined h
  | nullable =>
    cases hk
    exact passing Value.isNull h
  | nullish =>
    cases hk
    exact passing (fun v => v.isUndefined || v.isNull) h
  | default standard =>
    cases hk
    exact fun s _ hp => h s _ hp
  | fallback replacement =>
    cases hk
    intro s v _
    -- what the schema inside rejects has the replacement for an output
    obtain ⟨passed, hp⟩ := ht s v
    simp only [apply_build]
    rw [hp]
    cases passed with
    | true => exact h s v hp
    | false => exact ⟨replacement, rfl⟩
  | message _ | refineAsync _ _ | transformAsync _ | preprocessAsync _ =>
    cases hk
    exact h
  | refine _ _ | superRefine _ | transform _ | preprocess _ => cases hk

end AnswersFor

namespace Extends

variable {o o' k k' : Output} {s : Site} {depth : Nat}

theorem refl (o : Output) : o.Extends o := ⟨rfl, fun _ _ _ _ h => h⟩

/-- What is built in both ways is told by what is built. -/
theorem build {f f' : Site → Value → Nat → Option Value}
    (h : ∀ s v depth w, f s v depth = some w → f' s v depth = some w) :
    (Output.build f).Extends (Output.build f') :=
  ⟨rfl, h⟩

/-! ## Extended containers -/

theorem fieldsFrom {input : List (String × Value)} {fields fields' : List (String × Output)}
    (h : Forall₂ (Keyed.Like Extends) fields fields') : ∀ {n : Nat} {l : List (String × Value)},
    fieldsFrom s depth input n fields = some l →
    Output.fieldsFrom s depth input n fields' = some l := by
  induction h with
  | nil => exact id
  | @cons f f' _ _ head _ ih =>
    obtain ⟨name, o⟩ := f
    obtain ⟨name', o'⟩ := f'
    obtain ⟨hname, ho⟩ := head
    simp only at hname ho
    subst hname
    intro n l hl
    obtain ⟨w, hw, hl⟩ := Option.bind_eq_some_iff.mp hl
    obtain ⟨others, hothers, hl⟩ := Option.bind_eq_some_iff.mp hl
    simp only [Output.fieldsFrom]
    rw [ho.apply hw, ih hothers]
    exact hl

theorem object {fields fields' : List (String × Output)}
    (h : Forall₂ (Keyed.Like Extends) fields fields') (unknown : UnknownKeys) (limits : Limits) :
    (Output.object ⟨fields, unknown, limits⟩).Extends
      (Output.object ⟨fields', unknown, limits⟩) := by
  refine build fun s v depth w hw => ?_
  cases v with
  | object id input =>
    obtain ⟨l, hl, hw⟩ := Option.bind_eq_some_iff.mp hw
    have hkeys : Keyed.keys fields = Keyed.keys fields' := Keyed.keys_eq_of_like h
    simp only [Shape.keys, hkeys] at hw ⊢
    rw [fieldsFrom h hl]
    exact hw
  | _ => exact hw

theorem itemsFrom {outputAt outputAt' : Nat → Output} (h : ∀ n, (outputAt n).Extends (outputAt' n))
    {items : List Value} : ∀ {n : Nat} {l : List Value},
    itemsFrom outputAt s depth n items = some l →
    Output.itemsFrom outputAt' s depth n items = some l := by
  induction items with
  | nil => exact id
  | cons x rest ih =>
    intro n l hl
    obtain ⟨w, hw, hl⟩ := Option.bind_eq_some_iff.mp hl
    obtain ⟨others, hothers, hl⟩ := Option.bind_eq_some_iff.mp hl
    simp only [Output.itemsFrom]
    rw [(h n).apply hw, ih hothers]
    exact hl

theorem items {outputAt outputAt' : Nat → Output} (h : ∀ n, (outputAt n).Extends (outputAt' n)) :
    (Output.items outputAt).Extends (Output.items outputAt') := by
  refine build fun s v depth w hw => ?_
  cases v with
  | array id elements =>
    obtain ⟨l, hl, rfl⟩ := Option.map_eq_some_iff.mp hw
    exact congrArg (Option.map _) (itemsFrom h hl)
  | _ => exact hw

theorem array (h : o.Extends o') : (Output.array o).Extends (Output.array o') := by
  unfold Output.array
  rw [← h.same]
  split
  · exact refl _
  · exact items fun _ => h

theorem all_isSame {l l' : List Output} (h : Forall₂ Extends l l') :
    l.all isSame = l'.all isSame := by
  induction h with
  | nil => rfl
  | cons head _ ih => rw [List.all_cons, List.all_cons, head.same, ih]

theorem getElem? {l l' : List Output} (h : Forall₂ Extends l l') : ∀ n : Nat,
    Option.Rel Extends l[n]? l'[n]? := by
  induction h with
  | nil => exact fun _ => .none
  | cons head _ ih =>
    intro n
    cases n with
    | zero => exact .some head
    | succ n => exact ih n

theorem getD {a b : Option Output} (h : Option.Rel Extends a b) :
    (a.getD Output.same).Extends (b.getD Output.same) := by
  cases h with
  | none => exact refl _
  | some h => exact h

theorem childAt {l l' : List Output} {rest rest' : Option Output} (h : Forall₂ Extends l l')
    (hrest : Option.Rel Extends rest rest') (n : Nat) :
    Option.Rel Extends (Tuple.childAt l rest n) (Tuple.childAt l' rest' n) := by
  unfold Tuple.childAt
  rcases (getElem? h n).eq_or with ⟨hx, hy⟩ | ⟨x, y, hx, hy, hxy⟩
  · rw [hx, hy]
    exact hrest
  · rw [hx, hy]
    exact .some hxy

theorem tuple {l l' : List Output} {rest rest' : Option Output} (h : Forall₂ Extends l l')
    (hrest : Option.Rel Extends rest rest') :
    (Output.tuple l rest).Extends (Output.tuple l' rest') := by
  have hsame : rest.all isSame = rest'.all isSame := by
    cases hrest with
    | none => rfl
    | some h => exact h.same
  unfold Output.tuple
  rw [all_isSame h, hsame]
  split
  · exact refl _
  · exact items fun n => getD (childAt h hrest n)

theorem set (h : o.Extends o') : (Output.set o).Extends (Output.set o') := by
  refine build fun s v depth w hw => ?_
  cases v with
  | set id elements =>
    obtain ⟨l, hl, rfl⟩ := Option.map_eq_some_iff.mp hw
    exact congrArg (Option.map _) (itemsFrom (fun _ => h) hl)
  | _ => exact hw

theorem entriesFrom {key key' : Option Output} (h : Option.Rel Extends key key')
    (hk : k.Extends k') {input : List (String × Value)} :
    ∀ {n : Nat} {l : List (String × Value)}, entriesFrom key k s depth n input = some l →
    Output.entriesFrom key' k' s depth n input = some l := by
  induction input with
  | nil => exact id
  | cons f rest ih =>
    obtain ⟨name, x⟩ := f
    intro n l hl
    cases h with
    | none =>
      -- without a key schema the key is there at once
      obtain ⟨w, hw, hl⟩ := Option.bind_eq_some_iff.mp hl
      obtain ⟨others, hothers, hl⟩ := Option.bind_eq_some_iff.mp hl
      cases hl
      exact Yields.entriesFrom_cons rfl (hk.apply hw) (ih hothers)
    | some ho =>
      obtain ⟨renamed, hr, hl⟩ := Option.bind_eq_some_iff.mp hl
      obtain ⟨w, hw, hl⟩ := Option.bind_eq_some_iff.mp hl
      obtain ⟨others, hothers, hl⟩ := Option.bind_eq_some_iff.mp hl
      cases hl
      exact Yields.entriesFrom_cons (ho.apply hr) (hk.apply hw) (ih hothers)

theorem record {key key' : Option Output} (h : Option.Rel Extends key key') (hk : k.Extends k') :
    (Output.record key k).Extends (Output.record key' k') := by
  refine build fun s v depth w hw => ?_
  cases v with
  | object id input =>
    obtain ⟨l, hl, rfl⟩ := Option.map_eq_some_iff.mp hw
    exact congrArg (Option.map _) (entriesFrom h hk hl)
  | _ => exact hw

theorem pairsFrom (h : o.Extends o') (h' : k.Extends k') {entries : List (Value × Value)} :
    ∀ {n : Nat} {l : List (Value × Value)}, pairsFrom o k s depth n entries = some l →
    Output.pairsFrom o' k' s depth n entries = some l := by
  induction entries with
  | nil => exact id
  | cons e rest ih =>
    intro n l hl
    obtain ⟨w, hw, hl⟩ := Option.bind_eq_some_iff.mp hl
    obtain ⟨w', hw', hl⟩ := Option.bind_eq_some_iff.mp hl
    obtain ⟨others, hothers, hl⟩ := Option.bind_eq_some_iff.mp hl
    simp only [Output.pairsFrom]
    rw [h.apply hw, h'.apply hw', ih hothers]
    exact hl

theorem map (h : o.Extends o') (h' : k.Extends k') :
    (Output.map o k).Extends (Output.map o' k') := by
  unfold Output.map
  rw [← h.same, ← h'.same]
  split
  · exact refl _
  · refine build fun s v depth w hw => ?_
    cases v with
    | map id entries =>
      obtain ⟨l, hl, rfl⟩ := Option.map_eq_some_iff.mp hw
      exact congrArg (Option.map _) (pairsFrom h h' hl)
    | _ => exact hw

/-! ## Extended choices and modifiers -/

theorem union {σ : Type} {t t' : σ → Test} {options : List σ}
    (ht : ∀ x ∈ options, (t x).Extends (t' x)) {l l' : List Output} (h : Forall₂ Extends l l') :
    (Output.union (options.map t) l).Extends (Output.union (options.map t') l') := by
  refine build fun s v depth w hw => ?_
  obtain ⟨found, hf, hw⟩ := Option.bind_eq_some_iff.mp hw
  rw [Test.Extends.firstPassing? ht hf]
  cases found with
  | none => exact hw
  | some n => exact (getD (getElem? h n)).apply hw

theorem tagged (discriminator : String) (literals : List (Option Value)) {l l' : List Output}
    (h : Forall₂ Extends l l') :
    (Output.tagged discriminator literals l).Extends (Output.tagged discriminator literals l') := by
  refine build fun s v depth w hw => ?_
  cases v with
  | object id fields =>
    dsimp only at hw ⊢
    cases hsel : Tagged.select? discriminator literals fields with
    | none =>
      rw [hsel] at hw
      exact hw
    | some n =>
      rw [hsel] at hw
      exact (getD (getElem? h n)).apply hw
  | _ => exact hw

theorem passing (passes : Value → Bool) (h : o.Extends o') :
    (o.passing passes).Extends (o'.passing passes) := by
  unfold Output.passing
  rw [← h.same]
  split
  · exact refl _
  · refine build fun s v depth w hw => ?_
    split at hw
    · rwa [if_pos ‹_›]
    · rw [if_neg ‹_›]
      exact h.apply hw

theorem modified (m : Modifier) {t t' : Test} (ht : t.Extends t') (h : o.Extends o') :
    Option.Rel Extends (Output.modified m t o) (Output.modified m t' o') := by
  cases m with
  | optional => exact .some (passing _ h)
  | nullable => exact .some (passing _ h)
  | nullish => exact .some (passing _ h)
  | default standard => exact .some (build fun _ _ _ _ hw => h.apply hw)
  | fallback replacement =>
    refine .some (build fun s v depth w hw => ?_)
    obtain ⟨passed, hp, hw⟩ := Option.bind_eq_some_iff.mp hw
    rw [ht hp]
    cases passed with
    | true => exact h.apply hw
    | false => exact hw
  | message _ | refineAsync _ _ | transformAsync _ | preprocessAsync _ => exact .some h
  | refine _ _ | superRefine _ | transform _ | preprocess _ => exact .none

end Extends

/-- The outputs of all are there on both sides or on neither. -/
theorem all?_extends {l l' : List (Option Output)} (h : Forall₂ (Option.Rel Extends) l l') :
    Option.Rel (Forall₂ Extends) (all? l) (all? l') := by
  induction h with
  | nil => exact .some .nil
  | cons head _ ih =>
    cases head with
    | none => exact .none
    | some ho => exact ih.map fun _ _ htail => .cons ho htail

end Output

end ValueSchema
