/-
Tests of containers agree with judges.

A judge collects everything there is to say, a test stops at the first part that decides, and the
two were written apart. They agree when the test answers yes exactly where the judge accepts.
Whenever the judge of a container comes to a verdict, all its parts did, so a test that goes
through the same parts and stops early comes to the same answer.
-/
import ValueSchema.Proofs.Likeness.Containers

set_option autoImplicit false

namespace ValueSchema

/-- Whenever the judge comes to a verdict, the test tells whether it accepts. -/
def Judge.Agrees (j : Judge) (t : Test) : Prop :=
  ∀ ⦃s : Site⦄ ⦃v : Value⦄ ⦃c : Context⦄ ⦃verdict : Verdict⦄,
    j s v c = some verdict → t s v c.depth = some verdict.isOk

/-! ## Verdicts and tests in order -/

theorem isEmpty_append {α : Type} (l m : List α) :
    (l ++ m).isEmpty = (l.isEmpty && m.isEmpty) := by
  cases l <;> rfl

namespace Verdict

theorem isEmpty_issues (v : Verdict) : v.issues.isEmpty = v.isOk := by
  cases v <;> rfl

theorem isEmpty_allIssues (l : List Verdict) :
    (allIssues l).isEmpty = l.all fun v => v.isOk := by
  induction l with
  | nil => rfl
  | cons v rest ih =>
    simp only [allIssues, List.flatMap_cons, List.all_cons] at ih ⊢
    rw [isEmpty_append, isEmpty_issues, ih]

theorem isOk_finish (issues : List Issue) (output : Value) :
    (finish issues output).isOk = issues.isEmpty := by
  cases issues <;> rfl

end Verdict

theorem Test.both_some (a : Bool) {b : Bool} {second : Unit → Option Bool}
    (h : second () = some b) : Test.both (some a) second = some (a && b) := by
  cases a with
  | true => exact h
  | false => rfl

namespace Judge.Agrees

variable {s : Site} {c : Context}

/-! ## The guard -/

theorem guardedFields?_eq (limits : Limits) (c : Context) (v : Value) :
    guardedFields? limits c.depth v = (guardedFields limits c v).toOption := by
  cases v with
  | object id fields =>
    simp only [guardedFields?, guardedFields]
    -- the guard of the test forgets why it refuses
    cases Guard.checkObject (Keyed.keys fields) c.depth limits <;> rfl
  | _ => rfl

theorem guardedItems?_eq (limits : Limits) (c : Context) (v : Value) :
    guardedItems? limits c.depth v = (guardedItems limits c v).toOption := by
  cases v with
  | array id items =>
    simp only [guardedItems?, guardedItems]
    cases Guard.checkDepth c.depth limits <;> rfl
  | _ => rfl

/-- The scan of a value that stands anywhere finds nothing exactly if its test passes. -/
def ScanAgrees (limits : Limits) (v : Value) : Prop :=
  ∀ c : Context, Guard.scanAccepts limits c.depth v = (Guard.scan limits c v).isNone

theorem scanItems_isNone {limits : Limits} {items : List Value}
    (h : ∀ x ∈ items, ScanAgrees limits x) (c : Context) : ∀ n : Nat,
    Guard.scanAcceptsItems limits c.depth items = (Guard.scanItems limits c n items).isNone := by
  induction items with
  | nil => exact fun _ => rfl
  | cons x rest ih =>
    intro n
    simp only [List.forall_mem_cons] at h
    -- an element stands one level below, wherever that is
    have hx : Guard.scanAccepts limits (c.depth + 1) x
        = (Guard.scan limits (c.childIndex n) x).isNone := h.1 (c.childIndex n)
    simp only [Guard.scanAcceptsItems, Guard.scanItems]
    rw [hx, ih h.2 (n + 1)]
    cases Guard.scan limits (c.childIndex n) x <;> rfl

theorem scanFields_isNone {limits : Limits} {fields : List (String × Value)}
    (h : ∀ f ∈ fields, ScanAgrees limits f.2) (c : Context) :
    Guard.scanAcceptsFields limits c.depth fields = (Guard.scanFields limits c fields).isNone := by
  induction fields with
  | nil => rfl
  | cons f rest ih =>
    obtain ⟨key, x⟩ := f
    simp only [List.forall_mem_cons] at h
    have hx : Guard.scanAccepts limits (c.depth + 1) x
        = (Guard.scan limits (c.childKey key) x).isNone := h.1 (c.childKey key)
    simp only [Guard.scanAcceptsFields, Guard.scanFields]
    rw [hx, ih h.2]
    cases Guard.scan limits (c.childKey key) x <;> rfl

theorem scanEntries_isNone {limits : Limits} {entries : List (Value × Value)}
    (h : ∀ e ∈ entries, ScanAgrees limits e.1 ∧ ScanAgrees limits e.2) (c : Context) :
    ∀ n : Nat, Guard.scanAcceptsEntries limits c.depth entries
      = (Guard.scanEntries limits c n entries).isNone := by
  induction entries with
  | nil => exact fun _ => rfl
  | cons e rest ih =>
    obtain ⟨k, x⟩ := e
    intro n
    simp only [List.forall_mem_cons] at h
    -- key and value stand on one level below the map
    have hk : Guard.scanAccepts limits (c.depth + 1) k
        = (Guard.scan limits ((c.childIndex n).atKey "key") k).isNone :=
      h.1.1 ((c.childIndex n).atKey "key")
    have hx : Guard.scanAccepts limits (c.depth + 1) x
        = (Guard.scan limits ((c.childIndex n).atKey "value") x).isNone :=
      h.1.2 ((c.childIndex n).atKey "value")
    simp only [Guard.scanAcceptsEntries, Guard.scanEntries]
    rw [hk, hx, ih h.2 (n + 1)]
    cases Guard.scan limits ((c.childIndex n).atKey "key") k with
    | some _ => rfl
    | none => cases Guard.scan limits ((c.childIndex n).atKey "value") x <;> rfl

theorem scan_isNone (limits : Limits) (v : Value) : ScanAgrees limits v := by
  induction v using Value.induction with
  | node v ih =>
    intro c
    -- the container is checked first on both sides, then its parts in one order
    cases v with
    | object id fields =>
      have hparts : ∀ f ∈ fields, ScanAgrees limits f.2 := Value.forall_mem_parts_object.mp ih
      simp only [Guard.scanAccepts, Guard.scan, scanFields_isNone hparts]
      cases Guard.checkObject (Keyed.keys fields) c.depth limits <;> rfl
    | array id items =>
      have hparts : ∀ x ∈ items, ScanAgrees limits x := ih
      simp only [Guard.scanAccepts, Guard.scan, scanItems_isNone hparts c 0]
      cases Guard.checkDepth c.depth limits <;> rfl
    | set id items =>
      have hparts : ∀ x ∈ items, ScanAgrees limits x := ih
      simp only [Guard.scanAccepts, Guard.scan, scanItems_isNone hparts c 0]
      cases Guard.checkDepth c.depth limits <;> rfl
    | map id entries =>
      have hparts : ∀ e ∈ entries, ScanAgrees limits e.1 ∧ ScanAgrees limits e.2 :=
        Value.forall_mem_parts_map.mp ih
      simp only [Guard.scanAccepts, Guard.scan, scanEntries_isNone hparts c 0]
      cases Guard.checkDepth c.depth limits <;> rfl
    | _ => rfl

/-- The treatment of unknown keys lets through exactly what it finds nothing wrong with. -/
theorem unknown_isEmpty (u : UnknownKeys) (limits : Limits) (c : Context)
    (extra : List (String × Value)) :
    u.accepts limits c.depth extra = (u.issues limits c extra).isEmpty := by
  cases u with
  | strip => rfl
  | strict => cases extra <;> rfl
  | passthrough =>
    simp only [UnknownKeys.accepts, UnknownKeys.issues]
    induction extra with
    | nil => rfl
    | cons f rest ih =>
      have hf : Guard.scanAccepts limits (c.depth + 1) f.2
          = (Guard.scan limits (c.childKey f.1) f.2).isNone :=
        scan_isNone limits f.2 (c.childKey f.1)
      -- the scan of a field finds an issue, or nothing is added to the list
      rw [List.all_cons, List.filterMap_cons, hf, ih]
      cases Guard.scan limits (c.childKey f.1) f.2 <;> rfl

/-! ## Objects -/

section

variable {σ : Type} {j : σ → Judge} {t : σ → Test}

theorem testFields_of_judgeFields {input : List (String × Value)} {fields : List (String × σ)}
    (h : ∀ f ∈ fields, (j f.2).Agrees (t f.2)) : ∀ {n : Nat} {l : List (String × Verdict)},
    Shape.judgeFields s c input n (Keyed.mapValues j fields) = some l →
    Shape.testFields s c.depth input n (Keyed.mapValues t fields)
      = some (l.all fun e => e.2.isOk) := by
  induction fields with
  | nil =>
    intro n l hl
    cases hl
    rfl
  | cons f rest ih =>
    intro n l hl
    simp only [List.forall_mem_cons] at h
    obtain ⟨verdict, hv, hl⟩ := Option.bind_eq_some_iff.mp hl
    obtain ⟨others, ho, hl⟩ := Option.bind_eq_some_iff.mp hl
    cases hl
    -- the judge has answered on every field, so the test may stop or go on
    have hfield : t f.2 (s.child n) (fieldOr f.1 input) (c.depth + 1) = some verdict.isOk :=
      h.1 hv
    simp only [Keyed.mapValues, List.map_cons, List.all_cons, Shape.testFields] at ih ⊢
    rw [hfield]
    exact Test.both_some _ (ih h.2 ho)

theorem object {shape : Shape σ} (h : ∀ f ∈ shape.fields, (j f.2).Agrees (t f.2)) :
    (shape.map j).judge.Agrees (shape.map t).test := by
  intro s v c verdict hv
  have hkeys : (shape.map j).keys = (shape.map t).keys := by
    simp only [Shape.keys, Keyed.keys, Shape.map, Keyed.mapValues, List.map_map,
      Function.comp_def]
  simp only [Shape.judge, Shape.test, Shape.map, guardedFields?_eq] at hv ⊢
  cases hin : guardedFields shape.limits c v with
  | error i =>
    rw [hin] at hv
    cases hv
    rfl
  | ok input =>
    rw [hin] at hv
    obtain ⟨l, hl, hv⟩ := Option.bind_eq_some_iff.mp hv
    cases hv
    -- no issue among the fields means that every field was accepted
    have hall : (Verdict.allIssues (l.map Prod.snd)).isEmpty = l.all fun e => e.2.isOk := by
      rw [Verdict.isEmpty_allIssues, List.all_map]
      rfl
    simp only [Except.toOption, testFields_of_judgeFields h hl]
    rw [Test.both_some _ rfl, Verdict.isOk_finish, isEmpty_append, hall, unknown_isEmpty]
    simp only [Shape.map] at hkeys
    rw [hkeys]

end

/-! ## Arrays, tuples and sets -/

/-- Only the positions that are asked for matter, as a tuple has no child beyond its size. -/
theorem testFrom_of_judgeFrom {judgeAt : Nat → Judge} {testAt : Nat → Test}
    {items : List Value} : ∀ {n : Nat} {l : List Verdict},
    (∀ m, n ≤ m → m < n + items.length → (judgeAt m).Agrees (testAt m)) →
    judgeFrom judgeAt s c n items = some l →
    testFrom testAt s c.depth n items = some (l.all fun verdict => verdict.isOk) := by
  induction items with
  | nil =>
    intro n l _ hl
    cases hl
    rfl
  | cons x rest ih =>
    intro n l h hl
    obtain ⟨verdict, hv, hl⟩ := Option.bind_eq_some_iff.mp hl
    obtain ⟨others, ho, hl⟩ := Option.bind_eq_some_iff.mp hl
    cases hl
    rw [List.length_cons] at h
    -- the test of an element is asked at the depth of its context
    have hitem : testAt n (s.child n) x (c.depth + 1) = some verdict.isOk :=
      h n (Nat.le_refl n) (by omega) hv
    simp only [testFrom, List.all_cons]
    rw [hitem]
    exact Test.both_some _ (ih (fun m hm hm' => h m (by omega) (by omega)) ho)

/-- The elements of a container that is well formed decide about it. -/
theorem testAll_of_judgeAll {judgeAt : Nat → Judge} {testAt : Nat → Test} {items : List Value}
    (h : ∀ n, n < items.length → (judgeAt n).Agrees (testAt n))
    {build : List Value → Value} {verdict : Verdict}
    (hv : (do
      let verdicts ← judgeAll judgeAt s c items
      some (Verdict.finish (Verdict.allIssues verdicts) (build (Verdict.outputs verdicts))))
        = some verdict) :
    testAll testAt s c.depth items = some verdict.isOk := by
  obtain ⟨l, hl, hv⟩ := Option.bind_eq_some_iff.mp hv
  cases hv
  rw [Verdict.isOk_finish, Verdict.isEmpty_allIssues]
  exact testFrom_of_judgeFrom (fun m _ hm => h m (by omega)) hl

theorem array (b : ArrayBounds) {j : Judge} {t : Test} (h : j.Agrees t) :
    (b.judge j).Agrees (b.test t) := by
  intro s v c verdict hv
  simp only [ArrayBounds.judge, ArrayBounds.test, guardedItems?_eq] at hv ⊢
  cases hin : guardedItems b.limits c v with
  | error i =>
    rw [hin] at hv
    cases hv
    rfl
  | ok items =>
    simp only [hin] at hv
    simp only [Except.toOption]
    cases hf : b.fault? items with
    | some fault =>
      rw [hf] at hv
      cases hv
      rfl
    | none =>
      rw [hf] at hv
      exact testAll_of_judgeAll (fun _ _ => h) hv

section

variable {σ : Type}

theorem tuple {j : σ → Judge} {t : σ → Test} {items : List σ} {rest : Option σ}
    (limits : Limits) (h : ∀ x ∈ items ++ rest.toList, (j x).Agrees (t x)) :
    Judge.Agrees (Tuple.judge (items.map j) (rest.map j) limits)
      (Tuple.test (items.map t) (rest.map t) limits) := by
  intro s v c verdict hv
  simp only [Tuple.judge, Tuple.test, guardedItems?_eq, List.length_map, Option.isSome_map,
    Tuple.childAt_map] at hv ⊢
  cases hin : guardedItems limits c v with
  | error i =>
    rw [hin] at hv
    cases hv
    rfl
  | ok elements =>
    simp only [hin] at hv
    simp only [Except.toOption]
    cases hf : Tuple.fault? items.length rest.isSome elements.length with
    | some fault =>
      rw [hf] at hv
      cases hv
      rfl
    | none =>
      rw [hf] at hv
      refine testAll_of_judgeAll (fun n hn => ?_) hv
      obtain ⟨x, hx⟩ := Tuple.exists_childAt hf hn
      rw [hx]
      exact h x (Tuple.mem_of_childAt hx)

end

theorem setFault_isNone (b : SetBounds) (c : Context) (size : Nat) :
    (b.fault? c size).isNone = b.allows size := by
  unfold SetBounds.fault? SetBounds.allows
  cases brokenBound? (fun n => decide (size < n)) b.min with
  | some n => rfl
  | none => cases brokenBound? (fun n => decide (n < size)) b.max <;> rfl

theorem set (b : SetBounds) {j : Judge} {t : Test} (h : j.Agrees t) :
    (b.judge j).Agrees (b.test t) := by
  intro s v c verdict hv
  cases v with
  | set id items =>
    -- a set is within its bounds exactly if there is no fault to report
    simp only [SetBounds.judge, SetBounds.test, ← setFault_isNone b c] at hv ⊢
    cases hd : Guard.checkDepth c.depth b.limits with
    | error r =>
      rw [hd] at hv
      cases hv
      rfl
    | ok _ =>
      simp only [hd] at hv
      cases hf : b.fault? c items.length with
      | some i =>
        rw [hf] at hv
        cases hv
        rfl
      | none =>
        rw [hf] at hv
        exact testAll_of_judgeAll (fun _ _ => h) hv
  | _ =>
    cases hv
    rfl

/-! ## Records and maps -/

section

variable {σ : Type} {j : σ → Judge} {t : σ → Test} {k : Judge} {u : Test}

theorem testEntries_of_judgeEntries {key : Option σ} (h : ∀ x ∈ key, (j x).Agrees (t x))
    (hk : k.Agrees u) {input : List (String × Value)} : ∀ {n : Nat} {l : List Record.Entry},
    Record.judgeEntries (key.map j) k s c n input = some l →
    Record.testEntries (key.map t) u s c.depth n input
      = some (l.flatMap Record.Entry.issues).isEmpty := by
  induction input with
  | nil =>
    intro n l hl
    cases hl
    rfl
  | cons f rest ih =>
    obtain ⟨name, x⟩ := f
    intro n l hl
    obtain ⟨verdict, hv, hl⟩ := Option.bind_eq_some_iff.mp hl
    obtain ⟨verdict', hv', hl⟩ := Option.bind_eq_some_iff.mp hl
    obtain ⟨others, ho, hl⟩ := Option.bind_eq_some_iff.mp hl
    cases hl
    -- without a key schema every key is accepted and passes
    have hname : Record.testKey (key.map t) ((s.child n).child 0) name (c.depth + 1)
        = some verdict.isOk := by
      cases key with
      | none =>
        cases hv
        rfl
      | some y => exact h y rfl hv
    have hvalue : u ((s.child n).child 1) x (c.depth + 1) = some verdict'.isOk := hk hv'
    simp only [Record.testEntries, List.flatMap_cons, Record.Entry.issues]
    rw [hname, hvalue, isEmpty_append, isEmpty_append, Verdict.isEmpty_issues,
      Verdict.isEmpty_issues, Bool.and_assoc]
    exact Test.both_some _ (Test.both_some _ (ih ho))

theorem record {key : Option σ} (limits : Limits) (h : ∀ x ∈ key, (j x).Agrees (t x))
    (hk : k.Agrees u) :
    Judge.Agrees (Record.judge (key.map j) k limits) (Record.test (key.map t) u limits) := by
  intro s v c verdict hv
  simp only [Record.judge, Record.test, guardedFields?_eq] at hv ⊢
  cases hin : guardedFields limits c v with
  | error i =>
    rw [hin] at hv
    cases hv
    rfl
  | ok input =>
    rw [hin] at hv
    obtain ⟨l, hl, hv⟩ := Option.bind_eq_some_iff.mp hv
    cases hv
    simp only [Except.toOption]
    rw [Verdict.isOk_finish]
    exact testEntries_of_judgeEntries h hk hl

end

theorem testPairs_of_judgePairs {j k : Judge} {t u : Test} (h : j.Agrees t) (hk : k.Agrees u)
    {entries : List (Value × Value)} : ∀ {n : Nat} {l : List (Verdict × Verdict)},
    Dictionary.judgeEntries j k s c n entries = some l →
    Dictionary.testEntries t u s c.depth n entries
      = some (l.flatMap fun e => e.1.issues ++ e.2.issues).isEmpty := by
  induction entries with
  | nil =>
    intro n l hl
    cases hl
    rfl
  | cons e rest ih =>
    obtain ⟨x, y⟩ := e
    intro n l hl
    obtain ⟨verdict, hv, hl⟩ := Option.bind_eq_some_iff.mp hl
    obtain ⟨verdict', hv', hl⟩ := Option.bind_eq_some_iff.mp hl
    obtain ⟨others, ho, hl⟩ := Option.bind_eq_some_iff.mp hl
    cases hl
    have hx : t ((s.child n).child 0) x (c.depth + 1) = some verdict.isOk := h hv
    have hy : u ((s.child n).child 1) y (c.depth + 1) = some verdict'.isOk := hk hv'
    simp only [Dictionary.testEntries, List.flatMap_cons]
    rw [hx, hy, isEmpty_append, isEmpty_append, Verdict.isEmpty_issues,
      Verdict.isEmpty_issues, Bool.and_assoc]
    exact Test.both_some _ (Test.both_some _ (ih ho))

theorem map {j k : Judge} {t u : Test} (limits : Limits) (h : j.Agrees t) (hk : k.Agrees u) :
    Judge.Agrees (Dictionary.judge j k limits) (Dictionary.test t u limits) := by
  intro s v c verdict hv
  cases v with
  | map id entries =>
    simp only [Dictionary.judge, Dictionary.test] at hv ⊢
    cases hd : Guard.checkDepth c.depth limits with
    | error r =>
      rw [hd] at hv
      cases hv
      rfl
    | ok _ =>
      rw [hd] at hv
      obtain ⟨l, hl, hv⟩ := Option.bind_eq_some_iff.mp hv
      cases hv
      rw [Verdict.isOk_finish]
      exact testPairs_of_judgePairs h hk hl
  | _ =>
    cases hv
    rfl

end Judge.Agrees

end ValueSchema
