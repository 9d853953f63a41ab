/-
Likenesses of the tests of containers.

A test only tells whether a value passes, so tests over alike inputs are simply equal. The
traversals are those of the judges without contexts, issues and outputs, and stop at the first part
that decides.
-/
import ValueSchema.Proofs.Likeness.Containers

set_option autoImplicit false

namespace ValueSchema

namespace Likeness

open List (Forall₂)

variable {L : Likeness} {s s' : Site}

/-! ## The guard -/

/-- A value and whatever is alike pass the scan at the same depths. -/
def ScansEqually (L : Likeness) (limits : Limits) (v : Value) : Prop :=
  ∀ ⦃w : Value⦄ (depth : Nat), L.input v w →
    Guard.scanAccepts limits depth v = Guard.scanAccepts limits depth w

theorem scanAcceptsItems_eq {limits : Limits} {items others : List Value}
    (h : Forall₂ L.input items others) (hparts : ∀ x ∈ items, L.ScansEqually limits x)
    (depth : Nat) :
    Guard.scanAcceptsItems limits depth items = Guard.scanAcceptsItems limits depth others := by
  induction h with
  | nil => rfl
  | cons head _ ih =>
    simp only [List.forall_mem_cons] at hparts
    simp only [Guard.scanAcceptsItems]
    rw [hparts.1 (depth + 1) head, ih hparts.2]

theorem scanAcceptsFields_eq {limits : Limits} {fields others : List (String × Value)}
    (h : Forall₂ (Keyed.Like L.input) fields others)
    (hparts : ∀ f ∈ fields, L.ScansEqually limits f.2) (depth : Nat) :
    Guard.scanAcceptsFields limits depth fields
      = Guard.scanAcceptsFields limits depth others := by
  induction h with
  | nil => rfl
  | @cons f g _ _ head _ ih =>
    obtain ⟨key, x⟩ := f
    obtain ⟨key', y⟩ := g
    simp only [List.forall_mem_cons] at hparts
    simp only [Guard.scanAcceptsFields]
    rw [hparts.1 (depth + 1) head.2, ih hparts.2]

theorem scanAcceptsEntries_eq {limits : Limits} {entries others : List (Value × Value)}
    (h : Forall₂ (Value.EntryLike L.input) entries others)
    (hparts : ∀ e ∈ entries, L.ScansEqually limits e.1 ∧ L.ScansEqually limits e.2)
    (depth : Nat) :
    Guard.scanAcceptsEntries limits depth entries
      = Guard.scanAcceptsEntries limits depth others := by
  induction h with
  | nil => rfl
  | @cons e f _ _ head _ ih =>
    obtain ⟨k, x⟩ := e
    obtain ⟨l, y⟩ := f
    simp only [List.forall_mem_cons] at hparts
    simp only [Guard.scanAcceptsEntries]
    rw [hparts.1.1 (depth + 1) head.1, hparts.1.2 (depth + 1) head.2, ih hparts.2]

theorem scanAccepts_eq (limits : Limits) (v : Value) : L.ScansEqually limits v := by
  induction v using Value.induction with
  | node v ih =>
    intro w depth hv
    -- the scan reads kinds, keys and depths, which alike values share
    cases L.input_parts hv with
    | plain _ => rfl
    | array h => simp only [Guard.scanAccepts, scanAcceptsItems_eq h ih]
    | @object _ _ fields _ h =>
      have hparts : ∀ f ∈ fields, L.ScansEqually limits f.2 :=
        Value.forall_mem_parts_object.mp ih
      simp only [Guard.scanAccepts, scanAcceptsFields_eq h hparts, Keyed.keys_eq_of_like h]
    | @map _ _ entries _ h =>
      have hparts : ∀ e ∈ entries, L.ScansEqually limits e.1 ∧ L.ScansEqually limits e.2 :=
        Value.forall_mem_parts_map.mp ih
      simp only [Guard.scanAccepts, scanAcceptsEntries_eq h hparts]
    | set h => simp only [Guard.scanAccepts, scanAcceptsItems_eq h ih]

/-! ## Objects -/

theorem guardedFields?_like (limits : Limits) (depth : Nat) {v w : Value} (hv : L.input v w) :
    Option.Rel (Forall₂ (Keyed.Like L.input)) (guardedFields? limits depth v)
      (guardedFields? limits depth w) := by
  cases L.input_parts hv with
  | object h =>
    simp only [guardedFields?, Keyed.keys_eq_of_like h]
    split
    · exact .some h
    · exact .none
  | @plain v h => cases v <;> first | exact .none | simp [Value.isComposite, Value.ident?] at h
  | array _ => exact .none
  | map _ => exact .none
  | set _ => exact .none

theorem unknownAccepts_eq (u : UnknownKeys) (limits : Limits) (depth : Nat)
    {extra others : List (String × Value)} (h : Forall₂ (Keyed.Like L.input) extra others) :
    u.accepts limits depth extra = u.accepts limits depth others := by
  induction h with
  | nil => rfl
  | cons head _ ih =>
    cases u with
    | strip => rfl
    | strict => rfl
    | passthrough =>
      simp only [UnknownKeys.accepts, List.all_cons] at ih ⊢
      rw [scanAccepts_eq limits _ (depth + 1) head.2, ih]

section

variable {σ : Type} {t t' : σ → Test}

theorem testFields_eq {input others : List (String × Value)}
    (hin : Forall₂ (Keyed.Like L.input) input others) (hs : L.site s s') (depth : Nat)
    {fields : List (String × σ)} (hf : ∀ f ∈ fields, L.Tests (t f.2) (t' f.2)) : ∀ n : Nat,
    Shape.testFields s depth input n (Keyed.mapValues t fields)
      = Shape.testFields s' depth others n (Keyed.mapValues t' fields) := by
  induction fields with
  | nil => exact fun _ => rfl
  | cons f rest ih =>
    intro n
    simp only [List.forall_mem_cons] at hf
    simp only [Keyed.mapValues, List.map_cons] at ih ⊢
    simp only [Shape.testFields]
    rw [hf.1 (depth + 1) (L.site_child n hs) (fieldOr_like f.1 hin), ih hf.2 (n + 1)]

theorem object_test {shape : Shape σ} (h : ∀ f ∈ shape.fields, L.Tests (t f.2) (t' f.2)) :
    L.Tests (shape.map t).test (shape.map t').test := by
  intro s s' v v' depth hs hv
  simp only [Shape.test, keys_map_eq]
  rcases (guardedFields?_like shape.limits depth hv).eq_or with
    ⟨hx, hy⟩ | ⟨input, others, hx, hy, hin⟩
  · simp only [Shape.map] at hx hy ⊢
    rw [hx, hy]
  · simp only [Shape.map] at hx hy ⊢
    rw [hx, hy]
    simp only [testFields_eq hin hs depth h 0,
      unknownAccepts_eq shape.unknown shape.limits depth (undeclared_like shape.keys hin)]

end

/-! ## Arrays, tuples and sets -/

theorem guardedItems?_like (limits : Limits) (depth : Nat) {v w : Value} (hv : L.input v w) :
    Option.Rel (Forall₂ L.input) (guardedItems? limits depth v)
      (guardedItems? limits depth w) := by
  cases L.input_parts hv with
  | array h =>
    simp only [guardedItems?]
    split
    · exact .some h
    · exact .none
  | @plain v h => cases v <;> first | exact .none | simp [Value.isComposite, Value.ident?] at h
  | object _ => exact .none
  | map _ => exact .none
  | set _ => exact .none

theorem testFrom_eq {testAt testAt' : Nat → Test} (ht : ∀ n, L.Tests (testAt n) (testAt' n))
    (hs : L.site s s') (depth : Nat) {items others : List Value}
    (h : Forall₂ L.input items others) : ∀ n : Nat,
    testFrom testAt s depth n items = testFrom testAt' s' depth n others := by
  induction h with
  | nil => exact fun _ => rfl
  | cons head _ ih =>
    intro n
    simp only [testFrom]
    rw [ht n (depth + 1) (L.site_child n hs) head, ih (n + 1)]

theorem array_test (b : ArrayBounds) (hu : b.unique = true → L.KeepsRepeats) {t t' : Test}
    (h : L.Tests t t') : L.Tests (b.test t) (b.test t') := by
  intro s s' v v' depth hs hv
  simp only [ArrayBounds.test, testAll]
  rcases (guardedItems?_like b.limits depth hv).eq_or with
    ⟨hx, hy⟩ | ⟨items, others, hx, hy, hin⟩
  · rw [hx, hy]
  · rw [hx, hy]
    simp only [arrayFault_eq b hu hin, testFrom_eq (fun _ => h) hs depth hin 0]

theorem tuple_test {σ : Type} {t t' : σ → Test} {items : List σ} {rest : Option σ}
    (limits : Limits) (h : ∀ x ∈ items ++ rest.toList, L.Tests (t x) (t' x)) :
    L.Tests (Tuple.test (items.map t) (rest.map t) limits)
      (Tuple.test (items.map t') (rest.map t') limits) := by
  intro s s' v v' depth hs hv
  simp only [Tuple.test, List.length_map, Option.isSome_map, Tuple.childAt_map, testAll]
  rcases (guardedItems?_like limits depth hv).eq_or with
    ⟨hx, hy⟩ | ⟨elements, others, hx, hy, hin⟩
  · rw [hx, hy]
  · rw [hx, hy]
    -- both sides have one size, so the same child is in charge of each position
    simp only [hin.length_eq]
    split
    · refine testFrom_eq (fun n => ?_) hs depth hin 0
      cases hn : Tuple.childAt items rest n with
      | none => exact fun _ _ _ _ _ _ _ => rfl
      | some x => exact h x (Tuple.mem_of_childAt hn)
    · rfl

theorem set_test (b : SetBounds) {t t' : Test} (h : L.Tests t t') :
    L.Tests (b.test t) (b.test t') := by
  intro s s' v v' depth hs hv
  cases L.input_parts hv with
  | set hin =>
    simp only [SetBounds.test, testAll, hin.length_eq, testFrom_eq (fun _ => h) hs depth hin 0]
  | @plain v h => cases v <;> first | rfl | simp [Value.isComposite, Value.ident?] at h
  | array _ => rfl
  | object _ => rfl
  | map _ => rfl

/-! ## Records and maps -/

theorem recordEntries_test {σ : Type} {t t' : σ → Test} {k k' : Test} {keySchema : Option σ}
    (h : ∀ x ∈ keySchema, L.Tests (t x) (t' x)) (hk : L.Tests k k') (hs : L.site s s')
    (depth : Nat) {input others : List (String × Value)}
    (hin : Forall₂ (Keyed.Like L.input) input others) : ∀ n : Nat,
    Record.testEntries (keySchema.map t) k s depth n input
      = Record.testEntries (keySchema.map t') k' s' depth n others := by
  induction hin with
  | nil => exact fun _ => rfl
  | @cons f g _ _ head _ ih =>
    obtain ⟨key, x⟩ := f
    obtain ⟨key', y⟩ := g
    obtain ⟨hkey, hx⟩ := head
    simp only at hkey hx
    subst hkey
    intro n
    have hsite := L.site_child n hs
    -- without a key schema every key passes
    have hkeys : Record.testKey (keySchema.map t) ((s.child n).child 0) key (depth + 1)
        = Record.testKey (keySchema.map t') ((s'.child n).child 0) key (depth + 1) := by
      cases keySchema with
      | none => rfl
      | some x => exact h x rfl (depth + 1) (L.site_child 0 hsite) (L.input_plain rfl)
    simp only [Record.testEntries]
    rw [hkeys, hk (depth + 1) (L.site_child 1 hsite) hx, ih (n + 1)]

theorem record_test {σ : Type} {t t' : σ → Test} {k k' : Test} {keySchema : Option σ}
    (limits : Limits) (h : ∀ x ∈ keySchema, L.Tests (t x) (t' x)) (hk : L.Tests k k') :
    L.Tests (Record.test (keySchema.map t) k limits)
      (Record.test (keySchema.map t') k' limits) := by
  intro s s' v v' depth hs hv
  simp only [Record.test]
  rcases (guardedFields?_like limits depth hv).eq_or with
    ⟨hx, hy⟩ | ⟨input, others, hx, hy, hin⟩
  · rw [hx, hy]
  · rw [hx, hy]
    exact recordEntries_test h hk hs depth hin 0

theorem mapEntries_test {t t' k k' : Test} (h : L.Tests t t') (hk : L.Tests k k')
    (hs : L.site s s') (depth : Nat) {entries others : List (Value × Value)}
    (hin : Forall₂ (Value.EntryLike L.input) entries others) : ∀ n : Nat,
    Dictionary.testEntries t k s depth n entries
      = Dictionary.testEntries t' k' s' depth n others := by
  induction hin with
  | nil => exact fun _ => rfl
  | @cons e f _ _ head _ ih =>
    obtain ⟨x, y⟩ := e
    obtain ⟨x', y'⟩ := f
    intro n
    have hsite := L.site_child n hs
    simp only [Dictionary.testEntries]
    rw [h (depth + 1) (L.site_child 0 hsite) head.1,
      hk (depth + 1) (L.site_child 1 hsite) head.2, ih (n + 1)]

theorem map_test {t t' k k' : Test} (limits : Limits) (h : L.Tests t t') (hk : L.Tests k k') :
    L.Tests (Dictionary.test t k limits) (Dictionary.test t' k' limits) := by
  intro s s' v v' depth hs hv
  cases L.input_parts hv with
  | map hin => simp only [Dictionary.test, mapEntries_test h hk hs depth hin 0]
  | @plain v h => cases v <;> first | rfl | simp [Value.isComposite, Value.ident?] at h
  | array _ => rfl
  | object _ => rfl
  | set _ => rfl

end Likeness

end ValueSchema
