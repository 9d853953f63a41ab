/-
Likenesses of containers.

Objects, arrays, tuples, sets, records and maps judge their parts at sites and contexts below their
own, collect what is found and build what comes out. Each traversal over alike judges is a judge
alike, and each test over alike tests a test alike: one induction on the parts, and one theorem
about the container from it.

Two observations do not follow from the parts being alike. A unique array compares the identities
of its elements and a set those of its outputs, so their theorems ask for likenesses under which
these comparisons come out the same.
-/
import ValueSchema.Proofs.Likeness.Basic
import ValueSchema.Proofs.Parts
import ValueSchema.Proofs.Acceptance

set_option autoImplicit false

namespace ValueSchema

/-- What becomes of an accepted field. -/
theorem Shape.fieldOutputs_ok (key : String) (v : Value) (rest : List (String × Verdict)) :
    Shape.fieldOutputs ((key, .ok v) :: rest)
      = if v.isUndefined then Shape.fieldOutputs rest
        else (key, v) :: Shape.fieldOutputs rest := by
  cases v <;> rfl

namespace Likeness

open List (Forall₂)
open Relator

variable {L : Likeness} {s s' : Site} {c c' : Context}

/-! ## The guard -/

/-- A refusal is reported at both places. -/
theorem issues_refusal (r : Guard.Refusal) (hc : L.context c c') :
    L.issues [r.issue c] [r.issue c'] :=
  issues_issue hc r.code r.message

/-- A search comes to nothing on both sides, or finds issues that are reported alike. -/
def found (L : Likeness) : Option Issue → Option Issue → Prop :=
  Option.Rel fun i i' => L.issues [i] [i']

theorem found_of_check (check : Except Guard.Refusal Unit) (hc : L.context c c')
    {next next' : Option Issue} (h : L.found next next') :
    L.found
      (match check with
        | .error r => some (r.issue c)
        | .ok () => next)
      (match check with
        | .error r => some (r.issue c')
        | .ok () => next') := by
  cases check with
  | error r => exact .some (issues_refusal r hc)
  | ok _ => exact h

theorem found_orElse {a a' b b' : Option Issue} : L.found a a' → L.found b b' →
    L.found
      (match a with
        | some i => some i
        | none => b)
      (match a' with
        | some i => some i
        | none => b') := by
  intro ha hb
  cases ha with
  | none => exact hb
  | some h => exact .some h

/-- The scan of a value finds alike issues in whatever is alike. -/
def ScansAlike (L : Likeness) (limits : Limits) (v : Value) : Prop :=
  ∀ ⦃w : Value⦄ ⦃c c' : Context⦄, L.input v w → L.context c c' →
    L.found (Guard.scan limits c v) (Guard.scan limits c' w)

theorem scanItems_like {limits : Limits} {items others : List Value}
    (h : Forall₂ L.input items others) (hparts : ∀ x ∈ items, L.ScansAlike limits x)
    (hc : L.context c c') : ∀ n : Nat,
    L.found (Guard.scanItems limits c n items) (Guard.scanItems limits c' n others) := by
  induction h with
  | nil => exact fun _ => .none
  | cons head _ ih =>
    intro n
    simp only [List.forall_mem_cons] at hparts
    simp only [Guard.scanItems]
    exact found_orElse (hparts.1 head (L.context_childIndex n hc)) (ih hparts.2 (n + 1))

theorem scanFields_like {limits : Limits} {fields others : List (String × Value)}
    (h : Forall₂ (Keyed.Like L.input) fields others)
    (hparts : ∀ f ∈ fields, L.ScansAlike limits f.2) (hc : L.context c c') :
    L.found (Guard.scanFields limits c fields) (Guard.scanFields limits c' others) := by
  induction h with
  | nil => exact .none
  | @cons f g _ _ head _ ih =>
    obtain ⟨key, x⟩ := f
    obtain ⟨key', y⟩ := g
    obtain ⟨hkey, hx⟩ := head
    simp only at hkey hx
    subst hkey
    simp only [List.forall_mem_cons] at hparts
    simp only [Guard.scanFields]
    exact found_orElse (hparts.1 hx (L.context_childKey key hc)) (ih hparts.2)

theorem scanEntries_like {limits : Limits} {entries others : List (Value × Value)}
    (h : Forall₂ (Value.EntryLike L.input) entries others)
    (hparts : ∀ e ∈ entries, L.ScansAlike limits e.1 ∧ L.ScansAlike limits e.2)
    (hc : L.context c c') : ∀ n : Nat,
    L.found (Guard.scanEntries limits c n entries) (Guard.scanEntries limits c' n others) := by
  induction h with
  | nil => exact fun _ => .none
  | @cons e f _ _ head _ ih =>
    obtain ⟨k, x⟩ := e
    obtain ⟨l, y⟩ := f
    intro n
    simp only [List.forall_mem_cons] at hparts
    simp only [Guard.scanEntries]
    have hn := L.context_childIndex n hc
    refine found_orElse (hparts.1.1 head.1 (L.context_atKey "key" hn)) ?_
    exact found_orElse (hparts.1.2 head.2 (L.context_atKey "value" hn)) (ih hparts.2 (n + 1))

/-- Depth and keys are checked to the same end. -/
theorem checkObject_like {fields others : List (String × Value)}
    (h : Forall₂ (Keyed.Like L.input) fields others) (limits : Limits) (hc : L.context c c') :
    Guard.checkObject (Keyed.keys fields) c.depth limits
      = Guard.checkObject (Keyed.keys others) c'.depth limits := by
  rw [Keyed.keys_eq_of_like h, L.context_depth hc]

theorem scan_like (limits : Limits) (v : Value) : L.ScansAlike limits v := by
  induction v using Value.induction with
  | node v ih =>
    intro w c c' hv hc
    -- one case per kind of container: its own check first, then the traversal of its parts
    cases L.input_parts hv with
    | plain h =>
      cases v <;> first | exact .none | simp [Value.isComposite, Value.ident?] at h
    | array h =>
      simp only [Guard.scan, L.context_depth hc]
      exact found_of_check _ hc (scanItems_like h ih hc 0)
    | @object _ _ fields _ h =>
      have hparts : ∀ f ∈ fields, L.ScansAlike limits f.2 := Value.forall_mem_parts_object.mp ih
      simp only [Guard.scan, checkObject_like h limits hc]
      exact found_of_check _ hc (scanFields_like h hparts hc)
    | @map _ _ entries _ h =>
      have hparts : ∀ e ∈ entries, L.ScansAlike limits e.1 ∧ L.ScansAlike limits e.2 :=
        Value.forall_mem_parts_map.mp ih
      simp only [Guard.scan, L.context_depth hc]
      exact found_of_check _ hc (scanEntries_like h hparts hc 0)
    | set h =>
      simp only [Guard.scan, L.context_depth hc]
      exact found_of_check _ hc (scanItems_like h ih hc 0)

/-! ## Objects -/

theorem guardedFields_like (limits : Limits) (hc : L.context c c') {v w : Value}
    (hv : L.input v w) :
    Except.Like (fun i i' => L.issues [i] [i']) (Forall₂ (Keyed.Like L.input))
      (guardedFields limits c v) (guardedFields limits c' w) := by
  -- only an object gets past the guard, and alike values are of one kind
  cases L.input_parts hv with
  | @object id id' fields others h =>
    simp only [guardedFields, checkObject_like h limits hc]
    cases Guard.checkObject (Keyed.keys others) c'.depth limits with
    | ok _ => exact .ok h
    | error r => exact .error (issues_refusal r hc)
  | @plain v h =>
    have hmis := issues_typeMismatch hc .notObject "object" hv
    cases v <;> first | exact .error hmis | simp [Value.isComposite, Value.ident?] at h
  | array h => exact .error (issues_typeMismatch hc .notObject "object" hv)
  | map h => exact .error (issues_typeMismatch hc .notObject "object" hv)
  | set h => exact .error (issues_typeMismatch hc .notObject "object" hv)

theorem fieldOr_like (key : String) {input others : List (String × Value)}
    (h : Forall₂ (Keyed.Like L.input) input others) :
    L.input (fieldOr key input) (fieldOr key others) := by
  simp only [fieldOr]
  rcases (Keyed.find?_like key h).eq_or with ⟨hx, hy⟩ | ⟨x, y, hx, hy, hxy⟩
  · rw [hx, hy]; exact L.input_plain rfl
  · rw [hx, hy]; exact hxy

theorem undeclared_like (declared : List String) {input others : List (String × Value)}
    (h : Forall₂ (Keyed.Like L.input) input others) :
    Forall₂ (Keyed.Like L.input) (undeclared declared input) (undeclared declared others) := by
  induction h with
  | nil => exact .nil
  | @cons f g _ _ head _ ih =>
    simp only [undeclared] at ih ⊢
    rw [List.filter_cons, List.filter_cons, ← head.1]
    split
    · exact .cons head ih
    · exact ih

theorem unknownIssues_like (u : UnknownKeys) (limits : Limits) (hc : L.context c c')
    {extra others : List (String × Value)} (h : Forall₂ (Keyed.Like L.input) extra others) :
    L.issues (u.issues limits c extra) (u.issues limits c' others) := by
  induction h with
  | nil => cases u <;> exact L.issues_nil
  | @cons f g _ _ head _ ih =>
    obtain ⟨key, x⟩ := f
    obtain ⟨key', y⟩ := g
    obtain ⟨hkey, hx⟩ := head
    simp only at hkey hx
    subst hkey
    cases u with
    | strip => exact L.issues_nil
    | strict =>
      have hkey := issues_issue (L.context_childKey key hc) .objectUnknownKey
        ("Unrecognized key: " ++ Text.quote key)
      exact L.issues_append hkey ih
    | passthrough =>
      simp only [UnknownKeys.issues, List.filterMap_cons] at ih ⊢
      -- what is let through unexamined is scanned to the same end
      rcases (scan_like limits x hx (L.context_childKey key hc)).eq_or with
        ⟨hi, hi'⟩ | ⟨i, i', hi, hi', hii⟩
      · rw [hi, hi']; exact ih
      · rw [hi, hi']; exact L.issues_append hii ih

theorem kept_like (u : UnknownKeys) {extra others : List (String × Value)}
    (h : Forall₂ (Keyed.Like L.input) extra others) :
    Forall₂ (Keyed.Like L.output) (u.kept extra) (u.kept others) := by
  cases u with
  | passthrough => exact h.imp fun _ _ hf => ⟨hf.1, L.output_of_input hf.2⟩
  | strip => exact .nil
  | strict => exact .nil

section

variable {σ : Type} {j j' : σ → Judge}

theorem judgeFields_like {input others : List (String × Value)}
    (hin : Forall₂ (Keyed.Like L.input) input others) (hs : L.site s s') (hc : L.context c c')
    {fields : List (String × σ)} (hf : ∀ f ∈ fields, L.Judges (j f.2) (j' f.2)) : ∀ n : Nat,
    Option.Rel (Forall₂ (Keyed.Like L.verdict))
      (Shape.judgeFields s c input n (Keyed.mapValues j fields))
      (Shape.judgeFields s' c' others n (Keyed.mapValues j' fields)) := by
  -- every field has a site, an input and a context of its own, alike on both sides
  induction fields with
  | nil => exact fun _ => .some .nil
  | cons f rest ih =>
    intro n
    simp only [List.forall_mem_cons] at hf
    have hfield := hf.1 (L.site_child n hs) (fieldOr_like f.1 hin) (L.context_childKey f.1 hc)
    refine Option.Rel.bind hfield fun a b hab => ?_
    refine Option.Rel.bind (ih hf.2 (n + 1)) fun l m hlm => ?_
    exact .some (.cons ⟨rfl, hab⟩ hlm)

/-- The output of a field is left out on both sides or on neither. -/
theorem fieldOutputs_like {l m : List (String × Verdict)}
    (h : Forall₂ (Keyed.Like L.verdict) l m) :
    Forall₂ (Keyed.Like L.output) (Shape.fieldOutputs l) (Shape.fieldOutputs m) := by
  induction h with
  | nil => exact .nil
  | @cons e f l m head _ ih =>
    obtain ⟨k, a⟩ := e
    obtain ⟨k', b⟩ := f
    obtain ⟨hk, hab⟩ := head
    simp only at hk hab
    subst hk
    cases hab with
    | error _ => exact ih
    | ok hvw =>
      -- an output that is undefined drops the field, and is so on both sides
      rw [Shape.fieldOutputs_ok, Shape.fieldOutputs_ok, L.output_undefined hvw]
      split
      · exact ih
      · exact .cons ⟨rfl, hvw⟩ ih

theorem keys_map_eq {τ : Type} (f : σ → τ) (shape : Shape σ) : (shape.map f).keys = shape.keys := by
  simp only [Shape.keys, Keyed.keys, Shape.map, Keyed.mapValues, List.map_map, Function.comp_def]

theorem object_judge {shape : Shape σ} (h : ∀ f ∈ shape.fields, L.Judges (j f.2) (j' f.2)) :
    L.Judges (shape.map j).judge (shape.map j').judge := by
  intro s s' v v' c c' hs hv hc
  simp only [Shape.judge, keys_map_eq]
  rcases (guardedFields_like shape.limits hc hv).eq_or with
    ⟨i, i', hi, hi', hii⟩ | ⟨input, others, hx, hy, hin⟩
  · simp only [Shape.map] at hi hi' ⊢
    rw [hi, hi']
    exact .some (verdict_reject hii)
  · simp only [Shape.map] at hx hy ⊢
    rw [hx, hy]
    refine Option.Rel.bind (judgeFields_like hin hs hc h 0) fun l m hlm => ?_
    -- the fields and the keys that are not declared raise their issues in one list
    have hextra := undeclared_like shape.keys hin
    have hverdicts : Forall₂ L.verdict (l.map Prod.snd) (m.map Prod.snd) :=
      List.rel_map (fun _ _ hef => hef.2) hlm
    have hissues := L.issues_append (allIssues_like hverdicts)
      (unknownIssues_like shape.unknown shape.limits hc hextra)
    refine .some (verdict_finish hissues (L.output_object hs ?_))
    exact List.rel_append (fieldOutputs_like hlm) (kept_like shape.unknown hextra)

end

/-! ## Arrays and tuples -/

theorem guardedItems_like (limits : Limits) (hc : L.context c c') {v w : Value}
    (hv : L.input v w) :
    Except.Like (fun i i' => L.issues [i] [i']) (Forall₂ L.input)
      (guardedItems limits c v) (guardedItems limits c' w) := by
  cases L.input_parts hv with
  | array h =>
    simp only [guardedItems, L.context_depth hc]
    cases Guard.checkDepth c'.depth limits with
    | ok _ => exact .ok h
    | error r => exact .error (issues_refusal r hc)
  | @plain v h =>
    have hmis := issues_typeMismatch hc .notArray "array" hv
    cases v <;> first | exact .error hmis | simp [Value.isComposite, Value.ident?] at h
  | object h => exact .error (issues_typeMismatch hc .notArray "array" hv)
  | map h => exact .error (issues_typeMismatch hc .notArray "array" hv)
  | set h => exact .error (issues_typeMismatch hc .notArray "array" hv)

theorem judgeFrom_like {judgeAt judgeAt' : Nat → Judge}
    (hj : ∀ n, L.Judges (judgeAt n) (judgeAt' n)) (hs : L.site s s') (hc : L.context c c')
    {items others : List Value} (h : Forall₂ L.input items others) : ∀ n : Nat,
    Option.Rel (Forall₂ L.verdict) (judgeFrom judgeAt s c n items)
      (judgeFrom judgeAt' s' c' n others) := by
  -- the induction is on the elements, with the position left open
  induction h with
  | nil => exact fun _ => .some .nil
  | cons head _ ih =>
    intro n
    have hitem := hj n (L.site_child n hs) head (L.context_childIndex n hc)
    refine Option.Rel.bind hitem fun a b hab => ?_
    refine Option.Rel.bind (ih (n + 1)) fun l m hlm => ?_
    exact .some (.cons hab hlm)

/-- The elements of an array are judged alike and put into alike arrays. -/
theorem judgeItems_like {judgeAt judgeAt' : Nat → Judge}
    (hj : ∀ n, L.Judges (judgeAt n) (judgeAt' n)) (hs : L.site s s') (hc : L.context c c')
    {items others : List Value} (h : Forall₂ L.input items others) :
    L.answer
      (do
        let verdicts ← judgeAll judgeAt s c items
        some (Verdict.finish (Verdict.allIssues verdicts)
          (.array s.ident (Verdict.outputs verdicts))))
      (do
        let verdicts ← judgeAll judgeAt' s' c' others
        some (Verdict.finish (Verdict.allIssues verdicts)
          (.array s'.ident (Verdict.outputs verdicts)))) := by
  refine Option.Rel.bind (judgeFrom_like hj hs hc h 0) fun l m hlm => ?_
  exact .some (verdict_finish (allIssues_like hlm) (L.output_array hs (outputs_like hlm)))

theorem issues_sizeFault (f : SizeFault) (noun : String) (hc : L.context c c') :
    L.issues [f.issue noun c] [f.issue noun c'] :=
  issues_local (fun _ => by cases f <;> rfl) hc

/-- Elements that are alike repeat each other at the same position. -/
def KeepsRepeats (L : Likeness) : Prop := ∀ ⦃items others : List Value⦄,
  Forall₂ L.input items others → Value.firstRepeat? items = Value.firstRepeat? others

/-- Inputs that are alike have one key. -/
def KeepsKeys (L : Likeness) : Prop := ∀ ⦃v w : Value⦄, L.input v w → v.key = w.key

theorem keys_like (hk : L.KeepsKeys) {items others : List Value}
    (h : Forall₂ L.input items others) : items.map Value.key = others.map Value.key := by
  induction h with
  | nil => rfl
  | cons head _ ih => rw [List.map_cons, List.map_cons, hk head, ih]

/-- Repeats are told by keys. -/
theorem keepsRepeats_of_keepsKeys (hk : L.KeepsKeys) : L.KeepsRepeats := fun _ _ h => by
  rw [Value.firstRepeat?, Value.firstRepeat?, keys_like hk h]

theorem arrayFault_eq (b : ArrayBounds) (hu : b.unique = true → L.KeepsRepeats)
    {items others : List Value} (h : Forall₂ L.input items others) :
    b.fault? items = b.fault? others := by
  have hlen : items.length = others.length := h.length_eq
  have hempty : items.isEmpty = others.isEmpty := by cases h <;> rfl
  -- repeats count only where the array has to be unique
  have hrepeat : (if b.unique then (Value.firstRepeat? items).map SizeFault.repeated else none)
      = if b.unique then (Value.firstRepeat? others).map SizeFault.repeated else none := by
    by_cases hb : b.unique = true
    · rw [if_pos hb, if_pos hb, hu hb h]
    · rw [if_neg hb, if_neg hb]
  simp only [ArrayBounds.fault?, hlen, hempty, hrepeat]

theorem array_judge (b : ArrayBounds) (hu : b.unique = true → L.KeepsRepeats) {j j' : Judge}
    (h : L.Judges j j') : L.Judges (b.judge j) (b.judge j') := by
  intro s s' v v' c c' hs hv hc
  simp only [ArrayBounds.judge]
  rcases (guardedItems_like b.limits hc hv).eq_or with
    ⟨i, i', hi, hi', hii⟩ | ⟨items, others, hx, hy, hin⟩
  · rw [hi, hi']
    exact .some (verdict_reject hii)
  · rw [hx, hy]
    -- the container as a whole comes before its elements, with one fault at most
    simp only [arrayFault_eq b hu hin]
    cases b.fault? others with
    | some f => exact .some (verdict_reject (issues_sizeFault f "Array" hc))
    | none => exact judgeItems_like (fun _ => h) hs hc hin

section

variable {σ : Type} {j j' : σ → Judge}

theorem tuple_judge {items : List σ} {rest : Option σ} (limits : Limits)
    (h : ∀ x ∈ items ++ rest.toList, L.Judges (j x) (j' x)) :
    L.Judges (Tuple.judge (items.map j) (rest.map j) limits)
      (Tuple.judge (items.map j') (rest.map j') limits) := by
  intro s s' v v' c c' hs hv hc
  simp only [Tuple.judge, List.length_map, Option.isSome_map, Tuple.childAt_map]
  rcases (guardedItems_like limits hc hv).eq_or with
    ⟨i, i', hi, hi', hii⟩ | ⟨elements, others, hx, hy, hin⟩
  · rw [hi, hi']
    exact .some (verdict_reject hii)
  · rw [hx, hy]
    -- both sides have one size, so the same child is in charge of each position
    simp only [hin.length_eq]
    cases Tuple.fault? items.length rest.isSome others.length with
    | some f => exact .some (verdict_reject (issues_sizeFault f "Tuple" hc))
    | none =>
      refine judgeItems_like (fun n => ?_) hs hc hin
      cases hn : Tuple.childAt items rest n with
      | none => exact fun _ _ _ _ _ _ _ hv _ => .some (.ok (L.output_of_input hv))
      | some x => exact h x (Tuple.mem_of_childAt hn)

end

/-! ## Sets -/

/-- Outputs that are alike agree or differ in the same pairs. -/
def KeepsSameness (L : Likeness) : Prop :=
  ∀ ⦃v v' w w' : Value⦄, L.output v v' → L.output w w' →
    v.sameValueZero w = v'.sameValueZero w'

theorem addDistinct_like (hk : L.KeepsSameness) {acc acc' : List Value}
    (ha : Forall₂ L.output acc acc') {v w : Value} (hv : L.output v w) :
    Forall₂ L.output (Value.addDistinct acc v) (Value.addDistinct acc' w) := by
  -- an element repeats an earlier one on both sides or on neither
  have hany : (acc.any fun x => x.sameValueZero v) = acc'.any fun x => x.sameValueZero w := by
    induction ha with
    | nil => rfl
    | cons head _ ih => rw [List.any_cons, List.any_cons, hk head hv, ih]
  simp only [Value.addDistinct, hany]
  split
  · exact ha
  · exact List.rel_append ha (.cons hv .nil)

theorem distinct_like (hk : L.KeepsSameness) {items others : List Value}
    (h : Forall₂ L.output items others) :
    Forall₂ L.output (Value.distinct items) (Value.distinct others) := by
  have hstep : ((Forall₂ L.output) ⇒ L.output ⇒ Forall₂ L.output)
      Value.addDistinct Value.addDistinct := fun _ _ ha _ _ hv => addDistinct_like hk ha hv
  exact List.rel_foldl hstep .nil h

/-- Whether a set has the wrong size does not depend on where it stands. -/
theorem setFault_eq_map (b : SetBounds) (c : Context) (size : Nat) :
    b.fault? c size = (b.fault? Context.root size).map fun i => i.atPath c.path := by
  simp only [SetBounds.fault?]
  cases brokenBound? (fun n => decide (size < n)) b.min with
  | some n => rfl
  | none => cases brokenBound? (fun n => decide (n < size)) b.max <;> rfl

theorem set_judge (b : SetBounds) (hk : L.KeepsSameness) {j j' : Judge} (h : L.Judges j j') :
    L.Judges (b.judge j) (b.judge j') := by
  intro s s' v v' c c' hs hv hc
  cases L.input_parts hv with
  | @set id id' items others hin =>
    simp only [SetBounds.judge, L.context_depth hc, hin.length_eq, setFault_eq_map b c,
      setFault_eq_map b c']
    cases Guard.checkDepth c'.depth b.limits with
    | error r => exact .some (verdict_reject (issues_refusal r hc))
    | ok _ =>
      cases b.fault? Context.root others.length with
      | some i => exact .some (verdict_reject (L.issues_here i hc))
      | none =>
        -- outputs are thinned out after all elements were judged
        refine Option.Rel.bind (judgeFrom_like (fun _ => h) hs hc hin 0) fun l m hlm => ?_
        refine .some (verdict_finish (allIssues_like hlm) ?_)
        exact L.output_set hs (distinct_like hk (outputs_like hlm))
  | @plain v hp =>
    have hmis := verdict_reject (issues_typeMismatch hc .notSet "set" hv)
    cases v <;> first | exact .some hmis | simp [Value.isComposite, Value.ident?] at hp
  | array _ => exact .some (verdict_reject (issues_typeMismatch hc .notSet "set" hv))
  | object _ => exact .some (verdict_reject (issues_typeMismatch hc .notSet "set" hv))
  | map _ => exact .some (verdict_reject (issues_typeMismatch hc .notSet "set" hv))

/-! ## Records -/

section

variable {σ : Type} {j j' : σ → Judge} {k k' : Judge}

theorem judgeKey_like {keySchema : Option σ} (h : ∀ x ∈ keySchema, L.Judges (j x) (j' x))
    (key : String) (hs : L.site s s') (hc : L.context c c') :
    L.answer (Record.judgeKey (keySchema.map j) s key c)
      (Record.judgeKey (keySchema.map j') s' key c') := by
  cases keySchema with
  | none => exact .some (.ok (L.output_of_input (L.input_plain rfl)))
  | some x => exact h x rfl hs (L.input_plain rfl) hc

/-- One entry of a record is one key with alike verdicts on key and value. -/
def entry (L : Likeness) (e f : Record.Entry) : Prop :=
  e.key = f.key ∧ L.verdict e.keyVerdict f.keyVerdict ∧ L.verdict e.valueVerdict f.valueVerdict

theorem recordEntries_like {keySchema : Option σ}
    (h : ∀ x ∈ keySchema, L.Judges (j x) (j' x)) (hk : L.Judges k k') (hs : L.site s s')
    (hc : L.context c c') {input others : List (String × Value)}
    (hin : Forall₂ (Keyed.Like L.input) input others) : ∀ n : Nat,
    Option.Rel (Forall₂ L.entry) (Record.judgeEntries (keySchema.map j) k s c n input)
      (Record.judgeEntries (keySchema.map j') k' s' c' n others) := by
  induction hin with
  | nil => exact fun _ => .some .nil
  | @cons f g _ _ head _ ih =>
    obtain ⟨key, x⟩ := f
    obtain ⟨key', y⟩ := g
    obtain ⟨hkey, hx⟩ := head
    simp only at hkey hx
    subst hkey
    intro n
    -- key and value stand at one path, at two sites below that of the entry
    have hsite := L.site_child n hs
    have hchild := L.context_childKey key hc
    refine Option.Rel.bind (judgeKey_like h key (L.site_child 0 hsite) hchild) fun a b hab => ?_
    refine Option.Rel.bind (hk (L.site_child 1 hsite) hx hchild) fun a' b' hab' => ?_
    refine Option.Rel.bind (ih (n + 1)) fun l m hlm => ?_
    exact .some (.cons ⟨rfl, hab, hab'⟩ hlm)

end

/-- What becomes of an accepted entry. -/
theorem entryOutput_ok (key : String) (k v : Value) :
    Record.Entry.output? ⟨key, .ok k, .ok v⟩
      = if v.isUndefined then none else some (Record.outputKey key k, v) := by
  cases v <;> rfl

theorem entryOutput_like {e f : Record.Entry} (h : L.entry e f) :
    Option.Rel (Keyed.Like L.output) e.output? f.output? := by
  obtain ⟨key, a, a'⟩ := e
  obtain ⟨key', b, b'⟩ := f
  obtain ⟨hkey, hab, hab'⟩ := h
  simp only at hkey hab hab'
  subst hkey
  cases hab with
  | error _ => exact .none
  | ok hk =>
    cases hab' with
    | error _ => exact .none
    | ok hv =>
      -- the key of the output is the text that was made of the key, or the key
      rw [entryOutput_ok, entryOutput_ok, L.output_undefined hv]
      simp only [Record.outputKey, L.output_string hk]
      split
      · exact .none
      · exact .some ⟨rfl, hv⟩

theorem entryIssues_like {l m : List Record.Entry} (h : Forall₂ L.entry l m) :
    L.issues (l.flatMap Record.Entry.issues) (m.flatMap Record.Entry.issues) := by
  induction h with
  | nil => exact L.issues_nil
  | cons head _ ih =>
    rw [List.flatMap_cons, List.flatMap_cons]
    refine L.issues_append ?_ ih
    exact L.issues_append (verdict_issues head.2.1) (verdict_issues head.2.2)

theorem record_judge {σ : Type} {j j' : σ → Judge} {k k' : Judge} {keySchema : Option σ}
    (limits : Limits) (h : ∀ x ∈ keySchema, L.Judges (j x) (j' x)) (hk : L.Judges k k') :
    L.Judges (Record.judge (keySchema.map j) k limits)
      (Record.judge (keySchema.map j') k' limits) := by
  intro s s' v v' c c' hs hv hc
  simp only [Record.judge]
  rcases (guardedFields_like limits hc hv).eq_or with
    ⟨i, i', hi, hi', hii⟩ | ⟨input, others, hx, hy, hin⟩
  · rw [hi, hi']
    exact .some (verdict_reject hii)
  · rw [hx, hy]
    refine Option.Rel.bind (recordEntries_like h hk hs hc hin 0) fun l m hlm => ?_
    refine .some (verdict_finish (entryIssues_like hlm) (L.output_object hs ?_))
    exact Keyed.ofList_like (List.rel_filterMap (fun _ _ hef => entryOutput_like hef) hlm)

/-! ## Maps -/

/-- One entry of a map has alike verdicts on key and value. -/
def pair (L : Likeness) (e f : Verdict × Verdict) : Prop :=
  L.verdict e.1 f.1 ∧ L.verdict e.2 f.2

theorem mapEntries_like {j j' k k' : Judge} (h : L.Judges j j') (hk : L.Judges k k')
    (hs : L.site s s') (hc : L.context c c') {entries others : List (Value × Value)}
    (hin : Forall₂ (Value.EntryLike L.input) entries others) : ∀ n : Nat,
    Option.Rel (Forall₂ L.pair) (Dictionary.judgeEntries j k s c n entries)
      (Dictionary.judgeEntries j' k' s' c' n others) := by
  induction hin with
  | nil => exact fun _ => .some .nil
  | @cons e f _ _ head _ ih =>
    obtain ⟨x, y⟩ := e
    obtain ⟨x', y'⟩ := f
    intro n
    -- key and value stand beside each other below the position of the entry
    have hsite := L.site_child n hs
    have hchild := L.context_childIndex n hc
    refine Option.Rel.bind (h (L.site_child 0 hsite) head.1 (L.context_atKey "key" hchild))
      fun a b hab => ?_
    refine Option.Rel.bind (hk (L.site_child 1 hsite) head.2 (L.context_atKey "value" hchild))
      fun a' b' hab' => ?_
    refine Option.Rel.bind (ih (n + 1)) fun l m hlm => ?_
    exact .some (.cons ⟨hab, hab'⟩ hlm)

theorem pairOutput_like {e f : Verdict × Verdict} (h : L.pair e f) :
    Option.Rel (Value.EntryLike L.output) (Dictionary.output? e) (Dictionary.output? f) := by
  obtain ⟨a, a'⟩ := e
  obtain ⟨b, b'⟩ := f
  obtain ⟨hab, hab'⟩ := h
  simp only at hab hab'
  cases hab with
  | error _ => exact .none
  | ok hk =>
    cases hab' with
    | error _ => exact .none
    | ok hv => exact .some ⟨hk, hv⟩

theorem pairIssues_like {l m : List (Verdict × Verdict)} (h : Forall₂ L.pair l m) :
    L.issues (l.flatMap fun e => e.1.issues ++ e.2.issues)
      (m.flatMap fun e => e.1.issues ++ e.2.issues) := by
  induction h with
  | nil => exact L.issues_nil
  | cons head _ ih =>
    rw [List.flatMap_cons, List.flatMap_cons]
    refine L.issues_append ?_ ih
    exact L.issues_append (verdict_issues head.1) (verdict_issues head.2)

theorem map_judge {j j' k k' : Judge} (limits : Limits) (h : L.Judges j j')
    (hk : L.Judges k k') :
    L.Judges (Dictionary.judge j k limits) (Dictionary.judge j' k' limits) := by
  intro s s' v v' c c' hs hv hc
  cases L.input_parts hv with
  | map hin =>
    simp only [Dictionary.judge, L.context_depth hc]
    cases Guard.checkDepth c'.depth limits with
    | error r => exact .some (verdict_reject (issues_refusal r hc))
    | ok _ =>
      refine Option.Rel.bind (mapEntries_like h hk hs hc hin 0) fun l m hlm => ?_
      refine .some (verdict_finish (pairIssues_like hlm) (L.output_map hs ?_))
      exact List.rel_filterMap (fun _ _ hef => pairOutput_like hef) hlm
  | @plain v hp =>
    have hmis := verdict_reject (issues_typeMismatch hc .notMap "map" hv)
    cases v <;> first | exact .some hmis | simp [Value.isComposite, Value.ident?] at hp
  | array _ => exact .some (verdict_reject (issues_typeMismatch hc .notMap "map" hv))
  | object _ => exact .some (verdict_reject (issues_typeMismatch hc .notMap "map" hv))
  | set _ => exact .some (verdict_reject (issues_typeMismatch hc .notMap "map" hv))

end Likeness

end ValueSchema
