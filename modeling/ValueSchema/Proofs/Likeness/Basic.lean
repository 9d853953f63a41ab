/-
Likenesses: what two judgements may differ in.

Many laws about judging compare two judgements: of one value at two paths, of two values with the
same content, by a schema and by its compiled form. All of them go through the same traversals,
so the comparison is set up once. A likeness says which sites, inputs, outputs, contexts and lists
of issues count as alike, with one closure law for everything that a traversal does to them. Two
judges are alike when they answer alike whatever alike things they are given, and a traversal over
alike judges is a judge alike; the second half is the subject of the modules beside this one.

Inputs and outputs are related apart from each other. A compiled schema is given the very input
that the schema is given and may put out something that only has the same content.
-/
import ValueSchema.Judgement.Basic
import Mathlib.Data.List.Forall2

set_option autoImplicit false

/-! ## Related results -/

/-- Two results are both failures or both successes, and related as such. -/
inductive Except.Like {ε φ α β : Type} (failure : ε → φ → Prop) (success : α → β → Prop) :
    Except ε α → Except φ β → Prop
  | ok {a : α} {b : β} (h : success a b) : Like failure success (.ok a) (.ok b)
  | error {e : ε} {f : φ} (h : failure e f) : Like failure success (.error e) (.error f)

theorem Except.Like.eq_or {ε φ α β : Type} {failure : ε → φ → Prop} {success : α → β → Prop}
    {x : Except ε α} {y : Except φ β} (h : Except.Like failure success x y) :
    (∃ e f, x = .error e ∧ y = .error f ∧ failure e f)
      ∨ ∃ a b, x = .ok a ∧ y = .ok b ∧ success a b := by
  cases h with
  | error hef => exact .inl ⟨_, _, rfl, rfl, hef⟩
  | ok hab => exact .inr ⟨_, _, rfl, rfl, hab⟩

/-- Computations that may come to nothing are related when they come to nothing together, and
step by step otherwise. -/
theorem Option.Rel.bind {α β γ δ : Type} {R : α → β → Prop} {S : γ → δ → Prop} {x : Option α}
    {y : Option β} {f : α → Option γ} {g : β → Option δ} (h : Option.Rel R x y)
    (hf : ∀ a b, R a b → Option.Rel S (f a) (g b)) : Option.Rel S (x >>= f) (y >>= g) := by
  cases h with
  | none => exact .none
  | some hab => exact hf _ _ hab

theorem Option.Rel.eq_or {α β : Type} {R : α → β → Prop} {x : Option α} {y : Option β}
    (h : Option.Rel R x y) :
    (x = .none ∧ y = .none) ∨ ∃ a b, x = .some a ∧ y = .some b ∧ R a b := by
  cases h with
  | none => exact .inl ⟨rfl, rfl⟩
  | some hab => exact .inr ⟨_, _, rfl, rfl, hab⟩

theorem Option.Rel.map {α β γ δ : Type} {R : α → β → Prop} {S : γ → δ → Prop} {x : Option α}
    {y : Option β} {f : α → γ} {g : β → δ} (h : Option.Rel R x y)
    (hf : ∀ a b, R a b → S (f a) (g b)) : Option.Rel S (x.map f) (y.map g) := by
  cases h with
  | none => exact .none
  | some hab => exact .some (hf _ _ hab)

namespace ValueSchema

open List (Forall₂)

/-! ## Values part by part -/

/-- Two entries have one key and related values. -/
def Keyed.Like {α β : Type} (R : α → β → Prop) (e : String × α) (f : String × β) : Prop :=
  e.1 = f.1 ∧ R e.2 f.2

/-- Two entries of maps have related keys and related values. -/
def Value.EntryLike (R : Value → Value → Prop) (e f : Value × Value) : Prop :=
  R e.1 f.1 ∧ R e.2 f.2

/-- Two values are one value without parts, or containers of one kind whose parts are related in
order. Identities may differ. -/
inductive Value.Parts (R : Value → Value → Prop) : Value → Value → Prop
  | plain {v : Value} (h : v.isComposite = false) : Parts R v v
  | array {id id' : Ident} {xs ys : List Value} (h : Forall₂ R xs ys) :
      Parts R (.array id xs) (.array id' ys)
  | object {id id' : Ident} {xs ys : List (String × Value)} (h : Forall₂ (Keyed.Like R) xs ys) :
      Parts R (.object id xs) (.object id' ys)
  | map {id id' : Ident} {xs ys : List (Value × Value)} (h : Forall₂ (Value.EntryLike R) xs ys) :
      Parts R (.map id xs) (.map id' ys)
  | set {id id' : Ident} {xs ys : List Value} (h : Forall₂ R xs ys) :
      Parts R (.set id xs) (.set id' ys)

namespace Value

/-- Every value has the parts that it has. -/
theorem Parts.refl {R : Value → Value → Prop} (hR : ∀ v, R v v) (v : Value) : v.Parts R v := by
  cases v with
  | array id items => exact .array (List.forall₂_same.mpr fun x _ => hR x)
  | object id fields => exact .object (List.forall₂_same.mpr fun f _ => ⟨rfl, hR f.2⟩)
  | map id entries => exact .map (List.forall₂_same.mpr fun e _ => ⟨hR e.1, hR e.2⟩)
  | set id items => exact .set (List.forall₂_same.mpr fun x _ => hR x)
  | _ => exact .plain rfl

theorem Parts.of_eq {v w : Value} (h : v = w) : v.Parts Eq w := h ▸ .refl (fun _ => rfl) v

theorem Parts.typeName_eq {R : Value → Value → Prop} {v w : Value} (h : v.Parts R w) :
    v.typeName = w.typeName := by
  cases h <;> rfl

theorem Parts.isUndefined_eq {R : Value → Value → Prop} {v w : Value} (h : v.Parts R w) :
    v.isUndefined = w.isUndefined := by
  cases h <;> rfl

theorem Parts.isNull_eq {R : Value → Value → Prop} {v w : Value} (h : v.Parts R w) :
    v.isNull = w.isNull := by
  cases h <;> rfl

end Value

namespace Keyed

variable {α β : Type} {R : α → β → Prop}

/-- Lists of related entries have the same keys. -/
theorem keys_eq_of_like {l : List (String × α)} {m : List (String × β)}
    (h : Forall₂ (Like R) l m) : keys l = keys m := by
  induction h with
  | nil => rfl
  | cons head _ ih =>
    simp only [keys, List.map_cons, List.cons.injEq] at ih ⊢
    exact ⟨head.1, ih⟩

theorem find?_like (key : String) {l : List (String × α)} {m : List (String × β)}
    (h : Forall₂ (Like R) l m) : Option.Rel R (find? key l) (find? key m) := by
  induction h with
  | nil => exact .none
  | @cons e f l m head tail ih =>
    obtain ⟨k, v⟩ := e
    obtain ⟨k', w⟩ := f
    obtain ⟨hk, hv⟩ := head
    simp only at hk hv
    subst hk
    rw [find?_cons, find?_cons]
    -- the heads have one key: both are found, or the search goes on in both tails
    by_cases hkey : key == k
    · rw [if_pos hkey, if_pos hkey]; exact .some hv
    · rw [if_neg hkey, if_neg hkey]; exact ih

theorem insert_like (key : String) {v : α} {w : β} (hv : R v w) {l : List (String × α)}
    {m : List (String × β)} (h : Forall₂ (Like R) l m) :
    Forall₂ (Like R) (insert key v l) (insert key w m) := by
  induction h with
  | nil => exact .cons ⟨rfl, hv⟩ .nil
  | @cons e f l m head tail ih =>
    obtain ⟨k, x⟩ := e
    obtain ⟨k', y⟩ := f
    obtain ⟨hk, hx⟩ := head
    simp only at hk hx
    subst hk
    simp only [insert]
    by_cases hkey : k = key
    · rw [if_pos hkey, if_pos hkey]; exact .cons ⟨rfl, hv⟩ tail
    · rw [if_neg hkey, if_neg hkey]; exact .cons ⟨rfl, hx⟩ ih

theorem insertAll_like {entries : List (String × α)} {others : List (String × β)}
    (h : Forall₂ (Like R) entries others) : ∀ {l : List (String × α)} {m : List (String × β)},
    Forall₂ (Like R) l m → Forall₂ (Like R) (insertAll l entries) (insertAll m others) := by
  induction h with
  | nil => exact fun hl => hl
  | @cons e f entries others head tail ih =>
    -- the lists written to change from step to step, so they are left open
    intro l m hl
    simp only [insertAll, List.foldl_cons] at ih ⊢
    rw [← head.1]
    exact ih (insert_like e.1 head.2 hl)

theorem ofList_like {entries : List (String × α)} {others : List (String × β)}
    (h : Forall₂ (Like R) entries others) : Forall₂ (Like R) (ofList entries) (ofList others) :=
  insertAll_like h .nil

end Keyed

/-! ## Verdicts and answers -/

/-- Two verdicts accept with related outputs, or reject with related lists of issues. -/
inductive Verdict.Like (value : Value → Value → Prop) (issues : List Issue → List Issue → Prop) :
    Verdict → Verdict → Prop
  | ok {v w : Value} (h : value v w) : Like value issues (.ok v) (.ok w)
  | error {e f : Issues} (h : issues e.toList f.toList) : Like value issues (.error e) (.error f)

/-! ## Likenesses -/

/-- What counts as alike in two judgements, and why every traversal keeps it so. -/
structure Likeness where
  site : Site → Site → Prop
  context : Context → Context → Prop
  input : Value → Value → Prop
  output : Value → Value → Prop
  issues : List Issue → List Issue → Prop
  site_child : ∀ {s s' : Site} (n : Nat), site s s' → site (s.child n) (s'.child n)
  context_depth : ∀ {c c' : Context}, context c c' → c.depth = c'.depth
  context_childKey : ∀ {c c' : Context} (key : String), context c c' →
    context (c.childKey key) (c'.childKey key)
  context_childIndex : ∀ {c c' : Context} (n : Nat), context c c' →
    context (c.childIndex n) (c'.childIndex n)
  context_atKey : ∀ {c c' : Context} (key : String), context c c' →
    context (c.atKey key) (c'.atKey key)
  /-- What has no identity is alike to itself. -/
  input_plain : ∀ {v : Value}, v.isComposite = false → input v v
  input_parts : ∀ {v w : Value}, input v w → v.Parts input w
  /-- What is handed on unchanged is alike as an output, too. -/
  output_of_input : ∀ {v w : Value}, input v w → output v w
  output_undefined : ∀ {v w : Value}, output v w → v.isUndefined = w.isUndefined
  output_string : ∀ {v w : Value}, output v w → v.string? = w.string?
  output_array : ∀ {s s' : Site} {xs ys : List Value}, site s s' → Forall₂ output xs ys →
    output (.array s.ident xs) (.array s'.ident ys)
  output_object : ∀ {s s' : Site} {xs ys : List (String × Value)}, site s s' →
    Forall₂ (Keyed.Like output) xs ys → output (.object s.ident xs) (.object s'.ident ys)
  output_map : ∀ {s s' : Site} {xs ys : List (Value × Value)}, site s s' →
    Forall₂ (Value.EntryLike output) xs ys → output (.map s.ident xs) (.map s'.ident ys)
  output_set : ∀ {s s' : Site} {xs ys : List Value}, site s s' → Forall₂ output xs ys →
    output (.set s.ident xs) (.set s'.ident ys)
  issues_nil : issues [] []
  issues_append : ∀ {l l' m m' : List Issue}, issues l l' → issues m m' →
    issues (l ++ m) (l' ++ m')
  issues_eq_nil : ∀ {l l' : List Issue}, issues l l' → (l = [] ↔ l' = [])
  /-- One finding, reported at both places. -/
  issues_here : ∀ {c c' : Context} (i : Issue), context c c' →
    issues [i.atPath c.path] [i.atPath c'.path]
  issues_received : ∀ {i i' : Issue} {v w : Value}, issues [i] [i'] → input v w →
    issues [i.withReceived v] [i'.withReceived w]
  /-- A message that is put on the findings about the value itself goes to the same ones. -/
  issues_override : ∀ {c c' : Context} {e f : Issues} (text : String), context c c' →
    issues e.toList f.toList →
    issues (e.overrideMessage c.path text).toList (f.overrideMessage c'.path text).toList

/-! What one and the same place or value has is one and the same. -/

theorem Site.child_congr {s s' : Site} (n : Nat) (h : s = s') : s.child n = s'.child n := h ▸ rfl

theorem Context.childKey_congr {c c' : Context} (key : String) (h : c = c') :
    c.childKey key = c'.childKey key := h ▸ rfl

theorem Context.childIndex_congr {c c' : Context} (n : Nat) (h : c = c') :
    c.childIndex n = c'.childIndex n := h ▸ rfl

theorem Context.atKey_congr {c c' : Context} (key : String) (h : c = c') :
    c.atKey key = c'.atKey key := h ▸ rfl

namespace Likeness

variable (L : Likeness)

def verdict : Verdict → Verdict → Prop := Verdict.Like L.output L.issues

def answer : Option Verdict → Option Verdict → Prop := Option.Rel L.verdict

/-- Two judges answer alike whatever alike things they are given. -/
def Judges (j j' : Judge) : Prop :=
  ∀ ⦃s s' : Site⦄ ⦃v v' : Value⦄ ⦃c c' : Context⦄, L.site s s' → L.input v v' → L.context c c' →
    L.answer (j s v c) (j' s' v' c')

/-- Two tests give one answer on alike inputs. -/
def Tests (t t' : Test) : Prop :=
  ∀ ⦃s s' : Site⦄ ⦃v v' : Value⦄ (depth : Nat), L.site s s' → L.input v v' →
    t s v depth = t' s' v' depth

/-- Two evaluators judge alike and test alike. -/
structure Evaluators (e e' : Evaluator) : Prop where
  judge : L.Judges e.judge e'.judge
  test : L.Tests e.test e'.test

variable {L}

/-! ## Issues -/

/-- A finding that reads the path of its context and nothing else of it. -/
theorem issues_local {i : Context → Issue} (hi : ∀ c, i c = (i Context.root).atPath c.path)
    {c c' : Context} (hc : L.context c c') : L.issues [i c] [i c'] := by
  rw [hi c, hi c']
  exact L.issues_here _ hc

/-- The same code and message at alike contexts. -/
theorem issues_issue {c c' : Context} (hc : L.context c c') (code : Code) (message : String) :
    L.issues [c.issue code message] [c'.issue code message] :=
  L.issues_here (Issue.new code message) hc

theorem issues_typeMismatch {c c' : Context} (hc : L.context c c') (code : Code)
    (expected : String) {v w : Value} (hv : L.input v w) :
    L.issues [c.typeMismatch code expected v] [c'.typeMismatch code expected w] := by
  -- the message names the type only, which alike values share
  have hname := (L.input_parts hv).typeName_eq
  simp only [Context.typeMismatch]
  refine L.issues_received ?_ hv
  rw [hname]
  exact L.issues_here ((Issue.new code
    ("Expected " ++ expected ++ ", received " ++ w.typeName)).withExpected expected) hc

/-! ## Verdicts -/

theorem verdict_reject {i i' : Issue} (h : L.issues [i] [i']) :
    L.verdict (Verdict.reject i) (Verdict.reject i') :=
  .error h

theorem verdict_finish {l l' : List Issue} {v w : Value} (hl : L.issues l l')
    (hv : L.output v w) : L.verdict (Verdict.finish l v) (Verdict.finish l' w) := by
  have hnil := L.issues_eq_nil hl
  -- there are issues on both sides or on neither
  cases l with
  | nil =>
    rw [hnil.mp rfl]
    exact .ok hv
  | cons i rest =>
    cases l' with
    | nil => exact absurd (hnil.mpr rfl) (List.cons_ne_nil _ _)
    | cons i' rest' => exact .error hl

theorem verdict_issues {a b : Verdict} (h : L.verdict a b) : L.issues a.issues b.issues := by
  cases h with
  | ok _ => exact L.issues_nil
  | error h => exact h

theorem verdict_isOk {a b : Verdict} (h : L.verdict a b) : a.isOk = b.isOk := by
  cases h <;> rfl

theorem verdict_output? {a b : Verdict} (h : L.verdict a b) :
    Option.Rel L.output a.output? b.output? := by
  cases h with
  | ok h => exact .some h
  | error _ => exact .none

theorem allIssues_like {l l' : List Verdict} (h : Forall₂ L.verdict l l') :
    L.issues (Verdict.allIssues l) (Verdict.allIssues l') := by
  induction h with
  | nil => exact L.issues_nil
  | cons head _ ih =>
    simp only [Verdict.allIssues, List.flatMap_cons] at ih ⊢
    exact L.issues_append (verdict_issues head) ih

theorem outputs_like {l l' : List Verdict} (h : Forall₂ L.verdict l l') :
    Forall₂ L.output (Verdict.outputs l) (Verdict.outputs l') :=
  List.rel_filterMap (fun _ _ hab => verdict_output? hab) h

end Likeness

end ValueSchema
