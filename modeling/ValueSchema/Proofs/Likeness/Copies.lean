/-
Judging copies.

Two values are copies of each other if they are one value once all identities are struck out. A
schema tells copies apart only where identities are read: by a literal or an enumerated value that
is a container, by repeats among elements, by what a set keeps, by the merging of an intersection,
where one container always equals itself, and by code of a caller's. Where none of this happens,
the judgements of two copies are copies of each other, at whatever sites they take place, as sites
serve to name containers and nothing else.
-/
import ValueSchema.Proofs.Likeness.Outputs

set_option autoImplicit false

namespace ValueSchema

open List (Forall₂)

/-! ## Identities struck out -/

namespace Value

mutual

/-- A value with one identity at all of its containers. -/
def anonymous : Value → Value
  | array _ items => array default (anonymousItems items)
  | object _ fields => object default (anonymousFields fields)
  | map _ entries => map default (anonymousEntries entries)
  | set _ items => set default (anonymousItems items)
  | v => v

def anonymousItems : List Value → List Value
  | [] => []
  | v :: rest => anonymous v :: anonymousItems rest

def anonymousFields : List (String × Value) → List (String × Value)
  | [] => []
  | (key, v) :: rest => (key, anonymous v) :: anonymousFields rest

def anonymousEntries : List (Value × Value) → List (Value × Value)
  | [] => []
  | (k, v) :: rest => (anonymous k, anonymous v) :: anonymousEntries rest

end

/-- Two values differ in identities only. -/
def Copies (v w : Value) : Prop := v.anonymous = w.anonymous

theorem anonymousItems_eq_map (l : List Value) : anonymousItems l = l.map anonymous := by
  induction l with
  | nil => rfl
  | cons v rest ih => exact congrArg (List.cons v.anonymous) ih

theorem anonymousFields_eq_map (l : List (String × Value)) :
    anonymousFields l = l.map fun f => (f.1, f.2.anonymous) := by
  induction l with
  | nil => rfl
  | cons f rest ih => exact congrArg (List.cons (f.1, f.2.anonymous)) ih

theorem anonymousEntries_eq_map (l : List (Value × Value)) :
    anonymousEntries l = l.map fun e => (e.1.anonymous, e.2.anonymous) := by
  induction l with
  | nil => rfl
  | cons e rest ih => exact congrArg (List.cons (e.1.anonymous, e.2.anonymous)) ih

theorem anonymous_array (id : Ident) (items : List Value) :
    (array id items).anonymous = array default (items.map anonymous) :=
  congrArg (array default) (anonymousItems_eq_map items)

theorem anonymous_object (id : Ident) (fields : List (String × Value)) :
    (object id fields).anonymous = object default (fields.map fun f => (f.1, f.2.anonymous)) :=
  congrArg (object default) (anonymousFields_eq_map fields)

theorem anonymous_map (id : Ident) (entries : List (Value × Value)) :
    (map id entries).anonymous
      = map default (entries.map fun e => (e.1.anonymous, e.2.anonymous)) :=
  congrArg (map default) (anonymousEntries_eq_map entries)

theorem anonymous_set (id : Ident) (items : List Value) :
    (set id items).anonymous = set default (items.map anonymous) :=
  congrArg (set default) (anonymousItems_eq_map items)

theorem copies_refl (v : Value) : v.Copies v := rfl

/-- Two lists have one image exactly if their elements have one image each. -/
theorem map_eq_map_iff_forall₂ {α β : Type} {f : α → β} {xs ys : List α} :
    xs.map f = ys.map f ↔ Forall₂ (fun x y => f x = f y) xs ys := by
  rw [← List.forall₂_eq_eq_eq, List.forall₂_map_left_iff, List.forall₂_map_right_iff]

theorem copies_array (id id' : Ident) (xs ys : List Value) :
    (array id xs).Copies (array id' ys) ↔ Forall₂ Copies xs ys := by
  unfold Copies
  rw [anonymous_array, anonymous_array, array.injEq, map_eq_map_iff_forall₂]
  exact and_iff_right rfl

theorem copies_set (id id' : Ident) (xs ys : List Value) :
    (set id xs).Copies (set id' ys) ↔ Forall₂ Copies xs ys := by
  unfold Copies
  rw [anonymous_set, anonymous_set, set.injEq, map_eq_map_iff_forall₂]
  exact and_iff_right rfl

theorem copies_object (id id' : Ident) (xs ys : List (String × Value)) :
    (object id xs).Copies (object id' ys) ↔ Forall₂ (Keyed.Like Copies) xs ys := by
  unfold Copies
  rw [anonymous_object, anonymous_object, object.injEq, map_eq_map_iff_forall₂]
  simp only [Prod.mk.injEq, true_and]
  exact Iff.rfl

theorem copies_map (id id' : Ident) (xs ys : List (Value × Value)) :
    (map id xs).Copies (map id' ys) ↔ Forall₂ (EntryLike Copies) xs ys := by
  unfold Copies
  rw [anonymous_map, anonymous_map, map.injEq, map_eq_map_iff_forall₂]
  simp only [Prod.mk.injEq, true_and]
  exact Iff.rfl

/-! ## Parts of copies -/

theorem anonymous_of_plain {v : Value} (h : v.isComposite = false) : v.anonymous = v := by
  rcases v with _ | _ | _ | _ | _ | _ | _ | _ | _ | _ | _ | _
  iterate 8 rfl
  all_goals exact absurd h (Bool.true_eq_false.mp · |>.elim)

theorem isComposite_anonymous (v : Value) : v.anonymous.isComposite = v.isComposite := by
  rcases v with _ | _ | _ | _ | _ | _ | _ | _ | _ | _ | _ | _ <;> rfl

theorem Copies.isComposite_eq {v w : Value} (h : v.Copies w) : v.isComposite = w.isComposite := by
  rw [← isComposite_anonymous v, h, isComposite_anonymous w]

/-- Without containers there is one value. -/
theorem Copies.eq_of_plain {v w : Value} (h : v.Copies w) (hv : v.isComposite = false) :
    v = w := by
  have hw : w.isComposite = false := h.isComposite_eq ▸ hv
  rw [← anonymous_of_plain hv, h, anonymous_of_plain hw]

/-- Copies have copies as parts. -/
theorem Copies.parts {v w : Value} (h : v.Copies w) : v.Parts Copies w := by
  by_cases hv : v.isComposite = false
  · rw [← h.eq_of_plain hv]
    exact .plain hv
  · have hkind : ∀ a b : Value, a.Copies b → a.anonymous = b.anonymous := fun _ _ h => h
    have hanon := hkind v w h
    rcases v with _ | _ | _ | _ | _ | _ | _ | _ | ⟨id, xs⟩ | ⟨id, xs⟩ | ⟨id, xs⟩ | ⟨id, xs⟩
    iterate 8 exact absurd rfl hv
    · rcases w with _ | _ | _ | _ | _ | _ | _ | _ | ⟨id', ys⟩ | _ | _ | _
      case array => exact .array ((copies_array id id' xs ys).mp h)
      all_goals exact Value.noConfusion hanon
    · rcases w with _ | _ | _ | _ | _ | _ | _ | _ | _ | ⟨id', ys⟩ | _ | _
      case object => exact .object ((copies_object id id' xs ys).mp h)
      all_goals exact Value.noConfusion hanon
    · rcases w with _ | _ | _ | _ | _ | _ | _ | _ | _ | _ | ⟨id', ys⟩ | _
      case map => exact .map ((copies_map id id' xs ys).mp h)
      all_goals exact Value.noConfusion hanon
    · rcases w with _ | _ | _ | _ | _ | _ | _ | _ | _ | _ | _ | ⟨id', ys⟩
      case set => exact .set ((copies_set id id' xs ys).mp h)
      all_goals exact Value.noConfusion hanon

/-- Copies have the same content. -/
theorem Copies.sameContent {v w : Value} (h : v.Copies w) : v.SameContent w := by
  induction v using Value.induction generalizing w with
  | node v ih =>
    rcases h.parts with hv | hin | hin | hin | hin
    · exact sameContent_refl v
    · have hall := (List.forall₂_and_left _ _).mpr ⟨ih, hin⟩
      exact (sameContent_array _ _ _ _).mpr (hall.imp fun x y hxy => hxy.1 hxy.2)
    · have hall := (List.forall₂_and_left _ _).mpr ⟨forall_mem_parts_object.mp ih, hin⟩
      exact (sameContent_object _ _ _ _).mpr
        (hall.imp fun f g hfg => ⟨hfg.2.1, hfg.1 hfg.2.2⟩)
    · have hall := (List.forall₂_and_left _ _).mpr ⟨forall_mem_parts_map.mp ih, hin⟩
      exact (sameContent_map _ _ _ _).mpr
        (hall.imp fun e f hef => ⟨hef.1.1 hef.2.1, hef.1.2 hef.2.2⟩)
    · have hall := (List.forall₂_and_left _ _).mpr ⟨ih, hin⟩
      exact (sameContent_set _ _ _ _).mpr (hall.imp fun x y hxy => hxy.1 hxy.2)

/-! ## What copies share -/

mutual

theorem height_anonymous : ∀ v : Value, v.anonymous.height = v.height
  | array _ items => by rw [anonymous, height, height, itemsHeight_anonymous items]
  | object _ fields => by rw [anonymous, height, height, fieldsHeight_anonymous fields]
  | map _ entries => by rw [anonymous, height, height, entriesHeight_anonymous entries]
  | set _ items => by rw [anonymous, height, height, itemsHeight_anonymous items]
  | undefined | null | bool _ | number _ | bigint _ | string _ | symbol _ | date _ => rfl

theorem itemsHeight_anonymous :
    ∀ l : List Value, itemsHeight (anonymousItems l) = itemsHeight l
  | [] => by rw [anonymousItems]
  | v :: rest => by
    rw [anonymousItems, itemsHeight, itemsHeight, height_anonymous v, itemsHeight_anonymous rest]

theorem fieldsHeight_anonymous :
    ∀ l : List (String × Value), fieldsHeight (anonymousFields l) = fieldsHeight l
  | [] => by rw [anonymousFields]
  | (_, v) :: rest => by
    rw [anonymousFields, fieldsHeight, fieldsHeight, height_anonymous v,
      fieldsHeight_anonymous rest]

theorem entriesHeight_anonymous :
    ∀ l : List (Value × Value), entriesHeight (anonymousEntries l) = entriesHeight l
  | [] => by rw [anonymousEntries]
  | (k, v) :: rest => by
    rw [anonymousEntries, entriesHeight, entriesHeight, height_anonymous k, height_anonymous v,
      entriesHeight_anonymous rest]

end

theorem Copies.height_eq {v w : Value} (h : v.Copies w) : v.height = w.height := by
  rw [← height_anonymous v, h, height_anonymous w]

/-- The display of a container tells its kind and its size. -/
theorem Copies.display_eq {v w : Value} (h : v.Copies w) : v.display = w.display := by
  rcases h.parts with hv | hin | hin | hin | hin
  · rfl
  · rw [display, display, hin.length_eq]
  · rfl
  · rw [display, display, hin.length_eq]
  · rw [display, display, hin.length_eq]

/-- A value that is no container agrees with two copies or with neither. -/
theorem Copies.sameValueZero_eq {v w l : Value} (h : v.Copies w) (hl : l.isComposite = false) :
    l.sameValueZero v = l.sameValueZero w := by
  by_cases hv : v.isComposite = false
  · rw [h.eq_of_plain hv]
  · have hdiffers : ∀ x : Value, x.isComposite ≠ false → l.sameValueZero x = false := by
      intro x hx
      rcases l with _ | _ | _ | _ | _ | _ | _ | _ | _ | _ | _ | _ <;>
        rcases x with _ | _ | _ | _ | _ | _ | _ | _ | _ | _ | _ | _ <;>
        first | rfl | exact absurd rfl hx | exact absurd hl Bool.noConfusion
    rw [hdiffers v hv, hdiffers w (h.isComposite_eq ▸ hv)]

/-- Keys that are no identities find two copies or neither. -/
theorem Copies.placeOf?_eq {v w : Value} (h : v.Copies w) {literals : List (Option Value)}
    (hl : ∀ l, some l ∈ literals → l.isComposite = false) :
    Tagged.placeOf? v.key literals = Tagged.placeOf? w.key literals := by
  by_cases hv : v.isComposite = false
  · rw [h.eq_of_plain hv]
  · have hmisses : ∀ x : Value, x.isComposite ≠ false →
        Tagged.placeOf? x.key literals = none := by
      intro x hx
      unfold Tagged.placeOf?
      rw [List.findIdx?_eq_none_iff]
      intro o ho
      rcases o with _ | l
      · rfl
      · have hplain := hl l ho
        rcases l with _ | _ | _ | _ | _ | _ | _ | _ | _ | _ | _ | _ <;>
          rcases x with _ | _ | _ | _ | _ | _ | _ | _ | _ | _ | _ | _ <;>
          first | rfl | exact absurd rfl hx | exact absurd hplain Bool.noConfusion
    rw [hmisses v hv, hmisses w (h.isComposite_eq ▸ hv)]

end Value

/-! ## Code of a caller's -/

/-- The code that a modifier calls answers copies with copies, wherever it builds them. -/
def Modifier.ReadsContent : Modifier → Prop
  | .transform mapper => ∀ s s' v w, v.Copies w →
    Except.Like Eq (Except.Like Eq Value.Copies) (mapper s v) (mapper s' w)
  | .preprocess mapper => ∀ s s' v w, v.Copies w →
    Except.Like Eq (Except.Like Eq Value.Copies) (mapper s v) (mapper s' w)
  | m => m.Respects Value.Copies

/-- A node reads no identity: it compares with no container, looks for no repeats, makes no set,
merges nothing, and calls code that answers copies with copies. -/
def Schema.ReadsContent : Schema → Prop
  | .literal v => v.isComposite = false
  | .enumeration entries => ∀ e ∈ entries, e.2.isComposite = false
  | .array _ bounds => bounds.unique = false
  | .set _ _ => False
  | .tagged discriminator options =>
    ∀ v, some v ∈ Tagged.literals discriminator options → v.isComposite = false
  | .intersection _ => False
  | .modified m _ => m.ReadsContent
  | _ => True

/-! ## The likeness -/

namespace Likeness

/-- Copies at any two sites and one context. -/
def copies : Likeness where
  site _ _ := True
  context := Eq
  input := Value.Copies
  output := Value.Copies
  issues := Forall₂ (Issue.Like Value.Copies)
  site_child := fun _ _ => trivial
  context_depth := fun h => congrArg Context.depth h
  context_childKey := Context.childKey_congr
  context_childIndex := Context.childIndex_congr
  context_atKey := Context.atKey_congr
  input_plain := fun _ => Value.copies_refl _
  input_parts := Value.Copies.parts
  output_of_input := id
  output_undefined := fun h => h.parts.isUndefined_eq
  output_string := fun h => Value.string?_eq_of_sameContent h.sameContent
  output_array := fun _ h => (Value.copies_array _ _ _ _).mpr h
  output_object := fun _ h => (Value.copies_object _ _ _ _).mpr h
  output_map := fun _ h => (Value.copies_map _ _ _ _).mpr h
  output_set := fun _ h => (Value.copies_set _ _ _ _).mpr h
  issues_nil := .nil
  issues_append := fun h h' => List.rel_append h h'
  issues_eq_nil := fun h => by rw [← List.length_eq_zero_iff, h.length_eq, List.length_eq_zero_iff]
  issues_here := fun i hc => hc ▸ .cons (.refl Value.copies_refl _) .nil
  issues_received := fun hi hv => by
    cases hi with
    | cons h _ => exact .cons (h.withReceived hv) .nil
  issues_override := fun text hc h => hc ▸ Issues.overrideMessage_like _ text h

theorem copies_rooted : copies.Rooted := fun _ => rfl

/-- A list of values that holds no container refuses copies alike. -/
theorem copies_choice (expected : String) {c c' : Context} {v w : Value} (hc : c = c')
    (h : v.Copies w) :
    copies.verdict (Choice.reject expected c v) (Choice.reject expected c' w) := by
  unfold Choice.reject
  rw [← hc, ← h.display_eq]
  exact verdict_reject (.cons ((Issue.Like.refl Value.copies_refl _).withReceived h) .nil)

theorem copies_literal {l : Value} (hl : l.isComposite = false) :
    copies.Leaf (Literal.run l) (Literal.accepts l) := by
  intro c c' v w hc hv
  have hsame : l.sameValueZero v = l.sameValueZero w := Value.Copies.sameValueZero_eq hv hl
  refine ⟨?_, hsame⟩
  unfold Literal.run
  rw [hsame, show c = c' from hc]
  by_cases haccepts : l.sameValueZero w = true
  · rw [if_pos haccepts, if_pos haccepts]
    exact .ok hv
  · rw [if_neg haccepts, if_neg haccepts]
    exact verdict_reject (.cons ((Issue.Like.refl Value.copies_refl _).withReceived hv) .nil)

theorem copies_words (options : List String) :
    copies.Leaf (Words.run options) (Words.accepts options) := by
  intro c c' v w hc hv
  have haccepts : Words.accepts options v = Words.accepts options w := by
    rcases Value.Copies.parts hv with _ | _ | _ | _ | _ <;> rfl
  refine ⟨?_, haccepts⟩
  unfold Words.run
  rw [haccepts]
  by_cases h : Words.accepts options w = true
  · rw [if_pos h, if_pos h]
    exact .ok hv
  · rw [if_neg h, if_neg h]
    exact copies_choice _ hc hv

theorem copies_enumeration {entries : List (String × Value)}
    (he : ∀ e ∈ entries, e.2.isComposite = false) :
    copies.Leaf (Enumeration.run entries) (Enumeration.accepts entries) := by
  intro c c' v w hc hv
  have haccepts : Enumeration.accepts entries v = Enumeration.accepts entries w := by
    unfold Enumeration.accepts
    rw [Bool.eq_iff_iff, List.any_eq_true, List.any_eq_true]
    refine exists_congr fun e => and_congr_right fun hmem => ?_
    rw [Value.Copies.sameValueZero_eq hv (he e hmem)]
  refine ⟨?_, haccepts⟩
  unfold Enumeration.run
  rw [haccepts]
  by_cases h : Enumeration.accepts entries w = true
  · rw [if_pos h, if_pos h]
    exact .ok hv
  · rw [if_neg h, if_neg h]
    exact copies_choice _ hc hv

theorem copies_modifies {m : Modifier} (h : m.ReadsContent) : copies.Modifies .sync m := by
  rcases m with _ | _ | _ | _ | _ | _ | ⟨check, text⟩ | refiner | mapper | mapper | _ | _ | _
  iterate 3 exact trivial
  iterate 2 exact Value.copies_refl _
  · exact trivial
  · intro c c' v w hc hv
    show copies.verdict (Verdict.ofCheck (check v) text c v) (Verdict.ofCheck (check w) text c' w)
    rw [h v w hv]
    exact ofCheck_like (check w) text hc hv
  · intro c c' v w hc hv
    rw [show c = c' from hc]
    exact Verdict.ofRefiner_like Value.copies_refl h c' hv
  · exact fun s s' v w _ hv => h s s' v w hv
  · exact fun s s' v w _ hv => h s s' v w hv
  · exact fun h => nomatch h
  · exact fun h => nomatch h
  · exact fun h => nomatch h

/-- A node that reads no identity does not tell copies apart. -/
theorem copies_admits {s : Schema} (h : s.ReadsContent) : copies.Admits .sync s := by
  rcases s with _ | _ | _ | _ | _ | _ | _ | _ | _ | ⟨_, bounds⟩ | _ | _ | _ | _ | _ | _ | _ | _ |
    ⟨m, _⟩ | _
  case literal => exact copies_literal h
  case words options => exact copies_words options
  case enumeration => exact copies_enumeration h
  case array => exact fun hunique => absurd (hunique.symm.trans h) Bool.noConfusion
  case set => exact h.elim
  case tagged => exact fun v w hv => Value.Copies.placeOf?_eq hv h
  case intersection => exact h.elim
  case modified => exact copies_modifies h
  case pipe => exact fun _ _ h => h
  all_goals exact trivial

end Likeness

/-! ## Schemas -/

/-- **Copies are judged alike** by a schema that reads no identity. -/
theorem Schema.validateIn_copies {schema : Schema} {family : Family}
    (hs : schema.Every ReadsContent) (hf : ∀ e ∈ family, e.2.Every ReadsContent) {v w : Value}
    (h : v.Copies w) (c : Context) :
    Likeness.copies.answer (schema.validateIn family v c) (schema.validateIn family w c) := by
  have hadmits : ∀ t : Schema, t.Every ReadsContent → t.Every (Likeness.copies.Admits .sync) :=
    fun _ ht => ht.mono fun _ hnode => Likeness.copies_admits hnode
  have href : ∀ ref, Likeness.copies.Evaluators
      (family.resolution .sync (family.budget schema v) ref)
      (family.resolution .sync (family.budget schema v) ref) :=
    Family.resolution_induction (motive := fun e => Likeness.copies.Evaluators e e)
      Likeness.unresolved_like
      (fun e he _ hresolve =>
        Likeness.evaluator_like Likeness.copies_rooted (hadmits _ (hf e he)) hresolve) _
  have heval := Likeness.evaluator_like Likeness.copies_rooted (hadmits _ hs) href
  -- copies are of one height, so definitions are unfolded equally often for both
  have hbudget : family.budget schema w = family.budget schema v := by
    unfold Family.budget
    rw [h.height_eq]
  unfold validateIn Family.evaluator
  rw [hbudget]
  exact heval.judge trivial h rfl

end ValueSchema
