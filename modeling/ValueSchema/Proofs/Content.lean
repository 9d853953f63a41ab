/-
Values with the same content.

Content is compared part by part, so two containers of one kind have the same content exactly if
their parts do in order. From there on nothing needs the functions by which contents are compared.
-/
import ValueSchema.Value.Content
import ValueSchema.Proofs.Likeness.Basic
import ValueSchema.Proofs.Parts

set_option autoImplicit false

namespace ValueSchema

open List (Forall₂)

namespace Value

/-- Two values have the same content. -/
def SameContent (v w : Value) : Prop := v.sameContent w = true

/-! ## Containers -/

theorem sameContentItems_iff (xs ys : List Value) :
    sameContentItems xs ys = true ↔ Forall₂ SameContent xs ys := by
  induction xs generalizing ys with
  | nil => cases ys <;> simp [sameContentItems]
  | cons x xs ih =>
    cases ys with
    | nil => simp [sameContentItems]
    | cons y ys =>
      simp only [sameContentItems, Bool.and_eq_true, List.forall₂_cons, ih]
      exact Iff.rfl

theorem sameContentFields_iff (xs ys : List (String × Value)) :
    sameContentFields xs ys = true ↔ Forall₂ (Keyed.Like SameContent) xs ys := by
  induction xs generalizing ys with
  | nil => cases ys <;> simp [sameContentFields]
  | cons x xs ih =>
    obtain ⟨k, x⟩ := x
    cases ys with
    | nil => simp [sameContentFields]
    | cons y ys =>
      obtain ⟨l, y⟩ := y
      simp only [sameContentFields, Bool.and_eq_true, beq_iff_eq, List.forall₂_cons, ih]
      exact Iff.rfl

theorem sameContentEntries_iff (xs ys : List (Value × Value)) :
    sameContentEntries xs ys = true ↔ Forall₂ (EntryLike SameContent) xs ys := by
  induction xs generalizing ys with
  | nil => cases ys <;> simp [sameContentEntries]
  | cons x xs ih =>
    obtain ⟨k, x⟩ := x
    cases ys with
    | nil => simp [sameContentEntries]
    | cons y ys =>
      obtain ⟨l, y⟩ := y
      simp only [sameContentEntries, Bool.and_eq_true, List.forall₂_cons, ih]
      exact Iff.rfl

theorem sameContent_array (id id' : Ident) (xs ys : List Value) :
    (array id xs).SameContent (array id' ys) ↔ Forall₂ SameContent xs ys := by
  unfold SameContent
  rw [sameContent]
  exact sameContentItems_iff xs ys

theorem sameContent_set (id id' : Ident) (xs ys : List Value) :
    (set id xs).SameContent (set id' ys) ↔ Forall₂ SameContent xs ys := by
  unfold SameContent
  rw [sameContent]
  exact sameContentItems_iff xs ys

theorem sameContent_object (id id' : Ident) (xs ys : List (String × Value)) :
    (object id xs).SameContent (object id' ys) ↔ Forall₂ (Keyed.Like SameContent) xs ys := by
  unfold SameContent
  rw [sameContent]
  exact sameContentFields_iff xs ys

theorem sameContent_map (id id' : Ident) (xs ys : List (Value × Value)) :
    (map id xs).SameContent (map id' ys) ↔ Forall₂ (EntryLike SameContent) xs ys := by
  unfold SameContent
  rw [sameContent]
  exact sameContentEntries_iff xs ys

theorem sameContent_refl (v : Value) : v.SameContent v := by
  induction v using Value.induction with
  | node v ih =>
    -- containers by their parts, all other values by their key
    cases v with
    | array id items => exact (sameContent_array _ _ _ _).mpr (List.forall₂_same.mpr ih)
    | set id items => exact (sameContent_set _ _ _ _).mpr (List.forall₂_same.mpr ih)
    | object id fields =>
      have hfields := forall_mem_parts_object.mp ih
      exact (sameContent_object _ _ _ _).mpr
        (List.forall₂_same.mpr fun f hf => ⟨rfl, hfields f hf⟩)
    | map id entries =>
      exact (sameContent_map _ _ _ _).mpr (List.forall₂_same.mpr (forall_mem_parts_map.mp ih))
    | _ => simp [SameContent, sameContent, isComposite, ident?]

/-! ## Values without parts -/

/-- Values of which one is no container have the same content exactly if they have one key. -/
theorem sameContent_plain {v w : Value} (hv : v.isComposite = false) :
    v.SameContent w ↔ w.isComposite = false ∧ v.exactKey = w.exactKey := by
  unfold SameContent
  cases v <;> simp only [isComposite, ident?, Option.isSome_some, Bool.true_eq_false] at hv <;>
    rw [sameContent] <;> simp [isComposite, ident?]

/-- A container has such parts as every value with the same content. -/
theorem parts_of_sameContent {v w : Value} (hv : v.isComposite = true) (h : v.SameContent w) :
    v.Parts SameContent w := by
  -- contents are compared within one kind of container only
  cases v with
  | array id xs =>
    cases w with
    | array id' ys => exact .array ((sameContent_array _ _ _ _).mp h)
    | _ => simp [SameContent, sameContent, isComposite, ident?] at h
  | object id xs =>
    cases w with
    | object id' ys => exact .object ((sameContent_object _ _ _ _).mp h)
    | _ => simp [SameContent, sameContent, isComposite, ident?] at h
  | map id xs =>
    cases w with
    | map id' ys => exact .map ((sameContent_map _ _ _ _).mp h)
    | _ => simp [SameContent, sameContent, isComposite, ident?] at h
  | set id xs =>
    cases w with
    | set id' ys => exact .set ((sameContent_set _ _ _ _).mp h)
    | _ => simp [SameContent, sameContent, isComposite, ident?] at h
  | _ => cases hv

/-- Two values with the same content have such parts, or are told by one key. -/
theorem parts_or_key_of_sameContent {v w : Value} (h : v.SameContent w) :
    v.Parts SameContent w ∨ v.exactKey = w.exactKey := by
  by_cases hv : v.isComposite = true
  · exact .inl (parts_of_sameContent hv h)
  · exact .inr ((sameContent_plain (Bool.eq_false_iff.mpr hv)).mp h).2

/-! ## What shows of a value -/

theorem isUndefined_eq_key (v : Value) : v.isUndefined = (v.exactKey == .undefined) := by
  cases v <;> rfl

theorem string?_eq_key (v : Value) :
    v.string? = match v.exactKey with
      | .string s => some s
      | _ => none := by
  cases v <;> rfl

theorem isUndefined_eq_of_sameContent {v w : Value} (h : v.SameContent w) :
    v.isUndefined = w.isUndefined := by
  rcases parts_or_key_of_sameContent h with hp | hk
  · exact hp.isUndefined_eq
  · rw [isUndefined_eq_key, isUndefined_eq_key, hk]

theorem string?_eq_of_sameContent {v w : Value} (h : v.SameContent w) : v.string? = w.string? := by
  rcases parts_or_key_of_sameContent h with hp | hk
  · cases hp <;> rfl
  · rw [string?_eq_key, string?_eq_key, hk]

/-! ## What a hash of the content reads -/

theorem itemTokens_eq_flatMap (l : List Value) : itemTokens l = l.flatMap contentTokens := by
  induction l with
  | nil => rfl
  | cons v rest ih => rw [itemTokens, List.flatMap_cons, ih]

theorem fieldTokens_eq_flatMap (l : List (String × Value)) :
    fieldTokens l = l.flatMap fun f => .field f.1 :: f.2.contentTokens := by
  induction l with
  | nil => rfl
  | cons f rest ih => rw [fieldTokens, List.flatMap_cons, ih, List.cons_append]

theorem entryTokens_eq_flatMap (l : List (Value × Value)) :
    entryTokens l = l.flatMap fun e => e.1.contentTokens ++ e.2.contentTokens := by
  induction l with
  | nil => rfl
  | cons e rest ih => rw [entryTokens, List.flatMap_cons, ih]

/-- Lists of which the elements read alike one by one read alike. -/
theorem flatMap_eq_of_forall₂ {α β : Type} {f : α → List β} {xs ys : List α}
    (h : Forall₂ (fun x y => f x = f y) xs ys) : xs.flatMap f = ys.flatMap f := by
  induction h with
  | nil => rfl
  | cons head _ ih => rw [List.flatMap_cons, List.flatMap_cons, head, ih]

/-- **Values with the same content read alike**, so every hash of the content is one for both. -/
theorem contentTokens_eq_of_sameContent {v w : Value} (h : v.SameContent w) :
    v.contentTokens = w.contentTokens := by
  induction v using Value.induction generalizing w with
  | node v ih =>
    by_cases hv : v.isComposite = false
    · -- the kind of a value without parts shows in its key
      obtain ⟨_, hkey⟩ := (sameContent_plain hv).mp h
      rcases v with _ | _ | _ | _ | _ | _ | _ | _ | _ | _ | _ | _ <;>
        rcases w with _ | _ | _ | _ | _ | _ | _ | _ | _ | _ | _ | _ <;>
        first
          | exact Key.noConfusion hkey
          | exact congrArg (fun key => [Token.kind _, .leaf key]) hkey
          | exact absurd hv Bool.noConfusion
    · have hcomposite : v.isComposite = true := Bool.eq_false_iff.not_left.mp hv
      rcases parts_of_sameContent hcomposite h with hplain | hin | hin | hin | hin
      · rfl
      · have hall := (List.forall₂_and_left _ _).mpr ⟨ih, hin⟩
        have htokens := flatMap_eq_of_forall₂ (hall.imp fun x y hxy => hxy.1 hxy.2)
        simp only [contentTokens, hin.length_eq, itemTokens_eq_flatMap]
        rw [← htokens]
        rfl
      · have hall := (List.forall₂_and_left _ _).mpr ⟨forall_mem_parts_object.mp ih, hin⟩
        simp only [contentTokens, hin.length_eq, fieldTokens_eq_flatMap]
        rw [flatMap_eq_of_forall₂ (hall.imp fun f g hfg => by rw [hfg.2.1, hfg.1 hfg.2.2])]
      · have hall := (List.forall₂_and_left _ _).mpr ⟨forall_mem_parts_map.mp ih, hin⟩
        simp only [contentTokens, hin.length_eq, entryTokens_eq_flatMap]
        rw [flatMap_eq_of_forall₂ (hall.imp fun e f hef => by
          rw [hef.1.1 hef.2.1, hef.1.2 hef.2.2])]
      · have hall := (List.forall₂_and_left _ _).mpr ⟨ih, hin⟩
        have htokens := flatMap_eq_of_forall₂ (hall.imp fun x y hxy => hxy.1 hxy.2)
        simp only [contentTokens, hin.length_eq, itemTokens_eq_flatMap]
        rw [← htokens]
        rfl

end Value

end ValueSchema
