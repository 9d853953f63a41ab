/-
Where containers come from.

Before a judgement starts there is a heap: the containers of the value, those that the schema holds
as constants, and those that code of a caller's refers to. A heap gives every identity one container
at most, which is what makes an identity one. A judgement adds containers that are named after its
sites. So there is a set of containers that a judgement can meet, and a value is made of such a set
if every container inside it is in the set and no object inside it repeats a key.
-/
import ValueSchema.Proofs.Idempotence.Merging

set_option autoImplicit false

namespace ValueSchema

/-! ## Heaps -/

/-- The container that an identity is the identity of. -/
abbrev Heap := Ident → Option Value

namespace Heap

/-- A container lies in the heap, under its identity. -/
def Holds (H : Heap) (v : Value) : Prop := ∃ id, v.ident? = some id ∧ H id = some v

/-- Everything in the heap was there before a run. -/
def OlderThan (H : Heap) (run : Nat) : Prop := ∀ id v, H id = some v → Value.identRun id ≤ run

/-- A set of containers has all that a judgement at a site can meet: what lies in the heap, and what
is built at the site and further inside. -/
structure Allows (H : Heap) (s : Site) (P : Value → Prop) : Prop where
  held : ∀ v, H.Holds v → P v
  built : ∀ v, v.Built s.Makes → P v

variable {H : Heap} {s : Site} {P : Value → Prop}

/-- One identity is the identity of one container. -/
theorem Holds.eq {v w : Value} (hv : H.Holds v) (hw : H.Holds w) (hid : v.ident? = w.ident?) :
    v = w := by
  obtain ⟨id, hvid, hv⟩ := hv
  obtain ⟨id', hwid, hw⟩ := hw
  rw [hid, hwid] at hvid
  cases hvid
  rw [hv] at hw
  exact Option.some.inj hw

/-- A part of a judgement meets nothing else. -/
theorem Allows.child (h : H.Allows s P) (n : Nat) : H.Allows (s.child n) P where
  held := h.held
  built := by
    rintro v ⟨id, hid, hmade⟩
    exact h.built v ⟨id, hid, hmade.of_child⟩

/-- A container that is built at the site may be met. -/
theorem Allows.ident (h : H.Allows s P) {v : Value} (hv : v.ident? = some s.ident) : P v :=
  h.built v ⟨s.ident, hv, s.makes_ident⟩

end Heap

/-! ## Values made of containers -/

namespace Value

variable {P Q : Value → Prop} {v w : Value}

/-- Every container inside a value is in a set, and no object inside it repeats a key. -/
def MadeOf (P : Value → Prop) (v : Value) : Prop :=
  ∀ k w, Within w k v → w.ownKeys.Nodup ∧ (w.isComposite = true → P w)

theorem madeOf_iff : v.MadeOf P ↔ (v.ownKeys.Nodup ∧ (v.isComposite = true → P v))
    ∧ ∀ p ∈ v.parts, p.MadeOf P := by
  constructor
  · intro h
    exact ⟨h 0 v .self, fun p hp k w hw => h (k + 1) w (.part hp hw)⟩
  · rintro ⟨hown, hparts⟩ k w hw
    cases hw with
    | self => exact hown
    | @part n p _ hp hw => exact hparts p hp n w hw

namespace MadeOf

theorem wellKeyed (h : v.MadeOf P) : v.WellKeyed := fun k w hw => (h k w hw).1

theorem nodup_ownKeys (h : v.MadeOf P) : v.ownKeys.Nodup := h.wellKeyed.nodup_ownKeys

theorem holds (h : v.MadeOf P) (hv : v.isComposite = true) : P v := (h 0 v .self).2 hv

theorem mem_parts (h : v.MadeOf P) (hw : w ∈ v.parts) : w.MadeOf P := (madeOf_iff.mp h).2 w hw

theorem part (h : v.MadeOf P) {step : Step} (hw : v.part? step = some w) : w.MadeOf P :=
  h.mem_parts (mem_parts_of_part? hw)

theorem mono (hPQ : ∀ w, P w → Q w) (h : v.MadeOf P) : v.MadeOf Q :=
  fun k w hw => (h k w hw).imp_right fun hP hc => hPQ w (hP hc)

theorem of_plain (h : v.isComposite = false) : v.MadeOf P := by
  rw [madeOf_iff]
  refine ⟨⟨(WellKeyed.of_plain h).nodup_ownKeys, fun hc => ?_⟩, ?_⟩
  · rw [h] at hc
    cases hc
  · cases v with
    | array _ _ | object _ _ | map _ _ | set _ _ => cases h
    | _ => exact fun p hp => absurd hp List.not_mem_nil

end MadeOf

theorem madeOf_array {id : Ident} {items : List Value} :
    (array id items).MadeOf P ↔ P (array id items) ∧ ∀ v ∈ items, v.MadeOf P := by
  rw [madeOf_iff]
  exact and_congr_left' ⟨fun h => h.2 rfl, fun h => ⟨List.nodup_nil, fun _ => h⟩⟩

theorem madeOf_set {id : Ident} {items : List Value} :
    (set id items).MadeOf P ↔ P (set id items) ∧ ∀ v ∈ items, v.MadeOf P := by
  rw [madeOf_iff]
  exact and_congr_left' ⟨fun h => h.2 rfl, fun h => ⟨List.nodup_nil, fun _ => h⟩⟩

theorem madeOf_map {id : Ident} {entries : List (Value × Value)} : (map id entries).MadeOf P
    ↔ P (map id entries) ∧ ∀ e ∈ entries, e.1.MadeOf P ∧ e.2.MadeOf P := by
  rw [madeOf_iff, forall_mem_parts_map]
  exact and_congr_left' ⟨fun h => h.2 rfl, fun h => ⟨List.nodup_nil, fun _ => h⟩⟩

theorem madeOf_object {id : Ident} {fields : List (String × Value)} : (object id fields).MadeOf P
    ↔ ((Keyed.keys fields).Nodup ∧ P (object id fields)) ∧ ∀ e ∈ fields, e.2.MadeOf P := by
  rw [madeOf_iff, forall_mem_parts_object]
  exact and_congr_left' ⟨fun h => ⟨h.1, h.2 rfl⟩, fun h => ⟨h.1, fun _ => h.2⟩⟩

end Value

/-- Writing entries one after the other repeats no key. -/
theorem Keyed.nodup_keys_ofList {α : Type} (entries : List (String × α)) :
    (keys (ofList entries)).Nodup := by
  have hall : ∀ l m : List (String × α), (keys m).Nodup → (keys (insertAll m l)).Nodup := by
    intro l
    induction l with
    | nil => exact fun m hm => hm
    | cons e rest ih => exact fun m hm => ih (insert e.1 e.2 m) (nodup_keys_insert e.1 e.2 m hm)
  exact hall entries [] List.nodup_nil

/-! ## Merging -/

namespace Intersection

variable {H : Heap} {P : Value → Prop}

/-- What a value is merged into is made of the same containers as before, and of new ones. -/
def MergesMadeOf (H : Heap) (P : Value → Prop) (b : Value) : Prop :=
  ∀ ⦃s : Site⦄ ⦃a out : Value⦄, H.Allows s P → a.MadeOf P → b.MadeOf P → merge s a b = some out →
    out.MadeOf P

theorem mergeFields_madeOf {s : Site} {left right : List (String × Value)} (hs : H.Allows s P)
    (h : ∀ e ∈ right, MergesMadeOf H P e.2) (hleft : ∀ e ∈ left, e.2.MadeOf P)
    (hright : ∀ e ∈ right, e.2.MadeOf P) : ∀ {n : Nat} {merged fields : List (String × Value)},
    (∀ e ∈ merged, e.2.MadeOf P) → mergeFields s left n merged right = some fields →
    ∀ e ∈ fields, e.2.MadeOf P := by
  induction right with
  | nil =>
    intro n merged fields hmerged hf
    cases hf
    exact hmerged
  | cons e rest ih =>
    obtain ⟨key, v⟩ := e
    rw [List.forall_mem_cons] at h hright
    intro n merged fields hmerged hf
    obtain ⟨z, hz, hrest⟩ := mergeFields_cons hf
    -- what is written under the key is the field on the right, or merged with the one on the left
    have hzmade : z.MadeOf P := by
      cases hl : Keyed.find? key left with
      | none =>
        rw [hl] at hz
        cases hz.eq_right
        exact hright.1
      | some p =>
        rw [hl] at hz
        obtain ⟨m, z', hm, hzz⟩ := hz.eq_both
        cases hzz
        exact h.1 (hs.child m) (hleft _ (Keyed.mem_of_find? hl)) hright.1 hm
    refine ih h.2 hright.2 (fun e he => ?_) hrest
    rcases Keyed.mem_of_mem_insert he with rfl | he
    · exact hzmade
    · exact hmerged e he

theorem mergeItems_madeOf {s : Site} {right : List Value} (hs : H.Allows s P)
    (h : ∀ v ∈ right, MergesMadeOf H P v) (hright : ∀ v ∈ right, v.MadeOf P) :
    ∀ {n : Nat} {left items : List Value}, (∀ v ∈ left, v.MadeOf P) →
    mergeItems s n left right = some items → ∀ v ∈ items, v.MadeOf P := by
  induction right with
  | nil =>
    intro n left items _ hi
    simp only [mergeItems] at hi
    cases hi
    exact fun v hv => absurd hv List.not_mem_nil
  | cons v rest ih =>
    rw [List.forall_mem_cons] at h hright
    intro n left items hleft hi
    cases left with
    | nil =>
      cases hi
      exact fun v hv => absurd hv List.not_mem_nil
    | cons present others =>
      rw [List.forall_mem_cons] at hleft
      simp only [mergeItems] at hi
      cases hm : merge (s.child n) present v with
      | none =>
        rw [hm] at hi
        cases hi
      | some both =>
        cases hr : mergeItems s (n + 1) others rest with
        | none =>
          rw [hm, hr] at hi
          cases hi
        | some merged =>
          rw [hm, hr] at hi
          cases hi
          rw [List.forall_mem_cons]
          exact ⟨h.1 (hs.child n) hleft.1 hright.1 hm, ih h.2 hright.2 hleft.2 hr⟩

/-- **Merging adds nothing** but what it builds. -/
theorem merge_madeOf (b : Value) : MergesMadeOf H P b := by
  induction b using Value.induction with
  | node b ih =>
    intro s a out hs ha hb h
    rcases merge_eq_some h with
      rfl | ⟨id, left, id', right, fields, rfl, rfl, hf, rfl⟩
        | ⟨id, left, id', right, items, rfl, rfl, hi, rfl⟩
    · exact ha
    · rw [Value.madeOf_object] at ha hb ⊢
      have hparts := Value.forall_mem_parts_object.mp ih
      exact ⟨⟨nodup_mergeFields ha.1.1 hf, hs.ident rfl⟩,
        mergeFields_madeOf hs hparts ha.2 hb.2 ha.2 hf⟩
    · rw [Value.madeOf_array] at ha hb ⊢
      exact ⟨hs.ident rfl, mergeItems_madeOf hs ih hb.2 ha.2 hi⟩

theorem mergeFrom_madeOf {s : Site} {outputs : List Value} (hs : H.Allows s P)
    (h : ∀ v ∈ outputs, v.MadeOf P) : ∀ {n : Nat} {gathered out : Value}, gathered.MadeOf P →
    mergeFrom s n gathered outputs = some out → out.MadeOf P := by
  induction outputs with
  | nil =>
    intro n gathered out hg hm
    cases hm
    exact hg
  | cons v rest ih =>
    rw [List.forall_mem_cons] at h
    intro n gathered out hg hm
    simp only [mergeFrom] at hm
    cases hboth : merge (s.child n) gathered v with
    | none =>
      rw [hboth] at hm
      cases hm
    | some both =>
      rw [hboth] at hm
      exact ih h.2 (merge_madeOf v (hs.child n) hg h.1 hboth) hm

theorem mergeAll_madeOf {s : Site} {outputs : List Value} {out : Value} (hs : H.Allows s P)
    (h : ∀ v ∈ outputs, v.MadeOf P) (hm : mergeAll s outputs = some out) : out.MadeOf P := by
  cases outputs with
  | nil =>
    cases hm
    exact .of_plain rfl
  | cons first rest =>
    rw [List.forall_mem_cons] at h
    exact mergeFrom_madeOf hs h.2 h.1 hm

end Intersection

end ValueSchema
