/-
Sanitised values.

A value is sanitised at a depth if no object anywhere inside it has a key that is never allowed,
and every container inside it lies within a limit, counted from where the value stands. Both are
told by the parts of a value, so a container is sanitised if its parts are, one level deeper. What
a scan lets through is sanitised, and what an intersection merges out of sanitised values is, too.
-/
import ValueSchema.Proofs.Acceptance
import ValueSchema.Proofs.Parts
import ValueSchema.Proofs.Agreement.Containers
import ValueSchema.Judgement.Intersection

set_option autoImplicit false

namespace ValueSchema

variable {limit depth : Nat}

namespace Value

/-- The keys that an object itself has. -/
def ownKeys : Value → List String
  | object _ fields => Keyed.keys fields
  | _ => []

/-- Nothing inside a value that stands at a depth has a key that is never allowed or lies below a
limit. -/
def Sanitised (limit depth : Nat) (v : Value) : Prop :=
  ∀ k w, Within w k v →
    (∀ key ∈ w.ownKeys, Guard.isDangerous key = false)
      ∧ (w.isComposite = true → depth + k ≤ limit)

/-- A value is sanitised if it is so by itself and its parts are one level deeper. -/
theorem sanitised_iff {v : Value} : v.Sanitised limit depth
    ↔ (∀ key ∈ v.ownKeys, Guard.isDangerous key = false) ∧ (v.isComposite = true → depth ≤ limit)
      ∧ ∀ p ∈ v.parts, p.Sanitised limit (depth + 1) := by
  constructor
  · intro h
    obtain ⟨hkeys, hdepth⟩ := h 0 v .self
    refine ⟨hkeys, hdepth, fun p hp k w hw => ?_⟩
    -- what is inside a part is one level deeper inside the whole
    obtain ⟨hkeys, hdepth⟩ := h (k + 1) w (.part hp hw)
    refine ⟨hkeys, fun hcomposite => ?_⟩
    have hle := hdepth hcomposite
    omega
  · rintro ⟨hkeys, hdepth, hparts⟩ k w hw
    cases hw with
    | self => exact ⟨hkeys, hdepth⟩
    | @part n p _ hp hw =>
      obtain ⟨hkeys, hdepth⟩ := hparts p hp n w hw
      refine ⟨hkeys, fun hcomposite => ?_⟩
      have hle := hdepth hcomposite
      omega

theorem Sanitised.of_plain {v : Value} (h : v.isComposite = false) : v.Sanitised limit depth := by
  rw [sanitised_iff]
  cases v with
  | array _ _ | object _ _ | map _ _ | set _ _ => cases h
  | _ =>
    exact ⟨fun _ hkey => absurd hkey List.not_mem_nil, fun hc => (nomatch hc),
      fun _ hp => absurd hp List.not_mem_nil⟩

theorem sanitised_array {id : Ident} {items : List Value} :
    (array id items).Sanitised limit depth
      ↔ depth ≤ limit ∧ ∀ v ∈ items, v.Sanitised limit (depth + 1) := by
  rw [sanitised_iff]
  exact ⟨fun h => ⟨h.2.1 rfl, h.2.2⟩,
    fun h => ⟨fun _ hkey => absurd hkey List.not_mem_nil, fun _ => h.1, h.2⟩⟩

theorem sanitised_set {id : Ident} {items : List Value} :
    (set id items).Sanitised limit depth
      ↔ depth ≤ limit ∧ ∀ v ∈ items, v.Sanitised limit (depth + 1) := by
  rw [sanitised_iff]
  exact ⟨fun h => ⟨h.2.1 rfl, h.2.2⟩,
    fun h => ⟨fun _ hkey => absurd hkey List.not_mem_nil, fun _ => h.1, h.2⟩⟩

theorem sanitised_map {id : Ident} {entries : List (Value × Value)} :
    (map id entries).Sanitised limit depth
      ↔ depth ≤ limit
        ∧ ∀ e ∈ entries, e.1.Sanitised limit (depth + 1) ∧ e.2.Sanitised limit (depth + 1) := by
  rw [sanitised_iff]
  exact ⟨fun h => ⟨h.2.1 rfl, forall_mem_parts_map.mp h.2.2⟩,
    fun h => ⟨fun _ hkey => absurd hkey List.not_mem_nil, fun _ => h.1,
      forall_mem_parts_map.mpr h.2⟩⟩

/-- An entry of an object has a key that is allowed and a sanitised value. -/
def SanitisedField (limit depth : Nat) (f : String × Value) : Prop :=
  Guard.isDangerous f.1 = false ∧ f.2.Sanitised limit depth

theorem sanitised_object {id : Ident} {fields : List (String × Value)} :
    (object id fields).Sanitised limit depth
      ↔ depth ≤ limit ∧ ∀ f ∈ fields, SanitisedField limit (depth + 1) f := by
  rw [sanitised_iff]
  constructor
  · rintro ⟨hkeys, hdepth, hparts⟩
    exact ⟨hdepth rfl, fun f hf =>
      ⟨hkeys f.1 (List.mem_map_of_mem hf), hparts f.2 (List.mem_map_of_mem hf)⟩⟩
  · rintro ⟨hdepth, hfields⟩
    refine ⟨fun key hkey => ?_, fun _ => hdepth, fun p hp => ?_⟩
    · obtain ⟨f, hf, rfl⟩ := List.mem_map.mp hkey
      exact (hfields f hf).1
    · obtain ⟨f, hf, rfl⟩ := List.mem_map.mp hp
      exact (hfields f hf).2

end Value

/-! ## Scans -/

namespace Guard

open Value (SanitisedField)

variable {limits : Limits}

theorem scanAcceptsItems_eq_all (items : List Value) :
    scanAcceptsItems limits depth items = items.all (scanAccepts limits (depth + 1)) := by
  induction items with
  | nil => rfl
  | cons v rest ih => simp only [scanAcceptsItems, ih, List.all_cons]

theorem scanAcceptsFields_eq_all (fields : List (String × Value)) :
    scanAcceptsFields limits depth fields
      = fields.all fun f => scanAccepts limits (depth + 1) f.2 := by
  induction fields with
  | nil => rfl
  | cons f rest ih => simp only [scanAcceptsFields, ih, List.all_cons]

theorem scanAcceptsEntries_eq_all (entries : List (Value × Value)) :
    scanAcceptsEntries limits depth entries = entries.all fun e =>
      scanAccepts limits (depth + 1) e.1 && scanAccepts limits (depth + 1) e.2 := by
  induction entries with
  | nil => rfl
  | cons e rest ih => simp only [scanAcceptsEntries, ih, List.all_cons]

theorem depth_le_of_isOk (h : (checkDepth depth limits).isOk = true) : depth ≤ limits.maxDepth := by
  cases hd : checkDepth depth limits with
  | error r =>
    rw [hd] at h
    cases h
  | ok _ => exact depth_le_of_checkDepth hd

/-- **What a scan lets through is sanitised.** -/
theorem sanitised_of_scanAccepts (hl : limits.maxDepth ≤ limit) (v : Value) :
    ∀ depth, scanAccepts limits depth v = true → v.Sanitised limit depth := by
  induction v using Value.induction with
  | node v ih =>
    intro depth h
    -- the scan asks of every container what being sanitised asks, one level at a time
    cases v with
    | array id items =>
      rw [scanAccepts, scanAcceptsItems_eq_all, Bool.and_eq_true, List.all_eq_true] at h
      exact Value.sanitised_array.mpr
        ⟨Nat.le_trans (depth_le_of_isOk h.1) hl, fun x hx => ih x hx _ (h.2 x hx)⟩
    | set id items =>
      rw [scanAccepts, scanAcceptsItems_eq_all, Bool.and_eq_true, List.all_eq_true] at h
      exact Value.sanitised_set.mpr
        ⟨Nat.le_trans (depth_le_of_isOk h.1) hl, fun x hx => ih x hx _ (h.2 x hx)⟩
    | map id entries =>
      rw [scanAccepts, scanAcceptsEntries_eq_all, Bool.and_eq_true, List.all_eq_true] at h
      refine Value.sanitised_map.mpr ⟨Nat.le_trans (depth_le_of_isOk h.1) hl, fun e he => ?_⟩
      have hboth := Bool.and_eq_true_iff.mp (h.2 e he)
      have hparts := Value.forall_mem_parts_map.mp ih e he
      exact ⟨hparts.1 _ hboth.1, hparts.2 _ hboth.2⟩
    | object id fields =>
      rw [scanAccepts, scanAcceptsFields_eq_all, Bool.and_eq_true, List.all_eq_true] at h
      cases hc : checkObject (Keyed.keys fields) depth limits with
      | error r =>
        rw [hc] at h
        cases h.1
      | ok _ =>
        have hparts := Value.forall_mem_parts_object.mp ih
        rw [Value.sanitised_object]
        refine ⟨Nat.le_trans (depth_le_of_checkObject hc) hl, fun f hf => ?_⟩
        have hkey := isDangerous_of_checkObject hc f.1 (List.mem_map_of_mem hf)
        exact ⟨hkey, hparts f hf _ (h.2 f hf)⟩
    | _ => exact .of_plain rfl

theorem sanitised_of_scan (hl : limits.maxDepth ≤ limit) {v : Value} {c : Context}
    (h : scan limits c v = none) : v.Sanitised limit c.depth := by
  refine sanitised_of_scanAccepts hl v c.depth ?_
  rw [Judge.Agrees.scan_isNone, h]
  rfl

end Guard

/-! ## Sets and objects -/

namespace Value

theorem mem_of_mem_addDistinct {acc : List Value} {v w : Value} (h : w ∈ addDistinct acc v) :
    w ∈ acc ∨ w = v := by
  unfold addDistinct at h
  split at h
  · exact .inl h
  · simpa using h

/-- What is left of a list without repeats was in it. -/
theorem mem_of_mem_distinct {items : List Value} {w : Value} (h : w ∈ distinct items) :
    w ∈ items := by
  -- the list gathered so far is left open: whatever is added comes from the list
  have hfold : ∀ (l acc : List Value), w ∈ l.foldl addDistinct acc → w ∈ acc ∨ w ∈ l := by
    intro l
    induction l with
    | nil => exact fun acc h => .inl h
    | cons x rest ih =>
      intro acc h
      rcases ih (addDistinct acc x) h with h | h
      · rcases mem_of_mem_addDistinct h with h | rfl
        · exact .inl h
        · exact .inr List.mem_cons_self
      · exact .inr (List.mem_cons_of_mem _ h)
  rcases hfold items [] h with h | h
  · exact absurd h List.not_mem_nil
  · exact h

end Value

namespace Keyed

variable {α : Type}

theorem mem_of_mem_insert {key : String} {v : α} {e : String × α} {l : List (String × α)}
    (h : e ∈ insert key v l) : e = (key, v) ∨ e ∈ l := by
  induction l with
  | nil => exact .inl (List.mem_singleton.mp h)
  | cons f rest ih =>
    obtain ⟨k, w⟩ := f
    simp only [insert] at h
    by_cases hk : k = key
    · rw [if_pos hk, hk] at h
      rcases List.mem_cons.mp h with h | h
      · exact .inl h
      · exact .inr (List.mem_cons_of_mem _ h)
    · rw [if_neg hk] at h
      rcases List.mem_cons.mp h with rfl | h
      · exact .inr List.mem_cons_self
      · rcases ih h with h | h
        · exact .inl h
        · exact .inr (List.mem_cons_of_mem _ h)

theorem mem_of_mem_ofList {entries : List (String × α)} {e : String × α}
    (h : e ∈ ofList entries) : e ∈ entries := by
  -- the list written to is left open, as each entry changes it
  have hfold : ∀ (entries l : List (String × α)), e ∈ insertAll l entries →
      e ∈ l ∨ e ∈ entries := by
    intro entries
    induction entries with
    | nil => exact fun l h => .inl h
    | cons f rest ih =>
      intro l h
      rcases ih (insert f.1 f.2 l) h with h | h
      · rcases mem_of_mem_insert h with rfl | h
        · exact .inr List.mem_cons_self
        · exact .inl h
      · exact .inr (List.mem_cons_of_mem _ h)
  rcases hfold entries [] h with h | h
  · exact absurd h List.not_mem_nil
  · exact h

end Keyed

/-! ## Merging -/

namespace Intersection

open Value (SanitisedField)

/-- What merging comes to: the left output, or an object or an array that is built anew from two of
its kind. -/
theorem merge_eq_some {s : Site} {a b out : Value} (h : merge s a b = some out) :
    out = a
      ∨ (∃ id left id' right fields, a = .object id left ∧ b = .object id' right
        ∧ mergeFields s left 0 left right = some fields ∧ out = .object s.ident fields)
      ∨ ∃ id left id' right items, a = .array id left ∧ b = .array id' right
        ∧ mergeItems s 0 left right = some items ∧ out = .array s.ident items := by
  cases b with
  | object id' right =>
    simp only [merge] at h
    by_cases hagree : agree a (.object id' right) = true
    · rw [if_pos hagree] at h
      cases h
      exact .inl rfl
    · rw [if_neg hagree] at h
      cases a with
      | object id left =>
        obtain ⟨fields, hfields, rfl⟩ := Option.map_eq_some_iff.mp h
        exact .inr (.inl ⟨id, left, id', right, fields, rfl, rfl, hfields, rfl⟩)
      | _ => cases h
  | array id' right =>
    simp only [merge] at h
    by_cases hagree : agree a (.array id' right) = true
    · rw [if_pos hagree] at h
      cases h
      exact .inl rfl
    · rw [if_neg hagree] at h
      cases a with
      | array id left =>
        dsimp only at h
        by_cases hlen : left.length = right.length
        · rw [if_pos hlen] at h
          obtain ⟨items, hitems, rfl⟩ := Option.map_eq_some_iff.mp h
          exact .inr (.inr ⟨id, left, id', right, items, rfl, rfl, hitems, rfl⟩)
        · rw [if_neg hlen] at h
          cases h
      | _ => cases h
  | _ =>
    simp only [merge] at h
    split at h
    · cases h
      exact .inl rfl
    · cases h

/-- Whatever a value is merged into stays sanitised. -/
def MergesSanitised (limit : Nat) (b : Value) : Prop :=
  ∀ ⦃s : Site⦄ ⦃depth : Nat⦄ ⦃a out : Value⦄, a.Sanitised limit depth → b.Sanitised limit depth →
    merge s a b = some out → out.Sanitised limit depth

theorem mergeFields_sanitised {s : Site} {left right : List (String × Value)}
    (h : ∀ f ∈ right, MergesSanitised limit f.2)
    (hleft : ∀ f ∈ left, SanitisedField limit depth f)
    (hright : ∀ f ∈ right, SanitisedField limit depth f) :
    ∀ {n : Nat} {merged fields : List (String × Value)},
    (∀ f ∈ merged, SanitisedField limit depth f) →
    mergeFields s left n merged right = some fields →
    ∀ f ∈ fields, SanitisedField limit depth f := by
  induction right with
  | nil =>
    intro n merged fields hmerged hf
    cases hf
    exact hmerged
  | cons f rest ih =>
    obtain ⟨key, v⟩ := f
    rw [List.forall_mem_cons] at h hright
    intro n merged fields hmerged hf
    -- what was gathered stays sanitised whatever sanitised value is written under the key
    have hinsert : ∀ w : Value, w.Sanitised limit depth →
        ∀ f ∈ Keyed.insert key w merged, SanitisedField limit depth f := by
      intro w hw f hmem
      rcases Keyed.mem_of_mem_insert hmem with rfl | hmem
      · exact ⟨hright.1.1, hw⟩
      · exact hmerged f hmem
    simp only [mergeFields] at hf
    cases hl : Keyed.find? key left with
    | none =>
      rw [hl] at hf
      exact ih h.2 hright.2 (hinsert v hright.1.2) hf
    | some present =>
      simp only [hl] at hf
      cases hm : merge (s.child n) present v with
      | none =>
        rw [hm] at hf
        cases hf
      | some both =>
        rw [hm] at hf
        have hpresent := hleft _ (Keyed.mem_of_find? hl)
        exact ih h.2 hright.2 (hinsert both (h.1 hpresent.2 hright.1.2 hm)) hf

theorem mergeItems_sanitised {s : Site} {right : List Value}
    (h : ∀ v ∈ right, MergesSanitised limit v) (hright : ∀ v ∈ right, v.Sanitised limit depth) :
    ∀ {n : Nat} {left items : List Value}, (∀ v ∈ left, v.Sanitised limit depth) →
    mergeItems s n left right = some items → ∀ v ∈ items, v.Sanitised limit depth := by
  induction right with
  | nil =>
    intro n left items _ hi
    simp only [mergeItems] at hi
    cases hi
    exact fun v hv => absurd hv List.not_mem_nil
  | cons v rest ih =>
    rw [List.forall_mem_cons] at h hright
    intro n left items hleft hi
    cases left with
    | nil =>
      cases hi
      exact fun v hv => absurd hv List.not_mem_nil
    | cons present others =>
      rw [List.forall_mem_cons] at hleft
      simp only [mergeItems] at hi
      cases hm : merge (s.child n) present v with
      | none =>
        rw [hm] at hi
        cases hi
      | some both =>
        cases hr : mergeItems s (n + 1) others rest with
        | none =>
          rw [hm, hr] at hi
          cases hi
        | some merged =>
          rw [hm, hr] at hi
          cases hi
          rw [List.forall_mem_cons]
          exact ⟨h.1 hleft.1 hright.1 hm, ih h.2 hright.2 hleft.2 hr⟩

/-- **Merging keeps values sanitised.** What is written anew stands where the left output stood, and
every part of it is a part of one of the two or merged from parts of both. -/
theorem merge_sanitised (b : Value) : MergesSanitised limit b := by
  induction b using Value.induction with
  | node b ih =>
    intro s depth a out ha hb h
    -- the induction is on the parts of the right value, which merging descends into
    rcases merge_eq_some h with
      rfl | ⟨id, left, id', right, fields, rfl, rfl, hf, rfl⟩
        | ⟨id, left, id', right, items, rfl, rfl, hi, rfl⟩
    · exact ha
    · rw [Value.sanitised_object] at ha hb ⊢
      have hparts := Value.forall_mem_parts_object.mp ih
      exact ⟨ha.1, mergeFields_sanitised hparts ha.2 hb.2 ha.2 hf⟩
    · rw [Value.sanitised_array] at ha hb ⊢
      exact ⟨ha.1, mergeItems_sanitised ih hb.2 ha.2 hi⟩

theorem mergeFrom_sanitised {s : Site} {outputs : List Value}
    (h : ∀ v ∈ outputs, v.Sanitised limit depth) : ∀ {n : Nat} {gathered out : Value},
    gathered.Sanitised limit depth → mergeFrom s n gathered outputs = some out →
    out.Sanitised limit depth := by
  induction outputs with
  | nil =>
    intro n gathered out hg hm
    cases hm
    exact hg
  | cons v rest ih =>
    rw [List.forall_mem_cons] at h
    intro n gathered out hg hm
    simp only [mergeFrom] at hm
    cases hboth : merge (s.child n) gathered v with
    | none =>
      rw [hboth] at hm
      cases hm
    | some both =>
      rw [hboth] at hm
      exact ih h.2 (merge_sanitised v hg h.1 hboth) hm

theorem mergeAll_sanitised {s : Site} {outputs : List Value} {out : Value}
    (h : ∀ v ∈ outputs, v.Sanitised limit depth) (hm : mergeAll s outputs = some out) :
    out.Sanitised limit depth := by
  cases outputs with
  | nil =>
    cases hm
    exact .of_plain rfl
  | cons first rest =>
    rw [List.forall_mem_cons] at h
    exact mergeFrom_sanitised h.2 h.1 hm

end Intersection

end ValueSchema
