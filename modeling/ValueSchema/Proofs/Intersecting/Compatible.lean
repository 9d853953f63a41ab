/-
Which outputs can be merged.

Two outputs merge if they agree, or if they are containers that are merged part by part and the
parts merge that both have. Where one identity is the identity of one container this is symmetric,
it does not depend on the site, and a merge can be merged with a third output exactly if both
outputs that went into it can. So whether many outputs can be merged one after the other is a
question about each two of them. What they are merged into is the least value that each of them
fits in.
-/
import ValueSchema.Proofs.Idempotence.Merging
import ValueSchema.Proofs.Intersecting.Normal
import ValueSchema.Proofs.Renaming.Judgements

set_option autoImplicit false

namespace ValueSchema

namespace Value

variable {a b c : Value}

/-! ## Coherence -/

/-- No object inside two values repeats a key, and what has one identity in both of them is one
container. -/
structure Coherent (a b : Value) : Prop where
  left : a.WellKeyed
  right : b.WellKeyed
  one : ∀ k v l w, Within v k a → Within w l b → v.isComposite = true → v.ident? = w.ident? → v = w

namespace Coherent

theorem symm (h : Coherent a b) : Coherent b a where
  left := h.right
  right := h.left
  one k v l w hv hw hc hid := by
    have hcw : w.isComposite = true := by
      rw [isComposite, ← hid]
      exact hc
    exact (h.one l w k v hw hv hcw hid.symm).symm

theorem part_left (h : Coherent a b) {step : Step} {p : Value} (hp : a.part? step = some p) :
    Coherent p b where
  left := h.left.part hp
  right := h.right
  one k v l w hv hw := h.one (k + 1) v l w (.part (mem_parts_of_part? hp) hv) hw

theorem part_right (h : Coherent a b) {step : Step} {q : Value} (hq : b.part? step = some q) :
    Coherent a q :=
  (h.symm.part_left hq).symm

theorem part (h : Coherent a b) {step step' : Step} {p q : Value} (hp : a.part? step = some p)
    (hq : b.part? step' = some q) : Coherent p q :=
  (h.part_left hp).part_right hq

/-- One identity is one container. -/
theorem eq (h : Coherent a b) (ha : a.isComposite = true) (hid : a.ident? = b.ident?) : a = b :=
  h.one 0 a 0 b .self .self ha hid

end Coherent

/-! ## Structural equality -/

/-- Two containers have one frame, as many keys, and equal parts at the same steps. -/
structure EqualParts (a b : Value) : Prop where
  frame : b.frame = a.frame
  size : a.ownKeys.length = b.ownKeys.length
  parts : ∀ step x, a.part? step = some x → ∃ y, b.part? step = some y ∧ x.equal y = true

theorem EqualParts.equal (h : EqualParts a b) (ha : a.isComposite = true)
    (hkeyed : a.ownKeys.Nodup) : a.equal b = true :=
  (equal_iff h.frame ha hkeyed).mpr (.inr ⟨h.size, h.parts⟩)

/-- Every part of the second container is equal to a part of the first one. -/
theorem EqualParts.found (h : EqualParts a b) (hkeyed : a.ownKeys.Nodup) {step : Step} {y : Value}
    (hy : b.part? step = some y) : ∃ x, a.part? step = some x ∧ x.equal y = true := by
  have hfound : ∀ step x, a.part? step = some x → ∃ y, b.part? step = some y := by
    intro step x hx
    obtain ⟨y, hy, _⟩ := h.parts step x hx
    exact ⟨y, hy⟩
  obtain ⟨x, hx⟩ := found_of_length_eq h.frame hkeyed h.size hfound hy
  obtain ⟨y', hy', hequal⟩ := h.parts step x hx
  rw [hy] at hy'
  cases hy'
  exact ⟨x, hx, hequal⟩

theorem ident?_eq_of_sameContainer (h : a.sameContainer b = true) : a.ident? = b.ident? := by
  cases a <;> cases b <;> first | cases h | exact congrArg some (beq_iff_eq.mp h)

theorem equal_of_sameContainer (h : a.sameContainer b = true) : a.equal b = true := by
  cases a <;> cases b <;> first
    | cases h
    | simp only [sameContainer] at h
      simp only [equal, h, Bool.true_or]

/-- Containers of one frame with one identity are the same container. -/
theorem sameContainer_of_frame_eq (ha : a.isComposite = true) (hframe : b.frame = a.frame)
    (hid : a.ident? = b.ident?) : a.sameContainer b = true := by
  cases a with
  | array _ _ | object _ _ | map _ _ | set _ _ =>
    cases b <;> first | exact beq_iff_eq.mpr (Option.some.inj hid) | cases hframe
  | _ => cases ha

/-- Structurally equal containers that are not one container have one frame. -/
theorem frame_eq_of_equal (ha : a.isComposite = true) (hapart : a.sameContainer b = false)
    (hequal : a.equal b = true) : b.frame = a.frame := by
  cases a with
  | array id xs =>
    cases b with
    | array id' ys =>
      rw [sameContainer] at hapart
      simp only [equal, hapart, Bool.false_or, equalItems_iff] at hequal
      exact congrArg Frame.array hequal.length_eq.symm
    | _ => simp [equal] at hequal
  | set id xs =>
    cases b with
    | set id' ys =>
      rw [sameContainer] at hapart
      simp only [equal, hapart, Bool.false_or, equalItems_iff] at hequal
      exact congrArg Frame.set hequal.length_eq.symm
    | _ => simp [equal] at hequal
  | map id xs =>
    cases b with
    | map id' ys =>
      rw [sameContainer] at hapart
      simp only [equal, hapart, Bool.false_or, equalEntries_iff] at hequal
      exact congrArg Frame.map hequal.length_eq.symm
    | _ => simp [equal] at hequal
  | object id xs =>
    cases b with
    | object id' ys => rfl
    | _ => simp [equal] at hequal
  | _ => cases ha

/-- **Containers are structurally equal** exactly if they are the same container or have equal
parts. -/
theorem equal_iff_parts (ha : a.isComposite = true) (hkeyed : a.ownKeys.Nodup) :
    a.equal b = true ↔ a.sameContainer b = true ∨ EqualParts a b := by
  cases hsame : a.sameContainer b with
  | true => exact iff_of_true (equal_of_sameContainer hsame) (.inl rfl)
  | false =>
    refine ⟨fun hequal => .inr ?_, fun h => (h.resolve_left Bool.false_ne_true).equal ha hkeyed⟩
    have hframe := frame_eq_of_equal ha hsame hequal
    rcases (equal_iff hframe ha hkeyed).mp hequal with hid | ⟨hsize, hparts⟩
    · rw [sameContainer_of_frame_eq ha hframe hid] at hsame
      cases hsame
    · exact ⟨hframe, hsize, hparts⟩

/-- Structurally equal containers are one container, or have equal parts. -/
theorem Coherent.equal_cases (h : Coherent a b) (ha : a.isComposite = true)
    (hequal : a.equal b = true) : a = b ∨ EqualParts a b :=
  ((equal_iff_parts ha h.left.nodup_ownKeys).mp hequal).imp_left fun hsame =>
    h.eq ha (ident?_eq_of_sameContainer hsame)

theorem isComposite_of_part? {step : Step} {p : Value} (h : a.part? step = some p) :
    a.isComposite = true := by
  cases a with
  | array _ _ | object _ _ | map _ _ | set _ _ => rfl
  | _ => cases step <;> cases h

theorem isComposite_eq_of_normal_eq (h : a.normal = b.normal) : a.isComposite = b.isComposite := by
  rw [← isComposite_normal a, h, isComposite_normal]

theorem isComposite_of_equal (h : a.equal b = true) : a.isComposite = b.isComposite := by
  by_cases ha : a.isComposite = true
  · cases a with
    | array _ _ | object _ _ | map _ _ | set _ _ => cases b <;> first | rfl | simp [equal] at h
    | _ => cases ha
  · rw [Bool.not_eq_true] at ha
    exact isComposite_eq_of_normal_eq ((equal_iff_normal ha).mp h).1

/-- **Structural equality is symmetric** where one identity is one container. -/
theorem equal_symm (a : Value) : ∀ {b : Value}, Coherent a b → a.equal b = true →
    b.equal a = true := by
  induction a using Value.induction with
  | node a ih =>
    intro b hab h
    have hcomposite := isComposite_of_equal h
    by_cases ha : a.isComposite = true
    · rcases hab.equal_cases ha h with rfl | hparts
      · exact h
      · refine EqualParts.equal ⟨hparts.frame.symm, hparts.size.symm, fun step y hy => ?_⟩
          (hcomposite.symm.trans ha) hab.right.nodup_ownKeys
        obtain ⟨x, hx, hequal⟩ := hparts.found hab.left.nodup_ownKeys hy
        exact ⟨x, hx, ih x (mem_parts_of_part? hx) (hab.part hx hy) hequal⟩
    · rw [Bool.not_eq_true] at ha
      obtain ⟨hnormal, hnan⟩ := (equal_iff_normal ha).mp h
      rw [equal_iff_normal (hcomposite.symm.trans ha)]
      exact ⟨hnormal.symm, hnormal ▸ hnan⟩

/-- **Structural equality is transitive** where one identity is one container. -/
theorem equal_trans (a : Value) : ∀ {b c : Value}, Coherent a b → Coherent b c →
    a.equal b = true → b.equal c = true → a.equal c = true := by
  induction a using Value.induction with
  | node a ih =>
    intro b c hab hbc h h'
    by_cases ha : a.isComposite = true
    · have hb : b.isComposite = true := (isComposite_of_equal h).symm.trans ha
      rcases hab.equal_cases ha h with rfl | hparts
      · exact h'
      rcases hbc.equal_cases hb h' with rfl | hparts'
      · exact h
      refine EqualParts.equal ⟨hparts'.frame.trans hparts.frame, hparts.size.trans hparts'.size,
        fun step x hx => ?_⟩ ha hab.left.nodup_ownKeys
      obtain ⟨y, hy, hxy⟩ := hparts.parts step x hx
      obtain ⟨z, hz, hyz⟩ := hparts'.parts step y hy
      exact ⟨z, hz, ih x (mem_parts_of_part? hx) (hab.part hx hy) (hbc.part hy hz) hxy hyz⟩
    · rw [Bool.not_eq_true] at ha
      obtain ⟨hnormal, hnan⟩ := (equal_iff_normal ha).mp h
      have hb : b.isComposite = false := (isComposite_of_equal h).symm.trans ha
      rw [equal_iff_normal ha]
      exact ⟨hnormal.trans ((equal_iff_normal hb).mp h').1, hnan⟩

end Value

namespace Intersection

open Value (Coherent EqualParts)

variable {a b c : Value} {s : Site}

/-! ## Agreement -/

theorem agree_plain (ha : a.isComposite = false) :
    agree a b = true ↔ a.normal = b.normal := by
  have hcontainer : a.sameContainer b = false := by
    cases a with
    | array _ _ | object _ _ | map _ _ | set _ _ => cases ha
    | _ => rfl
  rw [agree, Value.sameValueZero, hcontainer, Bool.or_false, Bool.or_eq_true,
    Value.samePrimitive_iff_normal ha, Value.equal_iff_normal ha, or_iff_right_of_imp And.left]

theorem agree_composite (ha : a.isComposite = true) :
    agree a b = true ↔ a.equal b = true := by
  rw [agree, Bool.or_eq_true, or_iff_left_iff_imp]
  intro h
  rw [Value.sameValueZero_eq_sameContainer ha] at h
  exact Value.equal_of_sameContainer h

theorem agree_self (a : Value) : agree a a = true := by
  by_cases ha : a.isComposite = true
  · rw [agree, Value.sameValueZero_self ha, Bool.or_true]
  · rw [Bool.not_eq_true] at ha
    exact (agree_plain ha).mpr rfl

theorem isComposite_of_agree (h : agree a b = true) : a.isComposite = b.isComposite := by
  by_cases ha : a.isComposite = true
  · exact Value.isComposite_of_equal ((agree_composite ha).mp h)
  · rw [Bool.not_eq_true] at ha
    exact Value.isComposite_eq_of_normal_eq ((agree_plain ha).mp h)

theorem agree_of_equal (h : a.equal b = true) : agree a b = true := by
  rw [agree, h, Bool.true_or]

theorem agree_symm (hab : Coherent a b) (h : agree a b = true) : agree b a = true := by
  have hcomposite := isComposite_of_agree h
  by_cases ha : a.isComposite = true
  · exact agree_of_equal (Value.equal_symm a hab ((agree_composite ha).mp h))
  · rw [Bool.not_eq_true] at ha
    exact (agree_plain (hcomposite.symm.trans ha)).mpr ((agree_plain ha).mp h).symm

theorem agree_trans (hab : Coherent a b) (hbc : Coherent b c) (h : agree a b = true)
    (h' : agree b c = true) : agree a c = true := by
  have hcomposite := isComposite_of_agree h
  by_cases ha : a.isComposite = true
  · exact agree_of_equal (Value.equal_trans a hab hbc ((agree_composite ha).mp h)
      ((agree_composite (hcomposite.symm.trans ha)).mp h'))
  · rw [Bool.not_eq_true] at ha
    exact (agree_plain ha).mpr (((agree_plain ha).mp h).trans
      ((agree_plain (hcomposite.symm.trans ha)).mp h'))

/-- Structurally equal values fit in each other. -/
theorem fitsIn_of_equal (a : Value) : ∀ {b : Value}, Coherent a b → a.equal b = true →
    a.FitsIn b := by
  induction a using Value.induction with
  | node a ih =>
    intro b hab h
    by_cases ha : a.isComposite = true
    · rcases hab.equal_cases ha h with rfl | hparts
      · exact .refl a
      · refine .of_parts ha hparts.frame.symm fun step x hx => ?_
        obtain ⟨y, hy, hequal⟩ := hparts.parts step x hx
        exact ⟨y, hy, ih x (Value.mem_parts_of_part? hx) (hab.part hx hy) hequal⟩
    · rw [Bool.not_eq_true] at ha
      exact .of_normal_eq ((Value.equal_iff_normal ha).mp h).1

theorem fitsIn_of_agree (hab : Coherent a b) (h : agree a b = true) : a.FitsIn b := by
  by_cases ha : a.isComposite = true
  · exact fitsIn_of_equal a hab ((agree_composite ha).mp h)
  · rw [Bool.not_eq_true] at ha
    exact .of_normal_eq ((agree_plain ha).mp h)

/-! ## Compatibility -/

/-- Two outputs can be merged: they agree, or they are merged part by part and the parts can be
merged that both have. -/
inductive Compatible : Value → Value → Prop
  | agree {a b : Value} (h : agree a b = true) : Compatible a b
  | parts {a b : Value} (frame : b.frame = a.frame) (merges : MergesParts a)
      (parts : ∀ step p q, a.part? step = some p → b.part? step = some q → Compatible p q) :
      Compatible a b

theorem MergesParts.isComposite (h : MergesParts a) : a.isComposite = true := by
  cases a with
  | array _ _ | object _ _ => rfl
  | _ => exact h.elim

/-- Outputs that do not agree merge only within one frame. -/
theorem frame_eq_of_merge {out : Value} (h : merge s a b = some out)
    (hagree : agree a b = false) : b.frame = a.frame := by
  cases b with
  | object id' right =>
    simp only [merge, hagree, Bool.false_eq_true, if_false] at h
    cases a with
    | object id left => rfl
    | _ => cases h
  | array id' right =>
    simp only [merge, hagree, Bool.false_eq_true, if_false] at h
    cases a with
    | array id left =>
      by_cases hlen : left.length = right.length
      · exact congrArg Frame.array hlen.symm
      · simp only [if_neg hlen] at h
        cases h
    | _ => cases h
  | _ =>
    simp only [merge, hagree, Bool.false_eq_true, if_false] at h
    cases h

namespace Compatible

/-- The parts that two compatible containers both have are compatible. -/
theorem part (hab : Coherent a b) (h : Compatible a b) {step : Step} {p q : Value}
    (hp : a.part? step = some p) (hq : b.part? step = some q) : Compatible p q := by
  cases h with
  | parts _ _ hparts => exact hparts step p q hp hq
  | agree hagree =>
    have ha : a.isComposite = true := Value.isComposite_of_part? hp
    rcases hab.equal_cases ha ((agree_composite ha).mp hagree) with rfl | hparts
    · rw [hp] at hq
      cases hq
      exact .agree (agree_self p)
    · obtain ⟨y, hy, hequal⟩ := hparts.parts step p hp
      rw [hq] at hy
      cases hy
      exact .agree (agree_of_equal hequal)

/-- Compatible containers have one frame. -/
theorem frame_eq (hab : Coherent a b) (ha : a.isComposite = true) (h : Compatible a b) :
    b.frame = a.frame := by
  cases h with
  | parts hframe _ _ => exact hframe
  | agree hagree =>
    rcases hab.equal_cases ha ((agree_composite ha).mp hagree) with rfl | hparts
    · rfl
    · exact hparts.frame

theorem symm (h : Compatible a b) : Coherent a b → Compatible b a := by
  induction h with
  | agree hagree => exact fun hab => .agree (agree_symm hab hagree)
  | parts frame merges _ ih =>
    intro hab
    refine .parts frame.symm (mergesParts_of_frame_eq frame merges) fun step q p hq hp => ?_
    exact ih step p q hp hq (hab.part hp hq)

/-- What is compatible with one of two outputs that agree is compatible with the other one. -/
theorem of_agree (h : Compatible a c) : ∀ {b : Value}, Coherent a b → Coherent a c → Coherent b c →
    Intersection.agree a b = true → Compatible b c := by
  induction h with
  | agree hac =>
    intro b hab hac' _ h
    exact .agree (agree_trans hab.symm hac' (agree_symm hab h) hac)
  | @parts a c frame merges hparts ih =>
    intro b hab hac hbc h
    have ha := merges.isComposite
    rcases hab.equal_cases ha ((agree_composite ha).mp h) with rfl | hequal
    · exact .parts frame merges hparts
    · refine .parts (frame.trans hequal.frame.symm) (mergesParts_of_frame_eq hequal.frame merges)
        fun step y z hy hz => ?_
      obtain ⟨x, hx, hxy⟩ := hequal.found hab.left.nodup_ownKeys hy
      exact ih step x z hx hz (hab.part hx hy) (hac.part hx hz) (hbc.part hy hz)
        (agree_of_equal hxy)

end Compatible

/-- **Outputs merge exactly if they are compatible**, at whatever site. -/
theorem exists_merge_iff (a : Value) : ∀ {b : Value} (s : Site), a.WellKeyed → b.WellKeyed →
    ((∃ out, merge s a b = some out) ↔ Compatible a b) := by
  induction a using Value.induction with
  | node a ih =>
    intro b s ha hb
    constructor
    · rintro ⟨out, h⟩
      by_cases hagree : agree a b = true
      · exact .agree hagree
      rw [Bool.not_eq_true] at hagree
      have hframe := frame_eq_of_merge h hagree
      rcases merge_cases hframe ha.nodup_ownKeys hb.nodup_ownKeys h with ⟨hagree', _⟩
        | ⟨_, hmerges, _, _, _, hparts⟩
      · rw [hagree] at hagree'
        cases hagree'
      · refine .parts hframe hmerges fun step p q hp hq => ?_
        have hpart := hparts step
        rw [hp, hq] at hpart
        obtain ⟨n, z, hz, _⟩ := hpart.eq_both
        exact (ih p (Value.mem_parts_of_part? hp) _ (ha.part hp) (hb.part hq)).mp ⟨z, hz⟩
    · intro h
      cases h with
      | agree hagree => exact ⟨a, merge_of_agree hagree⟩
      | parts hframe hmerges hparts =>
        refine merge_total hframe hb.nodup_ownKeys hmerges fun step p q hp hq n => ?_
        exact (ih p (Value.mem_parts_of_part? hp) _ (ha.part hp) (hb.part hq)).mpr
          (hparts step p q hp hq)

/-! ## What a merge is compatible with -/

/-- The merge of two outputs is the first one if they agree, and otherwise built of their parts. -/
theorem merge_cases_of_wellKeyed {m : Value} (ha : a.WellKeyed) (hb : b.WellKeyed)
    (h : merge s a b = some m) : (agree a b = true ∧ m = a)
      ∨ (b.frame = a.frame ∧ MergesParts a ∧ m.frame = a.frame
        ∧ ∀ step, PartMerged s (a.part? step) (b.part? step) (m.part? step)) := by
  by_cases hagree : agree a b = true
  · rw [merge_of_agree hagree] at h
    cases h
    exact .inl ⟨hagree, rfl⟩
  rw [Bool.not_eq_true] at hagree
  have hframe := frame_eq_of_merge h hagree
  rcases merge_cases hframe ha.nodup_ownKeys hb.nodup_ownKeys h with ⟨hagree', _⟩
    | ⟨_, hmerges, hmframe, _, _, hparts⟩
  · rw [hagree] at hagree'
    cases hagree'
  · exact .inr ⟨hframe, hmerges, hmframe, hparts⟩

namespace PartMerged

variable {o o' r : Option Value} {p q z : Value}

/-- A part on the left goes into the merge as it is, or merged with one on the right. -/
theorem of_left (h : PartMerged s o o' r) (hp : o = some p) : (o' = none ∧ r = some p)
    ∨ ∃ q n z, o' = some q ∧ merge (s.child n) p q = some z ∧ r = some z := by
  cases h with
  | neither => cases hp
  | left _ =>
    cases hp
    exact .inl ⟨rfl, rfl⟩
  | right _ => cases hp
  | both hz =>
    cases hp
    exact .inr ⟨_, _, _, rfl, hz, rfl⟩

/-- A part on the right goes into the merge as it is, or merged with one on the left. -/
theorem of_right (h : PartMerged s o o' r) (hq : o' = some q) : (o = none ∧ r = some q)
    ∨ ∃ p n z, o = some p ∧ merge (s.child n) p q = some z ∧ r = some z := by
  cases h with
  | neither => cases hq
  | left _ => cases hq
  | right _ =>
    cases hq
    exact .inl ⟨rfl, rfl⟩
  | both hz =>
    cases hq
    exact .inr ⟨_, _, _, rfl, hz, rfl⟩

/-- A part of the merge comes from one side, or is merged from both. -/
theorem of_merged (h : PartMerged s o o' r) (hz : r = some z) : (o = some z ∧ o' = none)
    ∨ (o = none ∧ o' = some z)
    ∨ ∃ p q n, o = some p ∧ o' = some q ∧ merge (s.child n) p q = some z := by
  cases h with
  | neither => cases hz
  | left _ =>
    cases hz
    exact .inl ⟨rfl, rfl⟩
  | right _ =>
    cases hz
    exact .inr (.inl ⟨rfl, rfl⟩)
  | both h =>
    cases hz
    exact .inr (.inr ⟨_, _, _, rfl, rfl, h⟩)

end PartMerged

/-- **A merge is compatible with what both outputs are compatible with**, and with nothing else. -/
theorem compatible_merge_iff (a : Value) : ∀ {b c m : Value} {s : Site}, Coherent a b →
    Coherent a c → Coherent b c → Coherent m c → merge s a b = some m →
    (Compatible m c ↔ Compatible a c ∧ Compatible b c) := by
  induction a using Value.induction with
  | node a ih =>
    intro b c m s hab hac hbc hmc h
    rcases merge_cases_of_wellKeyed hab.left hab.right h with ⟨hagree, rfl⟩
      | ⟨hframe, hmerges, hmframe, hparts⟩
    · exact ⟨fun hc => ⟨hc, hc.of_agree hab hac hbc hagree⟩, And.left⟩
    have ha := hmerges.isComposite
    have hm : m.isComposite = true := (Value.isComposite_eq_of_frame_eq hmframe).trans ha
    -- parts that were merged, against a part of the third output
    have hboth : ∀ {step : Step} {p q z w : Value} {n : Nat}, a.part? step = some p →
        b.part? step = some q → m.part? step = some z → c.part? step = some w →
        merge (s.child n) p q = some z → (Compatible z w ↔ Compatible p w ∧ Compatible q w) :=
      fun hp hq hz hw => ih _ (Value.mem_parts_of_part? hp) (hab.part hp hq) (hac.part hp hw)
        (hbc.part hq hw) (hmc.part hz hw)
    constructor
    · intro hc
      have hcframe := (hc.frame_eq hmc hm).trans hmframe
      refine ⟨.parts hcframe hmerges fun step p w hp hw => ?_,
        .parts (hcframe.trans hframe.symm) (mergesParts_of_frame_eq hframe hmerges)
          fun step q w hq hw => ?_⟩
      · rcases (hparts step).of_left hp with ⟨_, hz⟩ | ⟨q, n, z, hq, hmerge, hz⟩
        · exact hc.part hmc hz hw
        · exact ((hboth hp hq hz hw hmerge).mp (hc.part hmc hz hw)).1
      · rcases (hparts step).of_right hq with ⟨_, hz⟩ | ⟨p, n, z, hp, hmerge, hz⟩
        · exact hc.part hmc hz hw
        · exact ((hboth hp hq hz hw hmerge).mp (hc.part hmc hz hw)).2
    · rintro ⟨hca, hcb⟩
      refine .parts ((hca.frame_eq hac ha).trans hmframe.symm)
        (mergesParts_of_frame_eq hmframe hmerges) fun step z w hz hw => ?_
      rcases (hparts step).of_merged hz with ⟨hp, _⟩ | ⟨_, hq⟩ | ⟨p, q, n, hp, hq, hmerge⟩
      · exact hca.part hac hp hw
      · exact hcb.part hbc hq hw
      · exact (hboth hp hq hz hw hmerge).mpr ⟨hca.part hac hp hw, hcb.part hbc hq hw⟩

/-! ## Merges as least upper bounds -/

/-- **Both outputs fit in their merge.** -/
theorem fitsIn_merge (a : Value) : ∀ {b m : Value} {s : Site}, Coherent a b →
    merge s a b = some m → a.FitsIn m ∧ b.FitsIn m := by
  induction a using Value.induction with
  | node a ih =>
    intro b m s hab h
    rcases merge_cases_of_wellKeyed hab.left hab.right h with ⟨hagree, rfl⟩
      | ⟨hframe, hmerges, hmframe, hparts⟩
    · exact ⟨.refl m, fitsIn_of_agree hab.symm (agree_symm hab hagree)⟩
    have ha := hmerges.isComposite
    have hb : b.isComposite = true := (Value.isComposite_eq_of_frame_eq hframe).trans ha
    refine ⟨.of_parts ha hmframe.symm fun step p hp => ?_,
      .of_parts hb (hframe.trans hmframe.symm) fun step q hq => ?_⟩
    · rcases (hparts step).of_left hp with ⟨_, hz⟩ | ⟨q, n, z, hq, hmerge, hz⟩
      · exact ⟨p, hz, .refl p⟩
      · exact ⟨z, hz, (ih p (Value.mem_parts_of_part? hp) (hab.part hp hq) hmerge).1⟩
    · rcases (hparts step).of_right hq with ⟨_, hz⟩ | ⟨p, n, z, hp, hmerge, hz⟩
      · exact ⟨q, hz, .refl q⟩
      · exact ⟨z, hz, (ih p (Value.mem_parts_of_part? hp) (hab.part hp hq) hmerge).2⟩

/-- **A merge fits in everything that both outputs fit in.** -/
theorem merge_fitsIn (a : Value) : ∀ {b m w : Value} {s : Site}, a.WellKeyed → b.WellKeyed →
    merge s a b = some m → a.FitsIn w → b.FitsIn w → m.FitsIn w := by
  induction a using Value.induction with
  | node a ih =>
    intro b m w s ha hb h haw hbw
    rcases merge_cases_of_wellKeyed ha hb h with ⟨_, rfl⟩ | ⟨_, hmerges, hmframe, hparts⟩
    · exact haw
    have hc := hmerges.isComposite
    have hm : m.isComposite = true := (Value.isComposite_eq_of_frame_eq hmframe).trans hc
    refine .of_parts hm (hmframe.trans (haw.frame_eq hc)) fun step z hz => ?_
    rcases (hparts step).of_merged hz with ⟨hp, _⟩ | ⟨_, hq⟩ | ⟨p, q, n, hp, hq, hmerge⟩
    · exact haw.part hp
    · exact hbw.part hq
    · obtain ⟨y, hy, hpy⟩ := haw.part hp
      obtain ⟨y', hy', hqy⟩ := hbw.part hq
      rw [hy] at hy'
      cases hy'
      exact ⟨y, hy, ih p (Value.mem_parts_of_part? hp) (ha.part hp) (hb.part hq) hmerge hpy hqy⟩

/-! ## Renamed outputs -/

/-- Renamed outputs are compatible where the outputs are. -/
theorem compatible_rename_iff {f : Ident → Ident} (hf : Function.Injective f) (a : Value) :
    ∀ b : Value, Compatible (a.rename f) (b.rename f) ↔ Compatible a b := by
  induction a using Value.induction with
  | node a ih =>
    intro b
    constructor
    · intro h
      cases h with
      | agree h =>
        rw [agree_rename hf] at h
        exact .agree h
      | parts frame merges hparts =>
        rw [Value.frame_rename, Value.frame_rename] at frame
        refine .parts frame (mergesParts_of_frame_eq (Value.frame_rename a).symm merges)
          fun step p q hp hq => ?_
        rw [← ih p (Value.mem_parts_of_part? hp)]
        refine hparts step _ _ ?_ ?_
        · rw [Value.part?_rename, hp, Option.map_some]
        · rw [Value.part?_rename, hq, Option.map_some]
    · intro h
      cases h with
      | agree h =>
        rw [← agree_rename hf] at h
        exact .agree h
      | parts frame merges hparts =>
        refine .parts ?_ (mergesParts_of_frame_eq (Value.frame_rename a) merges)
          fun step p' q' hp' hq' => ?_
        · rw [Value.frame_rename, Value.frame_rename, frame]
        · rw [Value.part?_rename] at hp' hq'
          obtain ⟨p, hp, rfl⟩ := Option.map_eq_some_iff.mp hp'
          obtain ⟨q, hq, rfl⟩ := Option.map_eq_some_iff.mp hq'
          exact (ih p (Value.mem_parts_of_part? hp) q).mpr (hparts step p q hp hq)

end Intersection

end ValueSchema
