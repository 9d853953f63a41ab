/-
Structural equality and copies.

Structural equality means to disregard identities, and yet a container is equal to itself whatever
is inside it. So a value and a copy of it, built anew at every level, are equal to the same values
unless this shortcut is what made the difference, and what it skips over is NaN: a number that is
equal to nothing, wherever it stands. Apart from NaN, sharing between two values never shows in
whether they are equal.
-/
import ValueSchema.Proofs.Content
import ValueSchema.Proofs.Intersecting.Compatible
import ValueSchema.Proofs.Intersecting.Twice

set_option autoImplicit false

namespace ValueSchema

/-- The word for looking up can be read off the exact word. -/
theorem Double.keyWord_exactWord (n : Double) : (Double.mk n.exactWord).keyWord = n.keyWord := by
  unfold exactWord
  split
  next h => exact (keyWord_of_isNaN (by decide)).trans (keyWord_of_isNaN h).symm
  next => rfl

namespace Value

variable {a b copy v w : Value}

/-! ## NaN inside a value -/

/-- The number that is equal to nothing. -/
def isNaN : Value → Bool
  | number n => n.isNaN
  | _ => false

/-- There is a NaN somewhere inside a value, or it is one. -/
def HoldsNaN (v : Value) : Prop := ∃ k w, Within w k v ∧ w.isNaN = true

theorem holdsNaN_iff : v.HoldsNaN ↔ v.isNaN = true ∨ ∃ p ∈ v.parts, p.HoldsNaN := by
  constructor
  · rintro ⟨k, w, hw, hnan⟩
    cases hw with
    | self => exact .inl hnan
    | @part n p _ hp hw => exact .inr ⟨p, hp, n, w, hw, hnan⟩
  · rintro (hnan | ⟨p, hp, k, w, hw, hnan⟩)
    · exact ⟨0, v, .self, hnan⟩
    · exact ⟨k + 1, w, .part hp hw, hnan⟩

theorem isNaN_of_composite (hv : v.isComposite = true) : v.isNaN = false := by
  cases v <;> first | rfl | cases hv

/-- A container holds a NaN if a step from it leads to what does. -/
theorem holdsNaN_iff_of_composite (ha : a.isComposite = true) (hkeyed : a.ownKeys.Nodup) :
    a.HoldsNaN ↔ ∃ step x, a.part? step = some x ∧ x.HoldsNaN := by
  rw [holdsNaN_iff, isNaN_of_composite ha, or_iff_right Bool.false_ne_true]
  constructor
  · rintro ⟨x, hx, hnan⟩
    obtain ⟨step, hstep⟩ := exists_step hkeyed hx
    exact ⟨step, x, hstep, hnan⟩
  · rintro ⟨step, x, hx, hnan⟩
    exact ⟨x, mem_parts_of_part? hx, hnan⟩

/-- A value that is no container holds a NaN only if it is one. -/
theorem holdsNaN_iff_of_plain (hv : v.isComposite = false) :
    v.HoldsNaN ↔ v.normal = number Double.nan := by
  rw [holdsNaN_iff]
  cases v with
  | array _ _ | object _ _ | map _ _ | set _ _ => cases hv
  | number n =>
    simp only [parts, isNaN, List.not_mem_nil, false_and, exists_false, or_false, normal,
      number.injEq]
    exact ⟨fun h => congrArg Double.mk (Double.keyWord_of_isNaN h),
      fun h => Double.isNaN_of_keyWord (congrArg Double.bits h)⟩
  | _ => simp [parts, isNaN, normal]

/-- **A value is equal to itself unless it is NaN**; a container is, whatever it holds. -/
theorem equal_self (v : Value) : v.equal v = !v.isNaN := by
  cases hv : v.isComposite with
  | true =>
    rw [isNaN_of_composite hv]
    exact equal_of_sameContainer (sameContainer_of_frame_eq hv rfl rfl)
  | false =>
    have hnan : v.HoldsNaN ↔ v.isNaN = true := by
      rw [holdsNaN_iff, or_iff_left_of_imp]
      rintro ⟨p, hp, -⟩
      obtain ⟨step, hstep⟩ := exists_step (WellKeyed.of_plain hv).nodup_ownKeys hp
      rw [isComposite_of_part? hstep] at hv
      cases hv
    rw [Bool.eq_iff_iff, equal_iff_normal hv, and_iff_right rfl, ne_eq,
      ← holdsNaN_iff_of_plain hv, hnan, Bool.not_eq_true, Bool.not_eq_true']

/-! ## Values with related parts, by steps -/

namespace Parts

variable {R : Value → Value → Prop}

theorem frame_eq (h : v.Parts R w) : w.frame = v.frame := by
  cases h with
  | plain _ | object _ => rfl
  | array h => exact congrArg Frame.array h.length_eq.symm
  | map h => exact congrArg Frame.map h.length_eq.symm
  | set h => exact congrArg Frame.set h.length_eq.symm

theorem ownKeys_eq (h : v.Parts R w) : v.ownKeys = w.ownKeys := by
  cases h with
  | object h => exact Keyed.keys_eq_of_like h
  | _ => rfl

/-- A step from a container leads to related parts. -/
theorem part (h : v.Parts R w) (hv : v.isComposite = true) {step : Step} {x : Value}
    (hx : v.part? step = some x) : ∃ y, w.part? step = some y ∧ R x y := by
  cases h with
  | plain hplain =>
    rw [hv] at hplain
    cases hplain
  | array h | set h =>
    cases step with
    | element n => exact (forall₂_iff_getElem? h.length_eq.symm).mp h n x hx
    | _ => cases hx
  | @object id id' xs ys h =>
    cases step with
    | field key =>
      have hrel := Keyed.find?_like key h
      rw [show Keyed.find? key xs = some x from hx] at hrel
      generalize hy : Keyed.find? key ys = found at hrel
      cases hrel with
      | some hxy => exact ⟨_, hy, hxy⟩
    | _ => cases hx
  | map h =>
    have hentry := (forall₂_iff_getElem? h.length_eq.symm).mp h
    cases step with
    | entryKey n =>
      obtain ⟨e, he, rfl⟩ := Option.map_eq_some_iff.mp hx
      obtain ⟨f, hf, hkey, -⟩ := hentry n e he
      exact ⟨f.1, Option.map_eq_some_iff.mpr ⟨f, hf, rfl⟩, hkey⟩
    | entryValue n =>
      obtain ⟨e, he, rfl⟩ := Option.map_eq_some_iff.mp hx
      obtain ⟨f, hf, -, hvalue⟩ := hentry n e he
      exact ⟨f.2, Option.map_eq_some_iff.mpr ⟨f, hf, rfl⟩, hvalue⟩
    | _ => cases hx

/-- The same parts, seen from the other value. -/
theorem flip (h : v.Parts R w) : w.Parts (fun x y => R y x) v := by
  cases h with
  | plain hv => exact .plain hv
  | array h => exact .array h.flip
  | set h => exact .set h.flip
  | object h => exact .object (h.flip.imp fun e f hef => ⟨hef.1.symm, hef.2⟩)
  | map h => exact .map (h.flip.imp fun e f hef => hef)

end Parts

/-! ## Values of the same content -/

/-- What is no container has the normal form of every value with its content. -/
theorem normal_eq_of_sameContent (hv : v.isComposite = false) (h : v.SameContent w) :
    w.normal = v.normal := by
  obtain ⟨hw, hkey⟩ := (sameContent_plain hv).mp h
  cases v with
  | array _ _ | object _ _ | map _ _ | set _ _ => cases hv
  | number n =>
    cases w with
    | number m =>
      have hword : n.exactWord = m.exactWord := Key.number.inj hkey
      rw [normal, normal, ← Double.keyWord_exactWord m, ← hword, Double.keyWord_exactWord]
    | _ => cases hkey
  | _ => cases w <;> simp_all [exactKey, key, normal]

theorem isComposite_of_sameContent (hv : v.isComposite = true) (h : v.SameContent w) :
    w.isComposite = true :=
  (isComposite_eq_of_frame_eq (parts_of_sameContent hv h).frame_eq).trans hv

/-! ## Sharing -/

/-- Two values are consistent: no object inside the first one repeats a key, and a container that
is in both of them is one value. -/
structure Consistent (a b : Value) : Prop where
  keyed : a.WellKeyed
  one : ∀ k v l w, Within v k a → Within w l b → v.sameContainer w = true → v = w

/-- No container inside one value is a container inside the other. -/
def SharesNone (a b : Value) : Prop :=
  ∀ k v l w, Within v k a → Within w l b → v.sameContainer w = false

theorem Consistent.part (h : Consistent a b) {step step' : Step} {x y : Value}
    (hx : a.part? step = some x) (hy : b.part? step' = some y) : Consistent x y where
  keyed := h.keyed.part hx
  one k v l w hv hw := h.one (k + 1) v (l + 1) w (.part (mem_parts_of_part? hx) hv)
    (.part (mem_parts_of_part? hy) hw)

theorem SharesNone.part (h : SharesNone a b) {step step' : Step} {x y : Value}
    (hx : a.part? step = some x) (hy : b.part? step' = some y) : SharesNone x y :=
  fun k v l w hv hw => h (k + 1) v (l + 1) w (.part (mem_parts_of_part? hx) hv)
    (.part (mem_parts_of_part? hy) hw)

theorem composite_of_sameContainer (h : v.sameContainer w = true) :
    v.isComposite = true ∧ w.isComposite = true := by
  cases v <;> cases w <;> first | exact ⟨rfl, rfl⟩ | cases h

/-- Values of one heap are consistent. -/
theorem Consistent.of_heap {H : Heap} (ha : a.MadeOf H.Holds) (hb : b.MadeOf H.Holds) :
    Consistent a b where
  keyed := ha.wellKeyed
  one k v l w hv hw hsame := by
    obtain ⟨hcv, hcw⟩ := composite_of_sameContainer hsame
    exact ((ha k v hv).2 hcv).eq ((hb l w hw).2 hcw) (ident?_eq_of_sameContainer hsame)

/-- What is built under identities that are new to a heap shares nothing with it. -/
theorem SharesNone.of_built {H : Heap} {made : Ident → Prop}
    (ha : a.MadeOf fun v => v.Built made) (hb : b.MadeOf H.Holds)
    (hnew : ∀ id, made id → H id = none) : SharesNone a b := by
  intro k v l w hv hw
  by_contra hsame
  rw [Bool.not_eq_false] at hsame
  obtain ⟨hcv, hcw⟩ := composite_of_sameContainer hsame
  obtain ⟨id, hid, hmade⟩ := (ha k v hv).2 hcv
  obtain ⟨id', hid', hheld⟩ := (hb l w hw).2 hcw
  obtain rfl : id' = id :=
    Option.some.inj (hid'.symm.trans ((ident?_eq_of_sameContainer hsame).symm.trans hid))
  rw [hnew id' hmade] at hheld
  cases hheld

/-! ## Equality with a copy -/

/-- Two values without a common container are compared by what they hold. -/
theorem SharesNone.equal_iff_parts (h : SharesNone a b) (ha : a.isComposite = true)
    (hkeyed : a.ownKeys.Nodup) : a.equal b = true ↔ EqualParts a b := by
  rw [Value.equal_iff_parts ha hkeyed, or_iff_right]
  rw [h 0 a 0 b .self .self]
  exact Bool.false_ne_true

/-- A container without NaN is equal to another value only if its parts are: the shortcut skips
nothing that would make a difference. -/
theorem Consistent.equalParts (h : Consistent a b) (ha : a.isComposite = true)
    (hnan : ¬a.HoldsNaN) (hequal : a.equal b = true) : EqualParts a b := by
  rcases (Value.equal_iff_parts ha h.keyed.nodup_ownKeys).mp hequal with hsame | hparts
  · obtain rfl := h.one 0 a 0 b .self .self hsame
    refine ⟨rfl, rfl, fun step x hx => ⟨x, hx, ?_⟩⟩
    have hself : x.isNaN ≠ true := fun hself =>
      hnan ((holdsNaN_iff_of_composite ha h.keyed.nodup_ownKeys).mpr
        ⟨step, x, hx, holdsNaN_iff.mpr (.inl hself)⟩)
    rw [equal_self, Bool.eq_false_iff.mpr hself]
    rfl
  · exact hparts

/-- **A copy is equal to what the value is equal to, NaN apart.** -/
theorem equal_copy_iff (a : Value) : ∀ {b copy : Value}, Consistent a b → a.SameContent copy →
    SharesNone copy b → (copy.equal b = true ↔ a.equal b = true ∧ ¬a.HoldsNaN) := by
  induction a using Value.induction with
  | node a ih =>
    intro b copy hab hcopy hfresh
    by_cases ha : a.isComposite = true
    · have hparts := parts_of_sameContent ha hcopy
      have hkeyed := hab.keyed.nodup_ownKeys
      have hcopyComposite := isComposite_of_sameContent ha hcopy
      rw [hfresh.equal_iff_parts hcopyComposite (hparts.ownKeys_eq ▸ hkeyed),
        holdsNaN_iff_of_composite ha hkeyed]
      -- a part of the value, of the copy and of the other value, at one step
      constructor
      · intro h
        have hpart : ∀ step x, a.part? step = some x →
            ∃ y, b.part? step = some y ∧ x.equal y = true ∧ ¬x.HoldsNaN := by
          intro step x hx
          obtain ⟨x', hx', hcontent⟩ := hparts.part ha hx
          obtain ⟨y, hy, hequal⟩ := h.parts step x' hx'
          exact ⟨y, hy, (ih x (mem_parts_of_part? hx) (hab.part hx hy) hcontent
            (hfresh.part hx' hy)).mp hequal⟩
        refine ⟨(Value.equal_iff_parts ha hkeyed).mpr (.inr ⟨h.frame.trans hparts.frame_eq,
          (congrArg List.length hparts.ownKeys_eq).trans h.size, fun step x hx => ?_⟩), ?_⟩
        · obtain ⟨y, hy, hequal, -⟩ := hpart step x hx
          exact ⟨y, hy, hequal⟩
        · rintro ⟨step, x, hx, hnan⟩
          obtain ⟨_, _, _, hnone⟩ := hpart step x hx
          exact hnone hnan
      · rintro ⟨hequal, hnan⟩
        have h := hab.equalParts ha (mt (holdsNaN_iff_of_composite ha hkeyed).mp hnan) hequal
        refine ⟨h.frame.trans hparts.frame_eq.symm,
          (congrArg List.length hparts.ownKeys_eq).symm.trans h.size, fun step x' hx' => ?_⟩
        obtain ⟨x, hx, hcontent⟩ := hparts.flip.part hcopyComposite hx'
        obtain ⟨y, hy, hxy⟩ := h.parts step x hx
        exact ⟨y, hy, (ih x (mem_parts_of_part? hx) (hab.part hx hy) hcontent
          (hfresh.part hx' hy)).mpr ⟨hxy, fun hxnan => hnan ⟨step, x, hx, hxnan⟩⟩⟩
    · rw [Bool.not_eq_true] at ha
      have hcopy' : copy.isComposite = false := ((sameContent_plain ha).mp hcopy).1
      rw [equal_iff_normal hcopy', normal_eq_of_sameContent ha hcopy, equal_iff_normal ha,
        holdsNaN_iff_of_plain ha, and_assoc, and_self]

/-- **Equality ignores identities except where it skips NaN.** A value and a copy of it in fresh
containers are equal to the same values, save those that the value shares containers with and a NaN
inside. In particular a container with a NaN inside is not equal to its copy and yet to itself: only
NaN itself is not. -/
theorem equal_copy (hab : Consistent a b) (hcopy : a.SameContent copy)
    (hfresh : SharesNone copy b) :
    (a.equal b = copy.equal b ↔ ¬(a.equal b = true ∧ a.HoldsNaN))
      ∧ (copy.equal b = true ↔ a.equal b = true ∧ ¬a.HoldsNaN)
      ∧ (a.equal a = true ↔ a.isNaN = false) := by
  have hiff := equal_copy_iff a hab hcopy hfresh
  refine ⟨?_, hiff, ?_⟩
  · rw [Bool.eq_iff_iff, hiff]
    tauto
  · rw [equal_self, Bool.not_eq_true']

end Value

/-! ## A row in two arrays, and a NaN in one -/

/-- A row with nothing in it. -/
def Value.nullRow (id : Ident) : Value := .array id [.null]

/-- An array around a value. -/
def Value.around (id : Ident) (v : Value) : Value := .array id [v]

/-- A row and two arrays around it. -/
def Heap.ofNullRow : Heap
  | .given 0 => some (Value.nullRow (.given 0))
  | .given 1 => some (Value.around (.given 1) (Value.nullRow (.given 0)))
  | .given 2 => some (Value.around (.given 2) (Value.nullRow (.given 0)))
  | _ => none

namespace Value

theorem nullRow_madeOf {P : Value → Prop} {id : Ident} (h : P (nullRow id)) :
    (nullRow id).MadeOf P :=
  madeOf_array.mpr ⟨h, List.forall_mem_singleton.mpr (.of_plain rfl)⟩

theorem around_madeOf {P : Value → Prop} {id : Ident} {v : Value} (h : P (around id v))
    (hv : v.MadeOf P) : (around id v).MadeOf P :=
  madeOf_array.mpr ⟨h, List.forall_mem_singleton.mpr hv⟩

/-- An array around a row and a copy of it are equal to the same array around the row, although the
copy has a row of its own. -/
theorem around_equal_copy :
    (around (.given 1) (nullRow (.given 0))).equal (around (.given 2) (nullRow (.given 0)))
        = (around (.given 3) (nullRow (.given 4))).equal (around (.given 2) (nullRow (.given 0)))
      ∧ ¬(around (.given 1) (nullRow (.given 0))).HoldsNaN := by
  have hrow : (nullRow (.given 0)).MadeOf Heap.ofNullRow.Holds := nullRow_madeOf ⟨_, rfl, rfl⟩
  have hleft : (around (.given 1) (nullRow (.given 0))).MadeOf Heap.ofNullRow.Holds :=
    around_madeOf ⟨_, rfl, rfl⟩ hrow
  have hright : (around (.given 2) (nullRow (.given 0))).MadeOf Heap.ofNullRow.Holds :=
    around_madeOf ⟨_, rfl, rfl⟩ hrow
  have hbuilt : (around (.given 3) (nullRow (.given 4))).MadeOf
      fun v => v.Built fun id => id = .given 3 ∨ id = .given 4 :=
    around_madeOf ⟨.given 3, rfl, .inl rfl⟩ (nullRow_madeOf ⟨.given 4, rfl, .inr rfl⟩)
  have hfresh : SharesNone (around (.given 3) (nullRow (.given 4)))
      (around (.given 2) (nullRow (.given 0))) := by
    refine .of_built hbuilt hright ?_
    rintro id (rfl | rfl) <;> rfl
  have hcopy : (around (.given 1) (nullRow (.given 0))).SameContent
      (around (.given 3) (nullRow (.given 4))) :=
    (sameContent_array _ _ _ _).mpr
      (.cons ((sameContent_array _ _ _ _).mpr (.cons (sameContent_refl .null) .nil)) .nil)
  have h := equal_copy (.of_heap hleft hright) hcopy hfresh
  have hnan := (h.2.1.mp (by decide +kernel)).2
  exact ⟨h.1.mpr fun hboth => hnan hboth.2, hnan⟩

/-- An array with a NaN inside is equal to itself, and a copy of it is not equal to it. -/
theorem nanRow_equal_itself :
    nanRow.HoldsNaN ∧ nanRow.equal nanRow = true
      ∧ ∃ copy, nanRow.SameContent copy ∧ SharesNone copy nanRow ∧ copy.equal nanRow = false := by
  have hcopy : nanRow.SameContent (around (.given 1) (.number Double.nan)) :=
    (sameContent_array _ _ _ _).mpr (.cons (sameContent_refl _) .nil)
  refine ⟨⟨1, _, .part List.mem_cons_self .self, rfl⟩, equal_self nanRow,
    around (.given 1) (.number Double.nan), hcopy, ?_, by decide +kernel⟩
  have hbuilt : (around (.given 1) (.number Double.nan)).MadeOf
      fun v => v.Built fun id => id = .given 1 :=
    around_madeOf ⟨_, rfl, rfl⟩ (.of_plain rfl)
  refine .of_built hbuilt nanRow_madeOf ?_
  rintro id rfl
  rfl

end Value

end ValueSchema
