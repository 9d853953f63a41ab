/-
Values up to the spelling of numbers.

Outputs that agree need not be the same: the two zeros agree, and so do two symbols of one token,
however they are described. A value in normal form spells each of these in one way only, so values
that are no containers agree exactly if they have one normal form. What is left of another value
when fields are left out is then read up to spelling, and two values of which each is left of the
other are one value up to identities, the order of keys and the sign of zero.
-/
import ValueSchema.Proofs.Plans
import ValueSchema.Proofs.Renaming.Values
import Mathlib.Algebra.Group.Int.Defs

set_option autoImplicit false

namespace ValueSchema

/-! ## Words of numbers -/

namespace Double

variable {a b : Double} {x : Int}

theorem eq_iff : a.eq b = true ↔ a.rank = b.rank ∧ a.isNaN = false := by
  cases ha : a.isNaN with
  | true =>
    rw [eq, rank_eq_none ha]
    simp
  | false =>
    obtain ⟨x, hx⟩ := exists_rank ha
    rw [eq, hx]
    cases b.rank <;> simp

theorem isNaN_of_keyWord (h : a.keyWord = nan.bits) : a.isNaN = true := by
  by_contra hnot
  unfold keyWord at h
  rw [if_neg hnot] at h
  split at h
  · exact absurd h (by decide)
  · rw [show a = nan from congrArg Double.mk h] at hnot
    exact hnot rfl

theorem keyWord_of_isNaN (h : a.isNaN = true) : a.keyWord = nan.bits := by
  rw [keyWord, if_pos h]

/-- The word under which a number is looked up is its rank, a negative one written as its opposite
with the sign bit set. -/
theorem toNat_keyWord (h : a.rank = some x) :
    (a.keyWord.toNat : Int) = (if 0 ≤ x then x else 2 ^ 63 - x) ∧ x < 2 ^ 63 := by
  have hword := a.bits.toNat_lt
  unfold rank at h
  unfold keyWord
  split at h
  · cases h
  rename_i hnan
  rw [if_neg hnan]
  -- a zero has rank zero and the word zero
  by_cases hzero : a.magnitude = 0
  · rw [if_pos (show a.isZero = true from decide_eq_true hzero)]
    split at h <;> cases h <;> simp [hzero, zero]
  rw [if_neg (show ¬ a.isZero = true from fun hz => hzero (of_decide_eq_true hz))]
  unfold magnitude at hzero h
  simp only [Nat.pow_eq] at hzero h
  split at h
  · rename_i hsign
    have hsign := of_decide_eq_true hsign
    simp only [Nat.pow_eq] at hsign
    cases h
    omega
  · rename_i hsign
    have hsign := mt decide_eq_true hsign
    simp only [Nat.pow_eq] at hsign
    cases h
    omega

/-- Numbers are looked up by one word exactly if they have one rank. -/
theorem keyWord_eq_iff : a.keyWord = b.keyWord ↔ a.rank = b.rank := by
  cases ha : a.isNaN with
  | true =>
    rw [rank_eq_none ha, keyWord_of_isNaN ha]
    cases hb : b.isNaN with
    | true =>
      rw [rank_eq_none hb, keyWord_of_isNaN hb]
      exact iff_of_true rfl rfl
    | false =>
      obtain ⟨y, hy⟩ := exists_rank hb
      rw [hy]
      refine iff_of_false (fun h => ?_) (Option.some_ne_none y).symm
      rw [isNaN_of_keyWord h.symm] at hb
      cases hb
  | false =>
    obtain ⟨x, hx⟩ := exists_rank ha
    cases hb : b.isNaN with
    | true =>
      rw [rank_eq_none hb, hx, keyWord_of_isNaN hb]
      refine iff_of_false (fun h => ?_) (Option.some_ne_none x)
      rw [isNaN_of_keyWord h] at ha
      cases ha
    | false =>
      obtain ⟨y, hy⟩ := exists_rank hb
      have hax := toNat_keyWord hx
      have hby := toNat_keyWord hy
      rw [hx, hy, Option.some.injEq, ← UInt64.toNat_inj]
      omega

end Double

namespace Value

/-! ## Normal forms -/

mutual

/-- A value with every number spelled as it is looked up, and every symbol without its
description. -/
def normal : Value → Value
  | number n => number ⟨n.keyWord⟩
  | symbol s => symbol ⟨s.token, none⟩
  | array id items => array id (normalItems items)
  | object id fields => object id (normalFields fields)
  | map id entries => map id (normalEntries entries)
  | set id items => set id (normalItems items)
  | v => v

def normalItems : List Value → List Value
  | [] => []
  | v :: rest => normal v :: normalItems rest

def normalFields : List (String × Value) → List (String × Value)
  | [] => []
  | (key, v) :: rest => (key, normal v) :: normalFields rest

def normalEntries : List (Value × Value) → List (Value × Value)
  | [] => []
  | (k, v) :: rest => (normal k, normal v) :: normalEntries rest

end

variable {v w : Value}

theorem normalItems_eq_map (l : List Value) : normalItems l = l.map normal := by
  induction l with
  | nil => rfl
  | cons v rest ih => exact congrArg (List.cons v.normal) ih

theorem normalFields_eq_mapValues (l : List (String × Value)) :
    normalFields l = Keyed.mapValues normal l := by
  induction l with
  | nil => rfl
  | cons e rest ih => exact congrArg (List.cons (e.1, e.2.normal)) ih

theorem normalEntries_eq_map (l : List (Value × Value)) :
    normalEntries l = l.map fun e => (e.1.normal, e.2.normal) := by
  induction l with
  | nil => rfl
  | cons e rest ih => exact congrArg (List.cons (e.1.normal, e.2.normal)) ih

theorem normal_array (id : Ident) (items : List Value) :
    (array id items).normal = array id (items.map normal) :=
  congrArg (array id) (normalItems_eq_map items)

theorem normal_object (id : Ident) (fields : List (String × Value)) :
    (object id fields).normal = object id (Keyed.mapValues normal fields) :=
  congrArg (object id) (normalFields_eq_mapValues fields)

theorem normal_map (id : Ident) (entries : List (Value × Value)) :
    (map id entries).normal = map id (entries.map fun e => (e.1.normal, e.2.normal)) :=
  congrArg (map id) (normalEntries_eq_map entries)

theorem normal_set (id : Ident) (items : List Value) :
    (set id items).normal = set id (items.map normal) :=
  congrArg (set id) (normalItems_eq_map items)

theorem isComposite_normal (v : Value) : v.normal.isComposite = v.isComposite := by
  cases v <;> rfl

theorem ownKeys_normal (v : Value) : v.normal.ownKeys = v.ownKeys := by
  cases v with
  | object id fields =>
    rw [normal_object]
    exact keys_map_snd normal fields
  | _ => rfl

/-- A container in normal form has the normal forms of its parts, at the same steps. -/
theorem part?_normal (v : Value) (step : Step) :
    v.normal.part? step = (v.part? step).map normal := by
  cases v with
  | array id items | set id items =>
    first | rw [normal_array] | rw [normal_set]
    cases step with
    | element n => exact List.getElem?_map
    | _ => rfl
  | object id fields =>
    rw [normal_object]
    cases step with
    | field key => exact Keyed.find?_mapValues normal key fields
    | _ => rfl
  | map id entries =>
    rw [normal_map]
    cases step with
    | entryKey n | entryValue n =>
      simp only [part?, List.getElem?_map, Option.map_map, Function.comp_def]
    | _ => rfl
  | _ => cases step <;> rfl

theorem frame_normal (hv : v.isComposite = true) : v.normal.frame = v.frame := by
  cases v with
  | array id items | set id items =>
    first | rw [normal_array] | rw [normal_set]
    simp only [frame, List.length_map]
  | map id entries =>
    rw [normal_map]
    simp only [frame, List.length_map]
  | object id fields => rfl
  | _ => cases hv

theorem WellKeyed.normal (h : v.WellKeyed) : v.normal.WellKeyed := by
  induction v using Value.induction with
  | node v ih =>
    have hown : v.normal.ownKeys.Nodup := by
      rw [ownKeys_normal]
      exact h.nodup_ownKeys
    refine wellKeyed_iff.mpr ⟨hown, fun p hp => ?_⟩
    obtain ⟨step, hstep⟩ := exists_step hown hp
    rw [part?_normal] at hstep
    obtain ⟨x, hx, rfl⟩ := Option.map_eq_some_iff.mp hstep
    exact ih x (mem_parts_of_part? hx) (h.part hx)

/-! ## Equality of what is no container -/

/-- Values that are no containers agree, NaN being itself and the zeros one, exactly if they have
one normal form. -/
theorem samePrimitive_iff_normal (hv : v.isComposite = false) :
    v.samePrimitive w = true ↔ v.normal = w.normal := by
  cases v with
  | array _ _ | object _ _ | map _ _ | set _ _ => cases hv
  | number n =>
    cases w with
    | number m =>
      have hsame : (n.eq m || (n.isNaN && m.isNaN)) = true ↔ n.keyWord = m.keyWord := by
        rw [Bool.or_eq_true, Double.eq_iff, Double.keyWord_eq_iff, Bool.and_eq_true]
        cases hn : n.isNaN with
        | false => simp
        | true =>
          rw [Double.rank_eq_none hn]
          cases hm : m.isNaN with
          | true => simp [Double.rank_eq_none hm]
          | false =>
            obtain ⟨x, hx⟩ := Double.exists_rank hm
            simp [hx]
      simp only [samePrimitive, hsame, normal, number.injEq, Double.mk.injEq]
    | _ => simp [samePrimitive, normal]
  | _ => cases w <;> simp [samePrimitive, normal]

/-- A container agrees with itself alone. -/
theorem sameValueZero_eq_sameContainer (hv : v.isComposite = true) :
    v.sameValueZero w = v.sameContainer w := by
  have hprimitive : v.samePrimitive w = false := by
    cases v <;> first | rfl | cases hv
  rw [sameValueZero, hprimitive, Bool.false_or]

/-- Values that are no containers are structurally equal if they have one normal form, and it is not
that of NaN. -/
theorem equal_iff_normal (hv : v.isComposite = false) :
    v.equal w = true ↔ v.normal = w.normal ∧ v.normal ≠ number Double.nan := by
  cases v with
  | array _ _ | object _ _ | map _ _ | set _ _ => cases hv
  | number n =>
    have hnan : n.isNaN = false ↔ Double.mk n.keyWord ≠ Double.nan := by
      rw [← Bool.not_eq_true, not_iff_not]
      exact ⟨fun h => congrArg Double.mk (Double.keyWord_of_isNaN h),
        fun h => Double.isNaN_of_keyWord (congrArg Double.bits h)⟩
    cases w with
    | number m =>
      simp only [equal, Double.eq_iff, hnan, ← Double.keyWord_eq_iff, normal, number.injEq, ne_eq,
        Double.mk.injEq]
    | _ => simp [equal, normal]
  | _ => cases w <;> simp [equal, normal]

/-! ## Values that fit in others -/

/-- A value is what is left of another one when fields are left out, up to the spelling of
numbers. -/
def FitsIn (v w : Value) : Prop := v.normal.TrimOf w.normal

/-- Two values are one value up to the identities of containers, the order of keys and the sign of
zero. NaN is itself, and a symbol is its token. -/
def Equivalent (v w : Value) : Prop := v.normal.Alike w.normal

namespace FitsIn

theorem refl (v : Value) : v.FitsIn v := TrimOf.refl v.normal

theorem trans {u : Value} (h : u.FitsIn v) (h' : v.FitsIn w) : u.FitsIn w := TrimOf.trans h h'

theorem of_normal_eq (h : v.normal = w.normal) : v.FitsIn w := by
  unfold FitsIn
  rw [h]
  exact .refl _

/-- A container fits in another one of its frame if every part fits in the part of the other. -/
theorem of_parts (hv : v.isComposite = true) (hframe : v.frame = w.frame)
    (h : ∀ step x, v.part? step = some x → ∃ y, w.part? step = some y ∧ x.FitsIn y) :
    v.FitsIn w := by
  have hw : w.isComposite = true := (isComposite_eq_of_frame_eq hframe).symm.trans hv
  refine TrimOf.of_parts ?_ fun step x hx => ?_
  · rw [frame_normal hv, frame_normal hw, hframe]
  · rw [part?_normal] at hx ⊢
    obtain ⟨x, hpart, rfl⟩ := Option.map_eq_some_iff.mp hx
    obtain ⟨y, hy, hxy⟩ := h step x hpart
    exact ⟨y.normal, Option.map_eq_some_iff.mpr ⟨y, hy, rfl⟩, hxy⟩

theorem frame_eq (h : v.FitsIn w) (hv : v.isComposite = true) : v.frame = w.frame := by
  have hframe := TrimOf.frame_eq h
  have hw : w.normal.isComposite = true := by
    rw [← isComposite_eq_of_frame_eq hframe, isComposite_normal]
    exact hv
  rw [isComposite_normal] at hw
  rwa [frame_normal hv, frame_normal hw] at hframe

theorem part (h : v.FitsIn w) {step : Step} {x : Value} (hx : v.part? step = some x) :
    ∃ y, w.part? step = some y ∧ x.FitsIn y := by
  have hnormal : v.normal.part? step = some x.normal := by
    rw [part?_normal, hx, Option.map_some]
  obtain ⟨y, hy, hxy⟩ := TrimOf.part h hnormal
  rw [part?_normal] at hy
  obtain ⟨y, hpart, rfl⟩ := Option.map_eq_some_iff.mp hy
  exact ⟨y, hpart, hxy⟩

/-- **Values that fit in each other are equivalent.** -/
theorem equivalent (h : v.FitsIn w) (h' : w.FitsIn v) (hv : v.WellKeyed) (hw : w.WellKeyed) :
    v.Equivalent w :=
  alike_of_trims _ _ hv.normal hw.normal h h'

end FitsIn

/-! ## Renamed values -/

section

variable {f : Ident → Ident}

/-- What a value is renamed to fits in it, and it in what it is renamed to. -/
theorem fitsIn_rename (v : Value) : v.FitsIn (v.rename f) ∧ (v.rename f).FitsIn v := by
  induction v using Value.induction with
  | node v ih =>
    by_cases hv : v.isComposite = true
    · have hv' : (v.rename f).isComposite = true := by rw [isComposite_rename, hv]
      refine ⟨.of_parts hv (frame_rename v).symm fun step x hx => ?_,
        .of_parts hv' (frame_rename v) fun step x hx => ?_⟩
      · exact ⟨x.rename f, by rw [part?_rename, hx, Option.map_some],
          (ih x (mem_parts_of_part? hx)).1⟩
      · rw [part?_rename] at hx
        obtain ⟨y, hy, rfl⟩ := Option.map_eq_some_iff.mp hx
        exact ⟨y, hy, (ih y (mem_parts_of_part? hy)).2⟩
    · rw [Bool.not_eq_true] at hv
      rw [rename_of_plain hv]
      exact ⟨.refl v, .refl v⟩

end

end Value

end ValueSchema
