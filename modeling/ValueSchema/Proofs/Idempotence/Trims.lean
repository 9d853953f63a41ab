/-
Values with fields left out.

Judging by a schema that maps nothing takes fields away and does nothing else: every output is a
trim of its input. It has the same frame, and every step that leads to a part of it leads to a part
of the input, of which that part is a trim again. Trims are compared by looking up, so the order of
keys and the identities of containers are nothing to them; two values that are trims of each other
are one value up to just these, which is said once more by a canonical form.
-/
import ValueSchema.Proofs.Sanitised.Values
import Mathlib.Data.List.Sort
import Mathlib.Data.String.Basic

set_option autoImplicit false

namespace ValueSchema

/-! ## Lists with one entry per key -/

namespace Keyed

variable {α : Type}

theorem find?_cons_self (key : String) (v : α) (l : List (String × α)) :
    find? key ((key, v) :: l) = some v := by
  rw [find?_cons, if_pos (beq_self_eq_true key)]

theorem find?_cons_of_ne {key k : String} (h : key ≠ k) (v : α) (l : List (String × α)) :
    find? key ((k, v) :: l) = find? key l := by
  rw [find?_cons, if_neg (by rw [beq_iff_eq]; exact h)]

theorem find?_eq_none_iff {key : String} {l : List (String × α)} :
    find? key l = none ↔ key ∉ keys l := by
  induction l with
  | nil => simp [find?_nil, keys]
  | cons e rest ih =>
    obtain ⟨k, v⟩ := e
    rw [find?_cons]
    by_cases hk : key = k
    · simp [hk, keys]
    · simp only [keys] at ih
      simp [hk, keys, ih]

theorem mem_keys_iff {key : String} {l : List (String × α)} :
    key ∈ keys l ↔ ∃ v, find? key l = some v := by
  rw [← Option.ne_none_iff_exists', ne_eq, find?_eq_none_iff, not_not]

/-- Where no key is repeated, every entry is found. -/
theorem find?_of_mem {key : String} {v : α} {l : List (String × α)} (hl : (keys l).Nodup)
    (h : (key, v) ∈ l) : find? key l = some v := by
  induction l with
  | nil => exact absurd h List.not_mem_nil
  | cons e rest ih =>
    obtain ⟨k, w⟩ := e
    simp only [keys, List.map_cons, List.nodup_cons] at hl
    rcases List.mem_cons.mp h with heq | hmem
    · cases heq
      exact find?_cons_self key v rest
    · have hne : key ≠ k := by
        rintro rfl
        exact hl.1 (List.mem_map.mpr ⟨(key, v), hmem, rfl⟩)
      rw [find?_cons_of_ne hne]
      exact ih hl.2 hmem

theorem find?_append (key : String) (l m : List (String × α)) :
    find? key (l ++ m) = (find? key l).or (find? key m) := by
  induction l with
  | nil => rw [List.nil_append, find?_nil, Option.none_or]
  | cons e rest ih =>
    obtain ⟨k, v⟩ := e
    rw [List.cons_append, find?_cons, find?_cons]
    by_cases hk : (key == k) = true
    · rw [if_pos hk, if_pos hk, Option.some_or]
    · rw [if_neg hk, if_neg hk, ih]

end Keyed

/-! ## Steps and frames -/

/-- A step from a container to one of its parts. -/
inductive Step
  | element (position : Nat)
  | field (key : String)
  | entryKey (position : Nat)
  | entryValue (position : Nat)
deriving DecidableEq, Repr

/-- What a value is without its parts: all of it if it is no container, else the kind of container,
with the size where positions count. -/
inductive Frame
  | plain (v : Value)
  | array (size : Nat)
  | object
  | map (size : Nat)
  | set (size : Nat)

namespace Value

/-- The part of a container that a step leads to. -/
def part? : Value → Step → Option Value
  | array _ items, .element n => items[n]?
  | object _ fields, .field key => Keyed.find? key fields
  | map _ entries, .entryKey n => entries[n]?.map Prod.fst
  | map _ entries, .entryValue n => entries[n]?.map Prod.snd
  | set _ items, .element n => items[n]?
  | _, _ => none

def frame : Value → Frame
  | array _ items => .array items.length
  | object _ _ => .object
  | map _ entries => .map entries.length
  | set _ items => .set items.length
  | v => .plain v

theorem mem_parts_of_part? {v x : Value} {step : Step} (h : v.part? step = some x) :
    x ∈ v.parts := by
  cases v with
  | array id items | set id items =>
    cases step with
    | element n => exact List.mem_of_getElem? h
    | _ => cases h
  | object id fields =>
    cases step with
    | field key => exact List.mem_map_of_mem (Keyed.mem_of_find? h)
    | _ => cases h
  | map id entries =>
    simp only [parts, List.mem_flatMap, List.mem_cons, List.not_mem_nil, or_false]
    cases step with
    | entryKey n =>
      obtain ⟨e, he, rfl⟩ := Option.map_eq_some_iff.mp h
      exact ⟨e, List.mem_of_getElem? he, .inl rfl⟩
    | entryValue n =>
      obtain ⟨e, he, rfl⟩ := Option.map_eq_some_iff.mp h
      exact ⟨e, List.mem_of_getElem? he, .inr rfl⟩
    | _ => cases h
  | _ => cases h

variable {v w : Value}

/-- A value that is no container is all frame. -/
theorem eq_of_frame_eq (h : w.frame = v.frame) (hv : v.isComposite = false) : w = v := by
  cases v with
  | array _ _ | object _ _ | map _ _ | set _ _ => cases hv
  | _ =>
    cases w <;> cases h
    rfl

theorem isComposite_eq_of_frame_eq (h : w.frame = v.frame) : w.isComposite = v.isComposite := by
  cases v <;> cases w <;> first | rfl | cases h

theorem frame_array {id : Ident} {items : List Value} (h : w.frame = (array id items).frame) :
    ∃ id' others, w = array id' others ∧ others.length = items.length := by
  cases w with
  | array id' others =>
    simp only [frame, Frame.array.injEq] at h
    exact ⟨id', others, rfl, h⟩
  | _ => cases h

theorem frame_object {id : Ident} {fields : List (String × Value)}
    (h : w.frame = (object id fields).frame) : ∃ id' others, w = object id' others := by
  cases w with
  | object id' others => exact ⟨id', others, rfl⟩
  | _ => cases h

theorem frame_map {id : Ident} {entries : List (Value × Value)}
    (h : w.frame = (map id entries).frame) :
    ∃ id' others, w = map id' others ∧ others.length = entries.length := by
  cases w with
  | map id' others =>
    simp only [frame, Frame.map.injEq] at h
    exact ⟨id', others, rfl, h⟩
  | _ => cases h

theorem frame_set {id : Ident} {items : List Value} (h : w.frame = (set id items).frame) :
    ∃ id' others, w = set id' others ∧ others.length = items.length := by
  cases w with
  | set id' others =>
    simp only [frame, Frame.set.injEq] at h
    exact ⟨id', others, rfl, h⟩
  | _ => cases h

/-! ## Trims -/

/-- A value is what is left of another one when fields are left out, here and further inside. -/
inductive TrimOf : Value → Value → Prop
  | intro {w v : Value} (frame : w.frame = v.frame)
      (found : ∀ step x, w.part? step = some x → ∃ y, v.part? step = some y)
      (parts : ∀ step x y, w.part? step = some x → v.part? step = some y → TrimOf x y) :
      TrimOf w v

namespace TrimOf

theorem frame_eq (h : w.TrimOf v) : w.frame = v.frame := by
  cases h with
  | intro frame _ _ => exact frame

/-- Every part of a trim is a trim of a part. -/
theorem part (h : w.TrimOf v) {step : Step} {x : Value} (hx : w.part? step = some x) :
    ∃ y, v.part? step = some y ∧ x.TrimOf y := by
  cases h with
  | intro _ found parts =>
    obtain ⟨y, hy⟩ := found step x hx
    exact ⟨y, hy, parts step x y hx hy⟩

/-- A step that leads somewhere on both sides leads to a trim. -/
theorem parts_trim (h : w.TrimOf v) {step : Step} {x y : Value} (hx : w.part? step = some x)
    (hy : v.part? step = some y) : x.TrimOf y := by
  cases h with
  | intro _ _ parts => exact parts step x y hx hy

/-- A value is a trim of another one as soon as its parts are. -/
theorem of_parts (frame : w.frame = v.frame)
    (h : ∀ step x, w.part? step = some x → ∃ y, v.part? step = some y ∧ x.TrimOf y) :
    w.TrimOf v := by
  refine .intro frame (fun step x hx => ?_) fun step x y hx hy => ?_
  · obtain ⟨y, hy, _⟩ := h step x hx
    exact ⟨y, hy⟩
  · obtain ⟨y', hy', hxy⟩ := h step x hx
    rw [hy] at hy'
    cases hy'
    exact hxy

theorem refl (v : Value) : v.TrimOf v := by
  induction v using Value.induction with
  | node v ih =>
    exact of_parts rfl fun step x hx => ⟨x, hx, ih x (mem_parts_of_part? hx)⟩

theorem trans {u : Value} (h : u.TrimOf w) (h' : w.TrimOf v) : u.TrimOf v := by
  induction h generalizing v with
  | @intro u w frame found parts ih =>
    refine of_parts (frame.trans h'.frame_eq) fun step x hx => ?_
    -- the step goes on in the value in the middle
    obtain ⟨y, hy⟩ := found step x hx
    obtain ⟨z, hz, hyz⟩ := h'.part hy
    exact ⟨z, hz, ih step x y hx hy hyz⟩

/-- A value that is no container has no trim but itself. -/
theorem eq_of_plain (h : w.TrimOf v) (hv : v.isComposite = false) : w = v :=
  eq_of_frame_eq h.frame_eq hv

/-- The keys of a trim are keys of the value. -/
theorem ownKeys_subset (h : w.TrimOf v) : w.ownKeys ⊆ v.ownKeys := by
  intro key hkey
  cases w with
  | object id xs =>
    obtain ⟨x, hx⟩ := Keyed.mem_keys_iff.mp hkey
    obtain ⟨id', ys, rfl⟩ := frame_object h.frame_eq.symm
    obtain ⟨y, hy, _⟩ := @TrimOf.part _ _ h (.field key) x hx
    exact Keyed.mem_keys_iff.mpr ⟨y, hy⟩
  | _ => exact absurd hkey List.not_mem_nil

end TrimOf

/-! ## Objects with one entry per key -/

/-- No object inside a value repeats a key, as no object that is built entry by entry does. -/
def WellKeyed (v : Value) : Prop := ∀ k w, Within w k v → w.ownKeys.Nodup

theorem wellKeyed_iff : v.WellKeyed ↔ v.ownKeys.Nodup ∧ ∀ p ∈ v.parts, p.WellKeyed := by
  constructor
  · intro h
    exact ⟨h 0 v .self, fun p hp k w hw => h (k + 1) w (.part hp hw)⟩
  · rintro ⟨hown, hparts⟩ k w hw
    cases hw with
    | self => exact hown
    | @part n p _ hp hw => exact hparts p hp n w hw

theorem WellKeyed.part (h : v.WellKeyed) {step : Step} {x : Value} (hx : v.part? step = some x) :
    x.WellKeyed :=
  (wellKeyed_iff.mp h).2 x (mem_parts_of_part? hx)

theorem WellKeyed.nodup_ownKeys (h : v.WellKeyed) : v.ownKeys.Nodup := (wellKeyed_iff.mp h).1

/-- A step leads to every part. -/
theorem exists_step (h : v.ownKeys.Nodup) {x : Value} (hx : x ∈ v.parts) :
    ∃ step, v.part? step = some x := by
  cases v with
  | array id items | set id items =>
    obtain ⟨n, hn⟩ := List.mem_iff_getElem?.mp hx
    exact ⟨.element n, hn⟩
  | object id fields =>
    obtain ⟨⟨key, y⟩, hmem, rfl⟩ := List.mem_map.mp hx
    exact ⟨.field key, Keyed.find?_of_mem h hmem⟩
  | map id entries =>
    simp only [parts, List.mem_flatMap, List.mem_cons, List.not_mem_nil, or_false] at hx
    obtain ⟨e, he, hx⟩ := hx
    obtain ⟨n, hn⟩ := List.mem_iff_getElem?.mp he
    rcases hx with rfl | rfl
    · exact ⟨.entryKey n, Option.map_eq_some_iff.mpr ⟨e, hn, rfl⟩⟩
    · exact ⟨.entryValue n, Option.map_eq_some_iff.mpr ⟨e, hn, rfl⟩⟩
  | _ => exact absurd hx List.not_mem_nil

theorem WellKeyed.of_plain (h : v.isComposite = false) : v.WellKeyed := by
  rw [wellKeyed_iff]
  cases v with
  | array _ _ | object _ _ | map _ _ | set _ _ => cases h
  | _ => exact ⟨List.nodup_nil, fun p hp => absurd hp List.not_mem_nil⟩

/-! ## Canonical forms -/

/-- Fields in the order of their keys. -/
def inKeyOrder (fields : List (String × Value)) : List (String × Value) :=
  fields.insertionSort fun e f => e.1 ≤ f.1

mutual

/-- A value with all identities struck out and the fields of every object in the order of their
keys. -/
def canonical : Value → Value
  | array _ items => array (.given 0) (canonicalItems items)
  | object _ fields => object (.given 0) (inKeyOrder (canonicalFields fields))
  | map _ entries => map (.given 0) (canonicalEntries entries)
  | set _ items => set (.given 0) (canonicalItems items)
  | v => v

def canonicalItems : List Value → List Value
  | [] => []
  | v :: rest => canonical v :: canonicalItems rest

def canonicalFields : List (String × Value) → List (String × Value)
  | [] => []
  | (key, v) :: rest => (key, canonical v) :: canonicalFields rest

def canonicalEntries : List (Value × Value) → List (Value × Value)
  | [] => []
  | (k, v) :: rest => (canonical k, canonical v) :: canonicalEntries rest

end

/-- Two values are one value up to the identities of containers and the order of keys. A number is
itself, NaN included. -/
def Alike (v w : Value) : Prop := v.canonical = w.canonical

theorem canonicalItems_eq_map (l : List Value) : canonicalItems l = l.map canonical := by
  induction l with
  | nil => rfl
  | cons v rest ih => simp only [canonicalItems, ih, List.map_cons]

theorem canonicalFields_eq_map (l : List (String × Value)) :
    canonicalFields l = l.map fun f => (f.1, canonical f.2) := by
  induction l with
  | nil => rfl
  | cons f rest ih => simp only [canonicalFields, ih, List.map_cons]

theorem canonicalEntries_eq_map (l : List (Value × Value)) :
    canonicalEntries l = l.map fun e => (canonical e.1, canonical e.2) := by
  induction l with
  | nil => rfl
  | cons e rest ih => simp only [canonicalEntries, ih, List.map_cons]

/-- Fields with the same entries come to one order, if no key is repeated. -/
theorem inKeyOrder_congr {xs ys : List (String × Value)} (h : xs.Perm ys)
    (hxs : (Keyed.keys xs).Nodup) : inKeyOrder xs = inKeyOrder ys := by
  have hperm : (inKeyOrder xs).Perm (inKeyOrder ys) :=
    (List.perm_insertionSort _ xs).trans (h.trans (List.perm_insertionSort _ ys).symm)
  refine hperm.eq_of_pairwise (fun a b ha hb hab hba => ?_)
    (List.pairwise_insertionSort _ xs) (List.pairwise_insertionSort _ ys)
  -- entries of one key are one entry
  have ha' : (a.1, a.2) ∈ xs := (List.perm_insertionSort _ xs).mem_iff.mp ha
  have hb' : (b.1, b.2) ∈ xs := h.mem_iff.mpr ((List.perm_insertionSort _ ys).mem_iff.mp hb)
  have hkey : a.1 = b.1 := le_antisymm hab hba
  have hfound := Keyed.find?_of_mem hxs hb'
  rw [← hkey, Keyed.find?_of_mem hxs ha'] at hfound
  exact Prod.ext hkey (Option.some.inj hfound)

theorem keys_map_snd {α β : Type} (f : α → β) (l : List (String × α)) :
    Keyed.keys (l.map fun e => (e.1, f e.2)) = Keyed.keys l := by
  simp only [Keyed.keys, List.map_map, Function.comp_def]

/-- Lists of one length map to one list if they do so position by position. -/
theorem map_eq_map_of_getElem? {α β : Type} {f : α → β} {xs ys : List α}
    (hlen : xs.length = ys.length)
    (h : ∀ (n : Nat) (x y : α), xs[n]? = some x → ys[n]? = some y → f x = f y) :
    xs.map f = ys.map f := by
  refine List.ext_getElem (by simp [hlen]) fun n hx hy => ?_
  rw [List.length_map] at hx hy
  rw [List.getElem_map, List.getElem_map]
  exact h n _ _ (List.getElem?_eq_getElem hx) (List.getElem?_eq_getElem hy)

/-- Every entry of an object whose parts have canonical forms in another one is found there. -/
theorem mem_canonical_of_trim {id id' : Ident} {xs ys : List (String × Value)}
    (hxs : (Keyed.keys xs).Nodup) (h : (object id xs).TrimOf (object id' ys))
    (hcanon : ∀ key x y, Keyed.find? key xs = some x → Keyed.find? key ys = some y →
      x.canonical = y.canonical) {e : String × Value}
    (he : e ∈ xs.map fun f => (f.1, canonical f.2)) :
    e ∈ ys.map fun f => (f.1, canonical f.2) := by
  obtain ⟨⟨key, x⟩, hmem, rfl⟩ := List.mem_map.mp he
  have hx := Keyed.find?_of_mem hxs hmem
  obtain ⟨y, hy, _⟩ := @TrimOf.part _ _ h (.field key) x hx
  refine List.mem_map.mpr ⟨(key, y), Keyed.mem_of_find? hy, ?_⟩
  rw [hcanon key x y hx hy]

/-- **Trims of each other are alike.** -/
theorem alike_of_trims (v : Value) : ∀ w : Value, v.WellKeyed → w.WellKeyed → v.TrimOf w →
    w.TrimOf v → v.Alike w := by
  induction v using Value.induction with
  | node v ih =>
    intro w hv hw h h'
    -- a step leads to trims of each other on both sides
    have hstep : ∀ step x y, v.part? step = some x → w.part? step = some y →
        x.canonical = y.canonical := fun step x y hx hy =>
      ih x (mem_parts_of_part? hx) y (hv.part hx) (hw.part hy) (h.parts_trim hx hy)
        (h'.parts_trim hy hx)
    unfold Alike
    cases v with
    | array id items =>
      obtain ⟨id', others, rfl, hlen⟩ := frame_array h'.frame_eq
      simp only [canonical, canonicalItems_eq_map]
      rw [map_eq_map_of_getElem? hlen.symm fun n => hstep (.element n)]
    | set id items =>
      obtain ⟨id', others, rfl, hlen⟩ := frame_set h'.frame_eq
      simp only [canonical, canonicalItems_eq_map]
      rw [map_eq_map_of_getElem? hlen.symm fun n => hstep (.element n)]
    | map id entries =>
      obtain ⟨id', others, rfl, hlen⟩ := frame_map h'.frame_eq
      simp only [canonical, canonicalEntries_eq_map]
      rw [map_eq_map_of_getElem? hlen.symm fun n e f he hf => ?_]
      have hkey := hstep (.entryKey n) e.1 f.1 (Option.map_eq_some_iff.mpr ⟨e, he, rfl⟩)
        (Option.map_eq_some_iff.mpr ⟨f, hf, rfl⟩)
      have hvalue := hstep (.entryValue n) e.2 f.2 (Option.map_eq_some_iff.mpr ⟨e, he, rfl⟩)
        (Option.map_eq_some_iff.mpr ⟨f, hf, rfl⟩)
      rw [hkey, hvalue]
    | object id fields =>
      obtain ⟨id', others, rfl⟩ := frame_object h'.frame_eq
      simp only [canonical, canonicalFields_eq_map]
      have hnodup : (Keyed.keys fields).Nodup := hv.nodup_ownKeys
      have hnodup' : (Keyed.keys others).Nodup := hw.nodup_ownKeys
      rw [inKeyOrder_congr ?_ (by rw [keys_map_snd]; exact hnodup)]
      -- both lists have the same entries, and neither has one twice
      refine (List.perm_ext_iff_of_nodup ?_ ?_).mpr fun e => ⟨?_, ?_⟩
      · refine .of_map Prod.fst ?_
        rw [← keys_map_snd canonical fields] at hnodup
        exact hnodup
      · refine .of_map Prod.fst ?_
        rw [← keys_map_snd canonical others] at hnodup'
        exact hnodup'
      · exact mem_canonical_of_trim hnodup h fun key => hstep (.field key)
      · exact mem_canonical_of_trim hnodup' h' fun key y x hy hx =>
          (hstep (.field key) x y hx hy).symm
    | _ => rw [h'.eq_of_plain rfl]

end Value

/-! ## What guards make of trims -/

namespace Guard

variable {limits : Limits} {depth : Nat}

theorem checkKeys_of_subset {keys others : List String} (h : checkKeys keys = .ok ())
    (hsub : others ⊆ keys) : checkKeys others = .ok () := by
  unfold checkKeys
  have hnone : others.find? isDangerous = none := by
    rw [List.find?_eq_none]
    intro key hkey
    rw [isDangerous_of_checkKeys h key (hsub hkey)]
    exact Bool.false_ne_true
  rw [hnone]

theorem isOk_checkKeys_of_subset {keys others : List String} (h : (checkKeys keys).isOk = true)
    (hsub : others ⊆ keys) : (checkKeys others).isOk = true := by
  cases hk : checkKeys keys with
  | error r =>
    rw [hk] at h
    cases h
  | ok _ =>
    rw [checkKeys_of_subset hk hsub]
    rfl

theorem checkObject_of_subset {keys others : List String}
    (h : checkObject keys depth limits = .ok ()) (hsub : others ⊆ keys) :
    checkObject others depth limits = .ok () := by
  obtain ⟨hdepth, hkeys⟩ := checkObject_eq_ok h
  unfold checkObject
  rw [hdepth]
  exact checkKeys_of_subset hkeys hsub

theorem isOk_checkObject {keys : List String} :
    (checkObject keys depth limits).isOk
      = ((checkDepth depth limits).isOk && (checkKeys keys).isOk) := by
  unfold checkObject
  cases checkDepth depth limits <;> rfl

/-- A scan asks of a value what it asks of its keys, of its depth and of its parts. -/
theorem scanAccepts_iff (v : Value) : scanAccepts limits depth v = true
    ↔ ((checkKeys v.ownKeys).isOk = true
        ∧ (v.isComposite = true → (checkDepth depth limits).isOk = true))
      ∧ ∀ p ∈ v.parts, scanAccepts limits (depth + 1) p = true := by
  cases v with
  | array id items | set id items =>
    rw [scanAccepts, scanAcceptsItems_eq_all, Bool.and_eq_true, List.all_eq_true]
    exact and_congr_left' ⟨fun h => ⟨rfl, fun _ => h⟩, fun h => h.2 rfl⟩
  | object id fields =>
    rw [scanAccepts, scanAcceptsFields_eq_all, isOk_checkObject, Bool.and_eq_true, Bool.and_eq_true,
      List.all_eq_true, Value.forall_mem_parts_object]
    exact and_congr_left' ⟨fun h => ⟨h.2, fun _ => h.1⟩, fun h => ⟨h.2 rfl, h.1⟩⟩
  | map id entries =>
    rw [scanAccepts, scanAcceptsEntries_eq_all, Bool.and_eq_true, List.all_eq_true,
      Value.forall_mem_parts_map]
    simp only [Bool.and_eq_true]
    exact and_congr_left' ⟨fun h => ⟨rfl, fun _ => h⟩, fun h => h.2 rfl⟩
  | _ =>
    exact ⟨fun _ => ⟨⟨rfl, fun h => absurd h Bool.false_ne_true⟩,
      fun p hp => absurd hp List.not_mem_nil⟩, fun _ => rfl⟩

/-- What a scan lets through it lets through with fields left out. -/
theorem scanAccepts_of_trim (v : Value) : ∀ (w : Value) (depth : Nat), w.WellKeyed → w.TrimOf v →
    scanAccepts limits depth v = true → scanAccepts limits depth w = true := by
  induction v using Value.induction with
  | node v ih =>
    intro w depth hw h hv
    obtain ⟨⟨hkeys, hdepth⟩, hparts⟩ := (scanAccepts_iff v).mp hv
    refine (scanAccepts_iff w).mpr ⟨⟨?_, fun hc => ?_⟩, fun x hx => ?_⟩
    · exact isOk_checkKeys_of_subset hkeys h.ownKeys_subset
    · exact hdepth ((Value.isComposite_eq_of_frame_eq h.frame_eq).symm.trans hc)
    · obtain ⟨step, hstep⟩ := Value.exists_step hw.nodup_ownKeys hx
      obtain ⟨y, hy, hxy⟩ := h.part hstep
      have hmem := Value.mem_parts_of_part? hy
      exact ih y hmem x _ (hw.part hstep) hxy (hparts y hmem)

theorem scan_of_trim {v w : Value} {c : Context} (hw : w.WellKeyed) (h : w.TrimOf v)
    (hv : scan limits c v = none) : scan limits c w = none := by
  have hagree : ∀ x : Value, scanAccepts limits c.depth x = (scan limits c x).isNone :=
    fun x => Judge.Agrees.scan_isNone limits x c
  rw [← Option.isNone_iff_eq_none, ← hagree] at hv ⊢
  exact scanAccepts_of_trim v w c.depth hw h hv

end Guard

end ValueSchema
