/-
Other names for containers.

The identity of a container that is built is the name of its place, and nothing but the place
decides it. So two judgements at two places that build the same build containers of different
names. A renaming that gives no two identities one name carries the one to the other: whatever
reads identities only to tell which containers are one does not notice it.
-/
import ValueSchema.Proofs.Awaiting.Schemas
import ValueSchema.Proofs.Idempotence.Parallel
import ValueSchema.Proofs.Likeness.Copies

set_option autoImplicit false

namespace ValueSchema

namespace Value

/-! ## Renamed values -/

mutual

/-- A value with other names for its containers. -/
def rename (f : Ident → Ident) : Value → Value
  | array id items => array (f id) (renameItems f items)
  | object id fields => object (f id) (renameFields f fields)
  | map id entries => map (f id) (renameEntries f entries)
  | set id items => set (f id) (renameItems f items)
  | v => v

def renameItems (f : Ident → Ident) : List Value → List Value
  | [] => []
  | v :: rest => rename f v :: renameItems f rest

def renameFields (f : Ident → Ident) : List (String × Value) → List (String × Value)
  | [] => []
  | (key, v) :: rest => (key, rename f v) :: renameFields f rest

def renameEntries (f : Ident → Ident) : List (Value × Value) → List (Value × Value)
  | [] => []
  | (k, v) :: rest => (rename f k, rename f v) :: renameEntries f rest

end

variable {f : Ident → Ident}

theorem renameItems_eq_map (l : List Value) : renameItems f l = l.map (rename f) := by
  induction l with
  | nil => rfl
  | cons v rest ih => exact congrArg (List.cons (v.rename f)) ih

theorem renameFields_eq_mapValues (l : List (String × Value)) :
    renameFields f l = Keyed.mapValues (rename f) l := by
  induction l with
  | nil => rfl
  | cons e rest ih => exact congrArg (List.cons (e.1, e.2.rename f)) ih

/-- An entry of a map with other names for its containers. -/
def renameEntry (f : Ident → Ident) (e : Value × Value) : Value × Value :=
  (e.1.rename f, e.2.rename f)

theorem renameEntries_eq_map (l : List (Value × Value)) :
    renameEntries f l = l.map (renameEntry f) := by
  induction l with
  | nil => rfl
  | cons e rest ih => exact congrArg (List.cons (renameEntry f e)) ih

theorem rename_array (id : Ident) (items : List Value) :
    (array id items).rename f = array (f id) (items.map (rename f)) :=
  congrArg (array (f id)) (renameItems_eq_map items)

theorem rename_object (id : Ident) (fields : List (String × Value)) :
    (object id fields).rename f = object (f id) (Keyed.mapValues (rename f) fields) :=
  congrArg (object (f id)) (renameFields_eq_mapValues fields)

theorem rename_map (id : Ident) (entries : List (Value × Value)) :
    (map id entries).rename f = map (f id) (entries.map (renameEntry f)) :=
  congrArg (map (f id)) (renameEntries_eq_map entries)

theorem rename_set (id : Ident) (items : List Value) :
    (set id items).rename f = set (f id) (items.map (rename f)) :=
  congrArg (set (f id)) (renameItems_eq_map items)

/-- Values without a name keep nothing to rename. -/
theorem rename_of_plain {v : Value} (h : v.isComposite = false) : v.rename f = v := by
  cases v with
  | array _ _ | object _ _ | map _ _ | set _ _ => cases h
  | _ => rfl

theorem ident?_rename (v : Value) : (v.rename f).ident? = v.ident?.map f := by
  cases v <;> rfl

theorem isComposite_rename (v : Value) : (v.rename f).isComposite = v.isComposite := by
  cases v <;> rfl

theorem isUndefined_rename (v : Value) : (v.rename f).isUndefined = v.isUndefined := by
  cases v <;> rfl

theorem string?_rename (v : Value) : (v.rename f).string? = v.string? := by
  cases v <;> rfl

/-- A renamed value is a copy. -/
theorem copies_rename (v : Value) : v.Copies (v.rename f) := by
  induction v using Value.induction with
  | node v ih =>
    cases v with
    | array id items =>
      rw [rename_array, copies_array, List.forall₂_map_right_iff]
      exact List.forall₂_same.mpr ih
    | object id fields =>
      rw [rename_object, copies_object, Keyed.mapValues, List.forall₂_map_right_iff]
      exact List.forall₂_same.mpr fun e he => ⟨rfl, forall_mem_parts_object.mp ih e he⟩
    | map id entries =>
      rw [rename_map, copies_map, List.forall₂_map_right_iff]
      exact List.forall₂_same.mpr fun e he => forall_mem_parts_map.mp ih e he
    | set id items =>
      rw [rename_set, copies_set, List.forall₂_map_right_iff]
      exact List.forall₂_same.mpr ih
    | _ => rfl

theorem display_rename (v : Value) : (v.rename f).display = v.display :=
  (copies_rename v).display_eq.symm

/-- A value in which all names stay is the same value. -/
theorem rename_eq_self (v : Value) :
    (∀ k w id, Within w k v → w.ident? = some id → f id = id) → v.rename f = v := by
  induction v using Value.induction with
  | node v ih =>
    intro h
    have hparts : ∀ p ∈ v.parts, p.rename f = p := fun p hp =>
      ih p hp fun k w id hw => h (k + 1) w id (.part hp hw)
    have hown : ∀ id, v.ident? = some id → f id = id := fun id => h 0 v id .self
    cases v with
    | array id items =>
      have hitems : ∀ x ∈ items, x.rename f = x := hparts
      rw [rename_array, hown id rfl, List.map_congr_left hitems, List.map_id']
    | object id fields =>
      have hfields : ∀ e ∈ fields, (e.1, e.2.rename f) = e := fun e he =>
        Prod.ext rfl (forall_mem_parts_object.mp hparts e he)
      rw [rename_object, hown id rfl, Keyed.mapValues, List.map_congr_left hfields, List.map_id']
    | map id entries =>
      have hentries : ∀ e ∈ entries, renameEntry f e = e := fun e he =>
        have hboth := forall_mem_parts_map.mp hparts e he
        Prod.ext hboth.1 hboth.2
      rw [rename_map, hown id rfl, List.map_congr_left hentries, List.map_id']
    | set id items =>
      have hitems : ∀ x ∈ items, x.rename f = x := hparts
      rw [rename_set, hown id rfl, List.map_congr_left hitems, List.map_id']
    | _ => rfl

/-! A renamed container has the renamed parts, at the same steps. -/

theorem part?_rename (v : Value) (step : Step) :
    (v.rename f).part? step = (v.part? step).map (rename f) := by
  cases v with
  | array id items | set id items =>
    first | rw [rename_array] | rw [rename_set]
    cases step with
    | element n => exact List.getElem?_map
    | _ => rfl
  | object id fields =>
    rw [rename_object]
    cases step with
    | field key => exact Keyed.find?_mapValues (rename f) key fields
    | _ => rfl
  | map id entries =>
    rw [rename_map]
    cases step with
    | entryKey n | entryValue n =>
      simp only [part?, List.getElem?_map, Option.map_map]
      rfl
    | _ => rfl
  | _ => cases step <;> rfl

theorem frame_rename (v : Value) : (v.rename f).frame = v.frame := by
  cases v with
  | array id items =>
    rw [rename_array]
    simp only [frame, List.length_map]
  | set id items =>
    rw [rename_set]
    simp only [frame, List.length_map]
  | map id entries =>
    rw [rename_map]
    simp only [frame, List.length_map]
  | _ => rfl

/-! Lists of renamed parts. -/

theorem map_rename_eq {xs ys : List Value} (h : List.Forall₂ (fun v w => v.rename f = w) xs ys) :
    xs.map (rename f) = ys := by
  rw [← List.forall₂_eq_eq_eq, List.forall₂_map_left_iff]
  exact h

theorem mapValues_rename_eq {xs ys : List (String × Value)}
    (h : List.Forall₂ (Keyed.Like fun v w => v.rename f = w) xs ys) :
    Keyed.mapValues (rename f) xs = ys := by
  rw [Keyed.mapValues, ← List.forall₂_eq_eq_eq, List.forall₂_map_left_iff]
  exact h.imp fun _ _ he => Prod.ext he.1 he.2

theorem map_renameEntry_eq {xs ys : List (Value × Value)}
    (h : List.Forall₂ (EntryLike fun v w => v.rename f = w) xs ys) :
    xs.map (renameEntry f) = ys := by
  rw [← List.forall₂_eq_eq_eq, List.forall₂_map_left_iff]
  exact h.imp fun _ _ he => Prod.ext he.1 he.2

/-! ## Fields of renamed values -/

theorem keys_rename (fields : List (String × Value)) :
    Keyed.keys (Keyed.mapValues (rename f) fields) = Keyed.keys fields :=
  keys_map_snd (rename f) fields

theorem ownKeys_rename (v : Value) : (v.rename f).ownKeys = v.ownKeys := by
  cases v with
  | object id fields =>
    rw [rename_object]
    exact keys_rename fields
  | _ => rfl

theorem WellKeyed.rename (f : Ident → Ident) {v : Value} (h : v.WellKeyed) :
    (v.rename f).WellKeyed := by
  induction v using Value.induction with
  | node v ih =>
    have hown : (v.rename f).ownKeys.Nodup := by
      rw [ownKeys_rename]
      exact h.nodup_ownKeys
    refine wellKeyed_iff.mpr ⟨hown, fun p hp => ?_⟩
    obtain ⟨step, hstep⟩ := exists_step hown hp
    rw [part?_rename] at hstep
    obtain ⟨x, hx, rfl⟩ := Option.map_eq_some_iff.mp hstep
    exact ih x (mem_parts_of_part? hx) (h.part hx)

theorem find?_rename (key : String) (fields : List (String × Value)) :
    Keyed.find? key (Keyed.mapValues (rename f) fields) = (Keyed.find? key fields).map (rename f) :=
  Keyed.find?_mapValues (rename f) key fields

theorem insert_rename (key : String) (v : Value) (fields : List (String × Value)) :
    Keyed.insert key (v.rename f) (Keyed.mapValues (rename f) fields)
      = Keyed.mapValues (rename f) (Keyed.insert key v fields) := by
  induction fields with
  | nil => rfl
  | cons e rest ih =>
    obtain ⟨k, x⟩ := e
    simp only [Keyed.mapValues, List.map_cons, Keyed.insert] at ih ⊢
    by_cases hkey : k = key
    · rw [if_pos hkey, if_pos hkey, List.map_cons]
    · rw [if_neg hkey, if_neg hkey, List.map_cons, ih]

/-! ## What renaming keeps -/

theorem samePrimitive_rename (v w : Value) :
    (v.rename f).samePrimitive (w.rename f) = v.samePrimitive w := by
  cases v <;> cases w <;> rfl

/-- A key with another name for its container. -/
def Key.rename (f : Ident → Ident) : Key → Key
  | .ref id => .ref (f id)
  | k => k

theorem key_rename (v : Value) : (v.rename f).key = v.key.rename f := by
  cases v <;> rfl

section

variable {xs : List Value} {es : List (Value × Value)} {fs : List (String × Value)}

theorem equalItems_rename
    (h : ∀ x ∈ xs, ∀ y : Value, (x.rename f).equal (y.rename f) = x.equal y) (ys : List Value) :
    equalItems (xs.map (rename f)) (ys.map (rename f)) = equalItems xs ys := by
  induction xs generalizing ys with
  | nil => cases ys <;> simp only [List.map_nil, List.map_cons, equalItems]
  | cons x xs ih =>
    rw [List.forall_mem_cons] at h
    cases ys with
    | nil => simp only [List.map_nil, List.map_cons, equalItems]
    | cons y ys => rw [List.map_cons, List.map_cons, equalItems, equalItems, h.1 y, ih h.2 ys]

theorem equalFields_rename
    (h : ∀ e ∈ fs, ∀ y : Value, (e.2.rename f).equal (y.rename f) = e.2.equal y)
    (others : List (String × Value)) :
    equalFields (Keyed.mapValues (rename f) fs) (Keyed.mapValues (rename f) others)
      = equalFields fs others := by
  induction fs with
  | nil => simp only [Keyed.mapValues, List.map_nil, equalFields]
  | cons e rest ih =>
    obtain ⟨key, x⟩ := e
    rw [List.forall_mem_cons] at h
    have hrest := ih h.2
    show equalFields ((key, x.rename f) :: Keyed.mapValues (rename f) rest) _ = _
    rw [equalFields, equalFields, find?_rename, hrest]
    cases Keyed.find? key others with
    | none => rfl
    | some y =>
      show ((x.rename f).equal (y.rename f) && _) = _
      rw [h.1 y]

theorem equalEntries_rename
    (h : ∀ e ∈ es, (∀ y : Value, (e.1.rename f).equal (y.rename f) = e.1.equal y)
      ∧ ∀ y : Value, (e.2.rename f).equal (y.rename f) = e.2.equal y)
    (others : List (Value × Value)) :
    equalEntries (es.map (renameEntry f)) (others.map (renameEntry f))
      = equalEntries es others := by
  induction es generalizing others with
  | nil => cases others <;> simp only [List.map_nil, List.map_cons, equalEntries]
  | cons e rest ih =>
    obtain ⟨k, x⟩ := e
    rw [List.forall_mem_cons] at h
    cases others with
    | nil => simp only [List.map_nil, List.map_cons, renameEntry, equalEntries]
    | cons e' others =>
      obtain ⟨l, y⟩ := e'
      rw [List.map_cons, List.map_cons, renameEntry, renameEntry, equalEntries, equalEntries,
        h.1.1 l, h.1.2 y, ih h.2 others]

end

section

variable (hf : Function.Injective f)
include hf

theorem beq_rename (a b : Ident) : (f a == f b) = (a == b) := by
  rw [Bool.eq_iff_iff, beq_iff_eq, beq_iff_eq, hf.eq_iff]

theorem sameContainer_rename (v w : Value) :
    (v.rename f).sameContainer (w.rename f) = v.sameContainer w := by
  cases v <;> cases w <;> first | rfl | exact beq_rename hf _ _

theorem sameValueZero_rename (v w : Value) :
    (v.rename f).sameValueZero (w.rename f) = v.sameValueZero w := by
  rw [sameValueZero, sameValueZero, samePrimitive_rename, sameContainer_rename hf]

/-- Renamed values are equal where the values are. -/
theorem equal_rename (v : Value) : ∀ w : Value, (v.rename f).equal (w.rename f) = v.equal w := by
  induction v using Value.induction with
  | node v ih =>
    intro w
    cases v with
    | array id xs =>
      have hitems : ∀ x ∈ xs, ∀ y : Value, (x.rename f).equal (y.rename f) = x.equal y := ih
      rw [rename_array]
      cases w with
      | array id' ys =>
        rw [rename_array, equal, equal, beq_rename hf, equalItems_rename hitems]
      | _ => simp only [rename, equal]
    | object id fields =>
      rw [rename_object]
      cases w with
      | object id' others =>
        rw [rename_object, equal, equal, beq_rename hf,
          equalFields_rename (forall_mem_parts_object.mp ih), Keyed.mapValues, Keyed.mapValues,
          List.length_map, List.length_map]
      | _ => simp only [rename, equal]
    | map id entries =>
      have hentries : ∀ e ∈ entries,
          (∀ y : Value, (e.1.rename f).equal (y.rename f) = e.1.equal y)
            ∧ ∀ y : Value, (e.2.rename f).equal (y.rename f) = e.2.equal y :=
        fun e he => forall_mem_parts_map.mp ih e he
      rw [rename_map]
      cases w with
      | map id' others =>
        rw [rename_map, equal, equal, beq_rename hf, equalEntries_rename hentries]
      | _ => simp only [rename, equal]
    | set id xs =>
      have hitems : ∀ x ∈ xs, ∀ y : Value, (x.rename f).equal (y.rename f) = x.equal y := ih
      rw [rename_set]
      cases w with
      | set id' ys =>
        rw [rename_set, equal, equal, beq_rename hf, equalItems_rename hitems]
      | _ => simp only [rename, equal]
    | _ => cases w <;> simp only [rename, equal]

theorem Key.rename_injective : Function.Injective (Key.rename f) := by
  intro k l h
  cases k <;> cases l <;> first | exact h | cases h | skip
  exact congrArg Key.ref (hf (Key.ref.inj h))

theorem repeatedFrom_rename (seen keys : List Key) (n : Nat) :
    repeatedFrom (seen.map (Key.rename f)) n (keys.map (Key.rename f))
      = repeatedFrom seen n keys := by
  induction keys generalizing seen n with
  | nil => rfl
  | cons k rest ih =>
    have hseen : (seen.map (Key.rename f)).contains (k.rename f) = seen.contains k := by
      rw [Bool.eq_iff_iff, List.contains_iff_mem, List.contains_iff_mem,
        List.mem_map_of_injective (Key.rename_injective hf)]
    rw [List.map_cons, repeatedFrom, repeatedFrom, hseen, ← ih (k :: seen) (n + 1), List.map_cons]

/-- Renamed elements repeat where the elements do. -/
theorem firstRepeat?_rename (items : List Value) :
    firstRepeat? (items.map (rename f)) = firstRepeat? items := by
  have hkeys : (items.map (rename f)).map key = (items.map key).map (Key.rename f) := by
    rw [List.map_map, List.map_map]
    exact List.map_congr_left fun v _ => key_rename v
  rw [firstRepeat?, firstRepeat?, hkeys]
  exact repeatedFrom_rename hf [] (items.map key) 0

end

end Value

end ValueSchema
