/-
Outputs made in parallel.

A second judgement is compared with the first one: the first makes an output of a value, the second
makes an output of a trim of that value which still has everything the first output has. The two
outputs are parallel. They have the same parts, each of them takes its parts from its own input, and
container by container both were handed on as they came or both were built. What a judgement builds
is named after its own sites, so the last point decides which containers have one identity, and with
that parallel outputs agree with each other wherever the first ones do.
-/
import ValueSchema.Proofs.Idempotence.Trims
import ValueSchema.Proofs.Compiled.Sharing

set_option autoImplicit false

namespace ValueSchema

/-! ## What a site makes -/

/-- An identity is named after a site or after a site further inside. -/
def Site.Makes (s : Site) (id : Ident) : Prop :=
  ∃ place, s.place <:+ place ∧ id = .made s.run place

namespace Site

theorem makes_ident (s : Site) : s.Makes s.ident := ⟨s.place, List.suffix_rfl, rfl⟩

theorem Makes.of_child {s : Site} {n : Nat} {id : Ident} (h : (s.child n).Makes id) :
    s.Makes id := by
  obtain ⟨place, hplace, rfl⟩ := h
  exact ⟨place, (List.suffix_cons n s.place).trans hplace, rfl⟩

/-- Sites of different parts make different things. -/
theorem Makes.child_inj {s : Site} {n n' : Nat} {id : Ident} (h : (s.child n).Makes id)
    (h' : (s.child n').Makes id) : n = n' := by
  obtain ⟨place, hplace, rfl⟩ := h
  obtain ⟨place', hplace', heq⟩ := h'
  cases heq
  -- both names end in a place of one length
  have hlen : (n :: s.place).length = (n' :: s.place).length := rfl
  have heq := (List.suffix_of_suffix_length_le hplace hplace' hlen.le).eq_of_length hlen
  exact (List.cons.inj heq).1

theorem Makes.identRun {s : Site} {id : Ident} (h : s.Makes id) :
    Value.identRun id = s.run + 1 := by
  obtain ⟨place, _, rfl⟩ := h
  rfl

end Site

namespace Value

/-! ## Older values -/

theorem nextRun_le_items {v : Value} {l : List Value} (h : v ∈ l) : v.nextRun ≤ nextRunItems l := by
  induction l with
  | nil => exact absurd h List.not_mem_nil
  | cons w rest ih =>
    simp only [nextRunItems]
    rcases List.mem_cons.mp h with rfl | h
    · omega
    · have hle := ih h
      omega

theorem nextRun_le_fields {f : String × Value} {l : List (String × Value)} (h : f ∈ l) :
    f.2.nextRun ≤ nextRunFields l := by
  induction l with
  | nil => exact absurd h List.not_mem_nil
  | cons g rest ih =>
    obtain ⟨key, w⟩ := g
    simp only [nextRunFields]
    rcases List.mem_cons.mp h with rfl | h
    · dsimp only
      omega
    · have hle := ih h
      omega

theorem nextRun_le_entries {e : Value × Value} {l : List (Value × Value)} (h : e ∈ l) :
    e.1.nextRun ≤ nextRunEntries l ∧ e.2.nextRun ≤ nextRunEntries l := by
  induction l with
  | nil => exact absurd h List.not_mem_nil
  | cons g rest ih =>
    obtain ⟨k, w⟩ := g
    simp only [nextRunEntries]
    rcases List.mem_cons.mp h with rfl | h
    · dsimp only
      omega
    · have hle := ih h
      omega

/-- A part is no newer than its container. -/
theorem nextRun_le_of_mem_parts {v x : Value} (h : x ∈ v.parts) : x.nextRun ≤ v.nextRun := by
  cases v with
  | array id items | set id items => exact (nextRun_le_items h).trans (Nat.le_max_right _ _)
  | object id fields =>
    obtain ⟨f, hf, rfl⟩ := List.mem_map.mp h
    exact (nextRun_le_fields hf).trans (Nat.le_max_right _ _)
  | map id entries =>
    simp only [parts, List.mem_flatMap, List.mem_cons, List.not_mem_nil, or_false] at h
    obtain ⟨e, he, h⟩ := h
    obtain ⟨hkey, hvalue⟩ := nextRun_le_entries he
    rcases h with rfl | rfl
    · exact hkey.trans (Nat.le_max_right _ _)
    · exact hvalue.trans (Nat.le_max_right _ _)
  | _ => exact absurd h List.not_mem_nil

theorem nextRun_le_of_part? {v x : Value} {step : Step} (h : v.part? step = some x) :
    x.nextRun ≤ v.nextRun :=
  nextRun_le_of_mem_parts (mem_parts_of_part? h)

/-! ## Parallel outputs -/

/-- A container that was built: it has one of the identities that were made. -/
def Built (made : Ident → Prop) (v : Value) : Prop := ∃ id, v.ident? = some id ∧ made id

/-- One value is made of `v` as another one is made of `m`. Each has the frame of its input and
parts made of the parts of its input, both have the same parts, and either both are their inputs or
both were built. -/
inductive Parallel (made made' : Ident → Prop) : Value → Value → Value → Value → Prop
  | intro {v m o o' : Value} (frames : m.frame = v.frame) (frame : o.frame = v.frame)
      (frame' : o'.frame = v.frame)
      (origin : (o = v ∧ o' = m) ∨ (o.Built made ∧ o'.Built made'))
      (keyed : o.ownKeys.Nodup) (keyed' : o'.ownKeys.Nodup)
      (found : ∀ step, (o.part? step).isSome = (o'.part? step).isSome)
      (within : ∀ step, (o.part? step).isSome → (v.part? step).isSome)
      (within' : ∀ step, (o'.part? step).isSome → (m.part? step).isSome)
      (parts : ∀ step x y z w, v.part? step = some x → m.part? step = some y →
        o.part? step = some z → o'.part? step = some w → Parallel made made' x y z w) :
      Parallel made made' v m o o'

namespace Parallel

variable {made made' : Ident → Prop} {v m o o' : Value}

theorem frames_eq (h : Parallel made made' v m o o') : m.frame = v.frame := by
  cases h
  assumption

theorem frame_eq (h : Parallel made made' v m o o') : o.frame = v.frame := by
  cases h
  assumption

theorem origin (h : Parallel made made' v m o o') :
    (o = v ∧ o' = m) ∨ (o.Built made ∧ o'.Built made') := by
  cases h
  assumption

theorem nodup_ownKeys (h : Parallel made made' v m o o') : o.ownKeys.Nodup := by
  cases h
  assumption

theorem symm (h : Parallel made made' v m o o') : Parallel made' made m v o' o := by
  induction h with
  | intro frames frame frame' origin keyed keyed' found within within' parts ih =>
    refine .intro frames.symm (frame'.trans frames.symm) (frame.trans frames.symm) ?_ keyed' keyed
      (fun step => (found step).symm) within' within fun step y x w z hy hx hw hz =>
        ih step x y z w hx hy hz hw
    exact origin.imp And.symm And.symm

theorem mono {more more' : Ident → Prop} (hmore : ∀ id, made id → more id)
    (hmore' : ∀ id, made' id → more' id) (h : Parallel made made' v m o o') :
    Parallel more more' v m o o' := by
  induction h with
  | intro frames frame frame' origin keyed keyed' found within within' parts ih =>
    refine .intro frames frame frame' ?_ keyed keyed' found within within' ih
    refine origin.imp id fun ⟨⟨i, hi, hmade⟩, ⟨i', hi', hmade'⟩⟩ => ?_
    exact ⟨⟨i, hi, hmore i hmade⟩, ⟨i', hi', hmore' i' hmade'⟩⟩

/-- A part of the first output comes with a part of everything else, and they are parallel. -/
theorem part (h : Parallel made made' v m o o') {step : Step} {z : Value}
    (hz : o.part? step = some z) : ∃ x y w, v.part? step = some x ∧ m.part? step = some y
      ∧ o'.part? step = some w ∧ Parallel made made' x y z w := by
  cases h with
  | intro frames frame frame' origin keyed keyed' found within within' parts =>
    have hfound : (o'.part? step).isSome := by rw [← found, hz]; rfl
    obtain ⟨w, hw⟩ := Option.isSome_iff_exists.mp hfound
    obtain ⟨x, hx⟩ := Option.isSome_iff_exists.mp (within step (by rw [hz]; rfl))
    obtain ⟨y, hy⟩ := Option.isSome_iff_exists.mp (within' step hfound)
    exact ⟨x, y, w, hx, hy, hw, parts step x y z w hx hy hz hw⟩

theorem part?_eq_none (h : Parallel made made' v m o o') {step : Step}
    (hnone : o.part? step = none) : o'.part? step = none := by
  rw [Option.eq_none_iff_forall_ne_some]
  intro w hw
  obtain ⟨_, _, _, _, _, hz, _⟩ := h.symm.part hw
  rw [hnone] at hz
  cases hz

/-- Built outputs are parallel as soon as every step leads nowhere in both, or to parallel parts. -/
theorem of_built (frames : m.frame = v.frame) (frame : o.frame = v.frame)
    (frame' : o'.frame = v.frame) (built : o.Built made) (built' : o'.Built made')
    (keyed : o.ownKeys.Nodup) (keyed' : o'.ownKeys.Nodup)
    (steps : ∀ step, (o.part? step = none ∧ o'.part? step = none) ∨ ∃ x y z w,
      v.part? step = some x ∧ m.part? step = some y ∧ o.part? step = some z
        ∧ o'.part? step = some w ∧ Parallel made made' x y z w) :
    Parallel made made' v m o o' := by
  refine .intro frames frame frame' (.inr ⟨built, built'⟩) keyed keyed' (fun step => ?_)
    (fun step hsome => ?_) (fun step hsome => ?_) fun step x y z w hx hy hz hw => ?_
  all_goals rcases steps step with ⟨hnone, hnone'⟩ | ⟨x', y', z', w', hx', hy', hz', hw', hpart⟩
  · rw [hnone, hnone']
  · rw [hz', hw', Option.isSome_some, Option.isSome_some]
  · rw [hnone] at hsome
    cases hsome
  · rw [hx', Option.isSome_some]
  · rw [hnone'] at hsome
    cases hsome
  · rw [hy', Option.isSome_some]
  · rw [hnone] at hz
    cases hz
  · rw [hx] at hx'
    rw [hy] at hy'
    rw [hz] at hz'
    rw [hw] at hw'
    cases hx'
    cases hy'
    cases hz'
    cases hw'
    exact hpart

/-- What follows from parallel parts for every node follows from being parallel. -/
theorem induct {motive : Value → Value → Value → Value → Prop}
    (node : ∀ v m o o', Parallel made made' v m o o' →
      (∀ step z, o.part? step = some z → ∃ x y w, v.part? step = some x ∧ m.part? step = some y
        ∧ o'.part? step = some w ∧ motive x y z w) → motive v m o o')
    (h : Parallel made made' v m o o') : motive v m o o' := by
  induction h with
  | @intro v m o o' frames frame frame' origin keyed keyed' found within within' parts ih =>
    have h : Parallel made made' v m o o' :=
      .intro frames frame frame' origin keyed keyed' found within within' parts
    refine node v m o o' h fun step z hz => ?_
    obtain ⟨x, y, w, hx, hy, hw, _⟩ := h.part hz
    exact ⟨x, y, w, hx, hy, hw, ih step x y z w hx hy hz hw⟩

/-- The first output is a trim of its input. -/
theorem trim (h : Parallel made made' v m o o') : o.TrimOf v := by
  refine h.induct (motive := fun v _ o _ => o.TrimOf v) fun v m o o' h parts => ?_
  refine .of_parts h.frame_eq fun step z hz => ?_
  obtain ⟨x, y, w, hx, _, _, htrim⟩ := parts step z hz
  exact ⟨x, hx, htrim⟩

/-- The first output is a trim of the second. -/
theorem trim_other (h : Parallel made made' v m o o') : o.TrimOf o' := by
  refine h.induct (motive := fun _ _ o o' => o.TrimOf o') fun v m o o' h parts => ?_
  refine .of_parts (h.frame_eq.trans (h.symm.frame_eq.trans h.frames_eq).symm) fun step z hz => ?_
  obtain ⟨x, y, w, _, _, hw, htrim⟩ := parts step z hz
  exact ⟨w, hw, htrim⟩

theorem wellKeyed (h : Parallel made made' v m o o') : o.WellKeyed := by
  refine h.induct (motive := fun _ _ o _ => o.WellKeyed) fun v m o o' h parts => ?_
  refine wellKeyed_iff.mpr ⟨h.nodup_ownKeys, fun z hz => ?_⟩
  obtain ⟨step, hz⟩ := exists_step h.nodup_ownKeys hz
  obtain ⟨_, _, _, _, _, _, hkeyed⟩ := parts step z hz
  exact hkeyed

/-- **Parallel outputs are alike.** -/
theorem alike (h : Parallel made made' v m o o') : o.Alike o' :=
  alike_of_trims o o' h.wellKeyed h.symm.wellKeyed h.trim_other h.symm.trim_other

/-- Values that are trims of each other are parallel to themselves. -/
theorem handed_on (v : Value) : ∀ m : Value, v.WellKeyed → m.WellKeyed → v.TrimOf m →
    m.TrimOf v → Parallel made made' v m v m := by
  induction v using Value.induction with
  | node v ih =>
    intro m hv hm h h'
    refine .intro h'.frame_eq rfl h'.frame_eq (.inl ⟨rfl, rfl⟩) hv.nodup_ownKeys hm.nodup_ownKeys
      (fun step => ?_) (fun _ hsome => hsome) (fun _ hsome => hsome)
      fun step x y z w hx hy hz hw => ?_
    · rw [Bool.eq_iff_iff, Option.isSome_iff_exists, Option.isSome_iff_exists]
      constructor
      · rintro ⟨x, hx⟩
        obtain ⟨y, hy, _⟩ := h.part hx
        exact ⟨y, hy⟩
      · rintro ⟨y, hy⟩
        obtain ⟨x, hx, _⟩ := h'.part hy
        exact ⟨x, hx⟩
    · rw [hx] at hz
      rw [hy] at hw
      cases hz
      cases hw
      exact ih x (mem_parts_of_part? hx) y (hv.part hx) (hm.part hy) (h.parts_trim hx hy)
        (h'.parts_trim hy hx)

end Parallel

/-! ## Where two outputs agree -/

/-- Two judgements of one run never make the same thing. -/
structure Apart (made other : Ident → Prop) (run : Nat) : Prop where
  disjoint : ∀ id, made id → ¬ other id
  run_made : ∀ id, made id → identRun id = run + 1
  run_other : ∀ id, other id → identRun id = run + 1

theorem not_built_of_nextRun_le {made : Ident → Prop} {run : Nat} {v : Value}
    (hmade : ∀ id, made id → identRun id = run + 1) (h : v.nextRun ≤ run) : ¬ v.Built made := by
  rintro ⟨id, hid, hbuilt⟩
  have hle := identRun_le_nextRun hid
  have hrun := hmade id hbuilt
  omega

/-- Lists of one length are related if every position of the first one leads to related elements. -/
theorem forall₂_iff_getElem? {α β : Type} {R : α → β → Prop} {xs : List α} {ys : List β}
    (hlen : ys.length = xs.length) : List.Forall₂ R xs ys
      ↔ ∀ (n : Nat) (x : α), xs[n]? = some x → ∃ y, ys[n]? = some y ∧ R x y := by
  rw [List.forall₂_iff_get]
  constructor
  · rintro ⟨_, h⟩ n x hx
    obtain ⟨hn, rfl⟩ := List.getElem?_eq_some_iff.mp hx
    exact ⟨ys[n], List.getElem?_eq_getElem (hlen ▸ hn), h n hn (hlen ▸ hn)⟩
  · refine fun h => ⟨hlen.symm, fun n hn hn' => ?_⟩
    obtain ⟨y, hy, hxy⟩ := h n xs[n] (List.getElem?_eq_getElem hn)
    obtain ⟨_, rfl⟩ := List.getElem?_eq_some_iff.mp hy
    exact hxy

theorem equalItems_iff (xs ys : List Value) :
    equalItems xs ys = true ↔ List.Forall₂ (fun x y => x.equal y = true) xs ys := by
  induction xs generalizing ys with
  | nil => cases ys <;> simp [equalItems]
  | cons x xs ih =>
    cases ys with
    | nil => simp [equalItems]
    | cons y ys => simp only [equalItems, Bool.and_eq_true, List.forall₂_cons, ih]

theorem equalEntries_iff (xs ys : List (Value × Value)) : equalEntries xs ys = true
    ↔ List.Forall₂ (fun e f => e.1.equal f.1 = true ∧ e.2.equal f.2 = true) xs ys := by
  induction xs generalizing ys with
  | nil => cases ys <;> simp [equalEntries]
  | cons e xs ih =>
    obtain ⟨k, x⟩ := e
    cases ys with
    | nil => simp [equalEntries]
    | cons f ys =>
      obtain ⟨l, y⟩ := f
      simp only [equalEntries, Bool.and_eq_true, List.forall₂_cons, ih]

theorem equalFields_iff (xs ys : List (String × Value)) : equalFields xs ys = true
    ↔ ∀ f ∈ xs, ∃ y, Keyed.find? f.1 ys = some y ∧ f.2.equal y = true := by
  induction xs with
  | nil => simp [equalFields]
  | cons f xs ih =>
    obtain ⟨key, x⟩ := f
    simp only [equalFields, Bool.and_eq_true, List.forall_mem_cons, ih]
    refine and_congr_left' ?_
    cases Keyed.find? key ys <;> simp

/-- Containers of one frame are structurally equal if they are one container, or are of one size and
have equal parts. -/
theorem equal_iff {a b : Value} (hframe : b.frame = a.frame) (hcomposite : a.isComposite = true)
    (hkeyed : a.ownKeys.Nodup) : a.equal b = true ↔ a.ident? = b.ident?
      ∨ (a.ownKeys.length = b.ownKeys.length ∧ ∀ step x, a.part? step = some x →
        ∃ y, b.part? step = some y ∧ x.equal y = true) := by
  cases a with
  | array id xs =>
    obtain ⟨id', ys, rfl, hlen⟩ := frame_array hframe
    simp only [equal, Bool.or_eq_true, beq_iff_eq, equalItems_iff, forall₂_iff_getElem? hlen,
      ident?, Option.some.injEq, ownKeys, true_and]
    refine or_congr_right ⟨fun h step x hx => ?_, fun h n => h (.element n)⟩
    cases step with
    | element n => exact h n x hx
    | _ => cases hx
  | set id xs =>
    obtain ⟨id', ys, rfl, hlen⟩ := frame_set hframe
    simp only [equal, Bool.or_eq_true, beq_iff_eq, equalItems_iff, forall₂_iff_getElem? hlen,
      ident?, Option.some.injEq, ownKeys, true_and]
    refine or_congr_right ⟨fun h step x hx => ?_, fun h n => h (.element n)⟩
    cases step with
    | element n => exact h n x hx
    | _ => cases hx
  | map id xs =>
    obtain ⟨id', ys, rfl, hlen⟩ := frame_map hframe
    simp only [equal, Bool.or_eq_true, beq_iff_eq, equalEntries_iff, forall₂_iff_getElem? hlen,
      ident?, Option.some.injEq, ownKeys, true_and]
    refine or_congr_right ⟨fun h step x hx => ?_, fun h n e he => ?_⟩
    · cases step with
      | entryKey n =>
        obtain ⟨e, he, rfl⟩ := Option.map_eq_some_iff.mp hx
        obtain ⟨f, hf, hkey, _⟩ := h n e he
        exact ⟨f.1, Option.map_eq_some_iff.mpr ⟨f, hf, rfl⟩, hkey⟩
      | entryValue n =>
        obtain ⟨e, he, rfl⟩ := Option.map_eq_some_iff.mp hx
        obtain ⟨f, hf, _, hvalue⟩ := h n e he
        exact ⟨f.2, Option.map_eq_some_iff.mpr ⟨f, hf, rfl⟩, hvalue⟩
      | _ => cases hx
    · obtain ⟨k, hk, hkey⟩ := h (.entryKey n) e.1 (Option.map_eq_some_iff.mpr ⟨e, he, rfl⟩)
      obtain ⟨y, hy, hvalue⟩ := h (.entryValue n) e.2 (Option.map_eq_some_iff.mpr ⟨e, he, rfl⟩)
      obtain ⟨f, hf, rfl⟩ := Option.map_eq_some_iff.mp hk
      obtain ⟨f', hf', rfl⟩ := Option.map_eq_some_iff.mp hy
      rw [hf] at hf'
      cases hf'
      exact ⟨f, hf, hkey, hvalue⟩
  | object id xs =>
    obtain ⟨id', ys, rfl⟩ := frame_object hframe
    simp only [equal, Bool.or_eq_true, Bool.and_eq_true, beq_iff_eq, equalFields_iff, ident?,
      Option.some.injEq, ownKeys, Keyed.keys, List.length_map]
    refine or_congr_right (and_congr_right fun _ => ⟨fun h step x hx => ?_, fun h f hf => ?_⟩)
    · cases step with
      | field key => exact h _ (Keyed.mem_of_find? hx)
      | _ => cases hx
    · exact h (.field f.1) f.2 (Keyed.find?_of_mem hkeyed hf)
  | _ => cases hcomposite

/-- Lists of one length have the same positions. -/
theorem isSome_getElem?_eq {α : Type} {xs ys : List α} (hlen : ys.length = xs.length) (n : Nat) :
    ys[n]?.isSome = xs[n]?.isSome := by
  rw [Bool.eq_iff_iff, Option.isSome_iff_ne_none, Option.isSome_iff_ne_none, ne_eq, ne_eq,
    List.getElem?_eq_none_iff, List.getElem?_eq_none_iff, hlen]

/-- Containers of one frame have their elements and entries at the same positions. -/
theorem isSome_part?_eq {a b : Value} (hframe : b.frame = a.frame) {step : Step}
    (hstep : ∀ key, step ≠ .field key) : (b.part? step).isSome = (a.part? step).isSome := by
  cases a with
  | array id xs =>
    obtain ⟨id', ys, rfl, hlen⟩ := frame_array hframe
    cases step with
    | element n => exact isSome_getElem?_eq hlen n
    | _ => rfl
  | set id xs =>
    obtain ⟨id', ys, rfl, hlen⟩ := frame_set hframe
    cases step with
    | element n => exact isSome_getElem?_eq hlen n
    | _ => rfl
  | map id xs =>
    obtain ⟨id', ys, rfl, hlen⟩ := frame_map hframe
    cases step with
    | entryKey n | entryValue n =>
      simp only [part?, Option.isSome_map]
      exact isSome_getElem?_eq hlen n
    | _ => rfl
  | object id xs =>
    obtain ⟨id', ys, rfl⟩ := frame_object hframe
    cases step with
    | field key => exact absurd rfl (hstep key)
    | _ => rfl
  | _ => rw [eq_of_frame_eq hframe rfl]

/-- Only objects have fields. -/
theorem ownKeys_of_field {v x : Value} {key : String} (h : v.part? (.field key) = some x) :
    key ∈ v.ownKeys := by
  cases v with
  | object id fields => exact Keyed.mem_keys_iff.mpr ⟨x, h⟩
  | _ => cases h

theorem part?_field_of_mem {v : Value} {key : String} (h : key ∈ v.ownKeys) :
    ∃ x, v.part? (.field key) = some x := by
  cases v with
  | object id fields => exact Keyed.mem_keys_iff.mp h
  | _ => exact absurd h List.not_mem_nil

/-- Where every part of a value is found in another one of its size, nothing else is. -/
theorem found_of_length_eq {a b : Value} (hframe : b.frame = a.frame) (hkeyed : a.ownKeys.Nodup)
    (hlen : a.ownKeys.length = b.ownKeys.length)
    (h : ∀ step x, a.part? step = some x → ∃ y, b.part? step = some y) {step : Step} {y : Value}
    (hy : b.part? step = some y) : ∃ x, a.part? step = some x := by
  by_cases hstep : ∃ key, step = .field key
  · obtain ⟨key, rfl⟩ := hstep
    have hsub : a.ownKeys ⊆ b.ownKeys := by
      intro k hk
      obtain ⟨x, hx⟩ := part?_field_of_mem hk
      obtain ⟨z, hz⟩ := h _ x hx
      exact ownKeys_of_field hz
    -- as many keys, none twice, and all of them found: these are all
    have hperm := (List.subperm_of_subset hkeyed hsub).perm_of_length_le hlen.ge
    exact part?_field_of_mem (hperm.mem_iff.mpr (ownKeys_of_field hy))
  · have hsome := isSome_part?_eq hframe (not_exists.mp hstep)
    rw [hy, Option.isSome_some] at hsome
    exact Option.isSome_iff_exists.mp hsome.symm

namespace Parallel

variable {made made' other other' : Ident → Prop} {run run' : Nat} {v m a a' b b' : Value}

/-- Parallel outputs have as many keys. -/
theorem length_ownKeys_eq (h : Parallel made made' v m a a') :
    a'.ownKeys.length = a.ownKeys.length := by
  have hsub : ∀ {made made' : Ident → Prop} {v m a a' : Value}, Parallel made made' v m a a' →
      a.ownKeys.length ≤ a'.ownKeys.length := by
    intro made made' v m a a' h
    refine (List.subperm_of_subset h.nodup_ownKeys fun key hkey => ?_).length_le
    obtain ⟨z, hz⟩ := part?_field_of_mem hkey
    obtain ⟨_, _, _, _, _, hw, _⟩ := h.part hz
    exact ownKeys_of_field hw
  exact Nat.le_antisymm (hsub h.symm) (hsub h)

/-- Outputs with one identity were both handed on. -/
theorem eq_of_ident?_eq (ha : Parallel made made' v m a a') (hb : Parallel other other' v m b b')
    (hapart : Apart made other run) (hv : v.nextRun ≤ run) (hid : a.ident? = b.ident?) :
    (a = v ∧ a' = m) ∧ b = v ∧ b' = m := by
  have hnew := not_built_of_nextRun_le hapart.run_made hv
  have hnew' := not_built_of_nextRun_le hapart.run_other hv
  rcases ha.origin with ⟨rfl, rfl⟩ | ⟨⟨id, haid, hmade⟩, _⟩
  · rcases hb.origin with ⟨rfl, rfl⟩ | ⟨⟨id, hbid, hother⟩, _⟩
    · exact ⟨⟨rfl, rfl⟩, rfl, rfl⟩
    · exact absurd ⟨id, hid.trans hbid, hother⟩ hnew'
  · rcases hb.origin with ⟨rfl, rfl⟩ | ⟨⟨id', hbid, hother⟩, _⟩
    · exact absurd ⟨id, hid.symm.trans haid, hmade⟩ hnew
    · -- what both made would be one thing
      rw [haid, hbid] at hid
      cases hid
      exact absurd hother (hapart.disjoint id hmade)

/-- Two outputs that are structurally equal have parallel outputs that are. -/
theorem equal (v : Value) : ∀ {m a a' b b' : Value}, Parallel made made' v m a a' →
    Parallel other other' v m b b' → Apart made other run → v.nextRun ≤ run →
    a.equal b = true → a'.equal b' = true := by
  induction v using Value.induction with
  | node v ih =>
    intro m a a' b b' ha hb hapart hv h
    by_cases hcomposite : v.isComposite = true
    · have hframe : b.frame = a.frame := hb.frame_eq.trans ha.frame_eq.symm
      have hframe' : b'.frame = a'.frame := hb.symm.frame_eq.trans ha.symm.frame_eq.symm
      have hac : a.isComposite = true := (isComposite_eq_of_frame_eq ha.frame_eq).trans hcomposite
      have hac' : a'.isComposite = true :=
        (isComposite_eq_of_frame_eq (ha.symm.frame_eq.trans ha.frames_eq)).trans hcomposite
      rw [equal_iff hframe hac ha.nodup_ownKeys] at h
      rw [equal_iff hframe' hac' ha.symm.nodup_ownKeys]
      rcases h with hid | ⟨hlen, hparts⟩
      · -- one container on one side is one container on the other
        obtain ⟨⟨_, rfl⟩, _, rfl⟩ := eq_of_ident?_eq ha hb hapart hv hid
        exact .inl rfl
      · refine .inr ⟨?_, fun step w hw => ?_⟩
        · rw [ha.length_ownKeys_eq, hb.length_ownKeys_eq, hlen]
        · obtain ⟨y, x, z, hy, hx, hz, haz⟩ := ha.symm.part hw
          obtain ⟨t, ht, hequal⟩ := hparts step z hz
          obtain ⟨x', y', t', hx', hy', ht', hbt⟩ := hb.part ht
          rw [hx] at hx'
          rw [hy] at hy'
          cases hx'
          cases hy'
          exact ⟨t', ht', ih x (mem_parts_of_part? hx) haz.symm hbt hapart
            ((nextRun_le_of_part? hx).trans hv) hequal⟩
    · -- all five values are one
      rw [Bool.not_eq_true] at hcomposite
      have hm := eq_of_frame_eq ha.frames_eq hcomposite
      subst hm
      rw [eq_of_frame_eq ha.symm.frame_eq hcomposite, eq_of_frame_eq hb.symm.frame_eq hcomposite]
      rw [eq_of_frame_eq ha.frame_eq hcomposite, eq_of_frame_eq hb.frame_eq hcomposite] at h
      exact h

/-- Of two outputs of one value that are structurally equal neither has more than the other. -/
theorem trim_of_equal (v : Value) : ∀ {m a a' b b' : Value}, Parallel made made' v m a a' →
    Parallel other other' v m b b' → Apart made other run → v.nextRun ≤ run →
    a.equal b = true → b.TrimOf a := by
  induction v using Value.induction with
  | node v ih =>
    intro m a a' b b' ha hb hapart hv h
    have hframe : b.frame = a.frame := hb.frame_eq.trans ha.frame_eq.symm
    by_cases hcomposite : v.isComposite = true
    · have hac : a.isComposite = true := (isComposite_eq_of_frame_eq ha.frame_eq).trans hcomposite
      rw [equal_iff hframe hac ha.nodup_ownKeys] at h
      rcases h with hid | ⟨hlen, hparts⟩
      · obtain ⟨⟨rfl, _⟩, rfl, _⟩ := eq_of_ident?_eq ha hb hapart hv hid
        exact .refl _
      · have hfound : ∀ step z, a.part? step = some z → ∃ t, b.part? step = some t := by
          intro step z hz
          obtain ⟨t, ht, _⟩ := hparts step z hz
          exact ⟨t, ht⟩
        refine .of_parts hframe fun step t ht => ?_
        obtain ⟨z, hz⟩ := found_of_length_eq hframe ha.nodup_ownKeys hlen hfound ht
        obtain ⟨t', ht', hequal⟩ := hparts step z hz
        rw [ht] at ht'
        cases ht'
        obtain ⟨x, y, _, hx, hy, _, haz⟩ := ha.part hz
        obtain ⟨x', y', _, hx', hy', _, hbt⟩ := hb.part ht
        rw [hx] at hx'
        rw [hy] at hy'
        cases hx'
        cases hy'
        exact ⟨z, hz, ih x (mem_parts_of_part? hx) haz hbt hapart
          ((nextRun_le_of_part? hx).trans hv) hequal⟩
    · rw [Bool.not_eq_true] at hcomposite
      have hac : a.isComposite = false := (isComposite_eq_of_frame_eq ha.frame_eq).trans hcomposite
      rw [eq_of_frame_eq hframe hac]
      exact .refl _

end Parallel

end Value

end ValueSchema
