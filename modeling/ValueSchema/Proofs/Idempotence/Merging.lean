/-
Merging outputs made in parallel.

Two outputs of one value are merged into a third one that has the parts of both: a part that only
one of them has is taken over, and a part that both have is merged in turn. So the merge lies above
both outputs and below the value. When the same two judgements run on a trim of the value, their
outputs agree and differ where the first ones do, hence they merge as well, and the merges are
parallel.
-/
import ValueSchema.Proofs.Idempotence.Parallel

set_option autoImplicit false

namespace ValueSchema

namespace Intersection

open Value (Parallel Apart TrimOf)

/-! ## Merges part by part -/

/-- What a step leads to in a merge, given what it leads to in the two values merged. -/
inductive PartMerged (s : Site) : Option Value → Option Value → Option Value → Prop
  | neither : PartMerged s none none none
  | left (p : Value) : PartMerged s (some p) none (some p)
  | right (q : Value) : PartMerged s none (some q) (some q)
  | both {n : Nat} {p q z : Value} (h : merge (s.child n) p q = some z) :
      PartMerged s (some p) (some q) (some z)

variable {s : Site}

namespace PartMerged

variable {p q : Value} {o : Option Value}

theorem eq_none (h : PartMerged s none none o) : o = none := by
  cases h
  rfl

theorem eq_left (h : PartMerged s (some p) none o) : o = some p := by
  cases h
  rfl

theorem eq_right (h : PartMerged s none (some q) o) : o = some q := by
  cases h
  rfl

theorem eq_both (h : PartMerged s (some p) (some q) o) :
    ∃ n z, merge (s.child n) p q = some z ∧ o = some z := by
  cases h with
  | both hz => exact ⟨_, _, hz, rfl⟩

end PartMerged

/-- Merging goes from one field on the right to the next, each written as it was merged. -/
theorem mergeFields_cons {left merged rest out : List (String × Value)} {n : Nat} {key : String}
    {q : Value} (h : mergeFields s left n merged ((key, q) :: rest) = some out) :
    ∃ z, PartMerged s (Keyed.find? key left) (some q) (some z)
      ∧ mergeFields s left (n + 1) (Keyed.insert key z merged) rest = some out := by
  simp only [mergeFields] at h
  cases hleft : Keyed.find? key left with
  | none =>
    rw [hleft] at h
    exact ⟨q, .right q, h⟩
  | some p =>
    rw [hleft] at h
    dsimp only at h
    cases hz : merge (s.child n) p q with
    | none =>
      rw [hz] at h
      cases h
    | some z =>
      rw [hz] at h
      exact ⟨z, .both hz, h⟩

/-- Keys on the right lead to merged fields, all other keys to what was there before. -/
theorem mergeFields_find? {left right : List (String × Value)} :
    ∀ {n : Nat} {merged out : List (String × Value)}, (Keyed.keys right).Nodup →
    mergeFields s left n merged right = some out → ∀ key,
      (Keyed.find? key right = none → Keyed.find? key out = Keyed.find? key merged)
        ∧ ∀ q, Keyed.find? key right = some q →
          PartMerged s (Keyed.find? key left) (some q) (Keyed.find? key out) := by
  induction right with
  | nil =>
    intro n merged out _ h key
    cases h
    refine ⟨fun _ => rfl, fun q hq => ?_⟩
    rw [Keyed.find?_nil] at hq
    cases hq
  | cons f rest ih =>
    obtain ⟨k, v⟩ := f
    intro n merged out hnodup h key
    simp only [Keyed.keys, List.map_cons, List.nodup_cons] at hnodup
    obtain ⟨z, hz, hrest⟩ := mergeFields_cons h
    obtain ⟨hkept, hmerged⟩ := ih hnodup.2 hrest key
    rw [Keyed.find?_insert] at hkept
    by_cases hkey : key = k
    · -- no later field has this key, so what is written now stays
      subst hkey
      rw [Keyed.find?_cons_self]
      rw [if_pos rfl] at hkept
      refine ⟨fun h => (by cases h), fun q hq => ?_⟩
      cases hq
      rw [hkept (Keyed.find?_eq_none_iff.mpr hnodup.1)]
      exact hz
    · rw [Keyed.find?_cons_of_ne hkey]
      rw [if_neg hkey] at hkept
      exact ⟨hkept, hmerged⟩

theorem nodup_mergeFields {left right : List (String × Value)} :
    ∀ {n : Nat} {merged out : List (String × Value)}, (Keyed.keys merged).Nodup →
    mergeFields s left n merged right = some out → (Keyed.keys out).Nodup := by
  induction right with
  | nil =>
    intro n merged out hnodup h
    cases h
    exact hnodup
  | cons f rest ih =>
    intro n merged out hnodup h
    obtain ⟨z, _, hrest⟩ := mergeFields_cons h
    exact ih (Keyed.nodup_keys_insert f.1 z merged hnodup) hrest

/-- Fields merge if those do that both sides have. -/
theorem mergeFields_total {left right : List (String × Value)}
    (h : ∀ f ∈ right, ∀ p, Keyed.find? f.1 left = some p → ∀ n, ∃ z,
      merge (s.child n) p f.2 = some z) :
    ∀ (n : Nat) (merged : List (String × Value)), ∃ out,
      mergeFields s left n merged right = some out := by
  induction right with
  | nil => exact fun n merged => ⟨merged, rfl⟩
  | cons f rest ih =>
    obtain ⟨key, q⟩ := f
    intro n merged
    simp only [List.forall_mem_cons] at h
    simp only [mergeFields]
    cases hleft : Keyed.find? key left with
    | none => exact ih h.2 (n + 1) _
    | some p =>
      obtain ⟨z, hz⟩ := h.1 p hleft n
      dsimp only
      rw [hz]
      exact ih h.2 (n + 1) _

theorem mergeItems_getElem? {right : List Value} : ∀ {n : Nat} {left out : List Value},
    left.length = right.length → mergeItems s n left right = some out →
    out.length = right.length
      ∧ ∀ i : Nat, PartMerged s left[i]? right[i]? out[i]? := by
  induction right with
  | nil =>
    intro n left out hlen h
    cases h
    rw [List.length_nil, List.length_eq_zero_iff] at hlen
    subst hlen
    exact ⟨rfl, fun i => .neither⟩
  | cons q rest ih =>
    intro n left out hlen h
    cases left with
    | nil => cases hlen
    | cons p others =>
      simp only [mergeItems] at h
      cases hz : merge (s.child n) p q with
      | none =>
        rw [hz] at h
        cases h
      | some z =>
        cases hm : mergeItems s (n + 1) others rest with
        | none =>
          rw [hz, hm] at h
          cases h
        | some merged =>
          rw [hz, hm] at h
          cases h
          obtain ⟨hlength, hitems⟩ := ih (Nat.succ.inj hlen) hm
          refine ⟨congrArg Nat.succ hlength, fun i => ?_⟩
          cases i with
          | zero => exact .both hz
          | succ i => exact hitems i

theorem mergeItems_total {right : List Value} : ∀ (n : Nat) {left : List Value},
    left.length = right.length →
    (∀ (i : Nat) (p q : Value), left[i]? = some p → right[i]? = some q → ∀ n, ∃ z,
      merge (s.child n) p q = some z) → ∃ out, mergeItems s n left right = some out := by
  induction right with
  | nil => exact fun n left _ _ => ⟨[], rfl⟩
  | cons q rest ih =>
    intro n left hlen h
    cases left with
    | nil => cases hlen
    | cons p others =>
      obtain ⟨z, hz⟩ := h 0 p q rfl rfl n
      obtain ⟨out, hout⟩ := ih (n + 1) (Nat.succ.inj hlen) fun i => h (i + 1)
      simp only [mergeItems, hz, hout]
      exact ⟨_, rfl⟩

/-! ## Merges of values -/

/-- Objects and arrays are merged part by part, anything else only if it agrees. -/
def MergesParts : Value → Prop
  | .object _ _ => True
  | .array _ _ => True
  | _ => False

theorem mergesParts_of_frame_eq {a b : Value} (h : b.frame = a.frame) (ha : MergesParts a) :
    MergesParts b := by
  cases a <;> cases b <;> trivial

/-- What merging two outputs of one frame comes to: the left one if they agree, and otherwise a
container that is built out of their parts. -/
theorem merge_cases {a b out : Value} (hframe : b.frame = a.frame) (ha : a.ownKeys.Nodup)
    (hb : b.ownKeys.Nodup) (h : merge s a b = some out) :
    (agree a b = true ∧ out = a) ∨ (agree a b = false ∧ MergesParts a ∧ out.frame = a.frame
      ∧ out.ident? = some s.ident ∧ out.ownKeys.Nodup
      ∧ ∀ step, PartMerged s (a.part? step) (b.part? step) (out.part? step)) := by
  by_cases hagree : agree a b = true
  · refine .inl ⟨hagree, ?_⟩
    cases b <;> simp only [merge, if_pos hagree, Option.some.injEq] at h <;> exact h.symm
  · rw [Bool.not_eq_true] at hagree
    refine .inr ⟨hagree, ?_⟩
    cases a with
    | object id left =>
      obtain ⟨id', right, rfl⟩ := Value.frame_object hframe
      simp only [merge, hagree, Bool.false_eq_true, if_false] at h
      obtain ⟨fields, hfields, rfl⟩ := Option.map_eq_some_iff.mp h
      refine ⟨trivial, rfl, rfl, nodup_mergeFields ha hfields, fun step => ?_⟩
      cases step with
      | field key =>
        obtain ⟨hkept, hmerged⟩ := mergeFields_find? hb hfields key
        simp only [Value.part?]
        cases hq : Keyed.find? key right with
        | some q => exact hmerged q hq
        | none =>
          rw [hkept hq]
          cases Keyed.find? key left with
          | none => exact .neither
          | some p => exact .left p
      | _ => exact .neither
    | array id left =>
      obtain ⟨id', right, rfl, hlen⟩ := Value.frame_array hframe
      simp only [merge, hagree, Bool.false_eq_true, if_false, if_pos hlen.symm] at h
      obtain ⟨items, hitems, rfl⟩ := Option.map_eq_some_iff.mp h
      obtain ⟨hlength, hparts⟩ := mergeItems_getElem? hlen.symm hitems
      refine ⟨trivial, congrArg Frame.array (hlength.trans hlen), rfl, List.nodup_nil,
        fun step => ?_⟩
      cases step with
      | element n => exact hparts n
      | _ => exact .neither
    | map id left =>
      obtain ⟨id', right, rfl, _⟩ := Value.frame_map hframe
      simp only [merge, hagree, Bool.false_eq_true, if_false] at h
      cases h
    | set id left =>
      obtain ⟨id', right, rfl, _⟩ := Value.frame_set hframe
      simp only [merge, hagree, Bool.false_eq_true, if_false] at h
      cases h
    | _ =>
      obtain rfl := Value.eq_of_frame_eq hframe rfl
      simp only [merge, hagree, Bool.false_eq_true, if_false] at h
      cases h

/-- Outputs of one frame that is merged part by part merge if the parts do that both have. -/
theorem merge_total {a b : Value} (hframe : b.frame = a.frame) (hb : b.ownKeys.Nodup)
    (hmerges : MergesParts a)
    (h : ∀ step p q, a.part? step = some p → b.part? step = some q → ∀ n, ∃ z,
      merge (s.child n) p q = some z) : ∃ out, merge s a b = some out := by
  cases a with
  | object id left =>
    obtain ⟨id', right, rfl⟩ := Value.frame_object hframe
    obtain ⟨fields, hfields⟩ := mergeFields_total (fun f hf p hp =>
      h (.field f.1) p f.2 hp (Keyed.find?_of_mem hb hf)) 0 left
    simp only [merge, hfields, Option.map_some]
    split <;> exact ⟨_, rfl⟩
  | array id left =>
    obtain ⟨id', right, rfl, hlen⟩ := Value.frame_array hframe
    obtain ⟨items, hitems⟩ := mergeItems_total 0 hlen.symm fun i p q hp hq =>
      h (.element i) p q hp hq
    simp only [merge, hitems, hlen, if_true, Option.map_some]
    split <;> exact ⟨_, rfl⟩
  | _ => exact hmerges.elim

theorem merge_of_agree {a b : Value} (h : agree a b = true) : merge s a b = some a := by
  cases b <;> simp only [merge, if_pos h]

/-! ## Agreement -/

theorem ident?_eq_of_sameValueZero {a b : Value} (hb : b.isComposite = true)
    (h : a.sameValueZero b = true) : a.ident? = b.ident? := by
  obtain ⟨id, hid⟩ := Option.isSome_iff_exists.mp hb
  by_contra hne
  rw [hid] at hne
  rw [Value.sameValueZero_eq_false hid hne] at h
  cases h

section

variable {made made' other other' all all' : Ident → Prop} {run run' : Nat}
  {v m a a' b b' : Value}

/-- Outputs made in parallel agree where the first ones do. -/
theorem agree_parallel (ha : Parallel made made' v m a a') (hb : Parallel other other' v m b b')
    (hapart : Apart made other run) (hv : v.nextRun ≤ run) (h : agree a b = true) :
    agree a' b' = true := by
  unfold agree at h ⊢
  rw [Bool.or_eq_true] at h ⊢
  rcases h with hequal | hsame
  · exact .inl (Parallel.equal v ha hb hapart hv hequal)
  · right
    by_cases hcomposite : v.isComposite = true
    · have hbc : b.isComposite = true :=
        (Value.isComposite_eq_of_frame_eq hb.frame_eq).trans hcomposite
      have hid := ident?_eq_of_sameValueZero hbc hsame
      obtain ⟨⟨_, rfl⟩, _, rfl⟩ := Parallel.eq_of_ident?_eq ha hb hapart hv hid
      exact Value.sameValueZero_self
        ((Value.isComposite_eq_of_frame_eq ha.frames_eq).trans hcomposite)
    · rw [Bool.not_eq_true] at hcomposite
      obtain rfl := Value.eq_of_frame_eq ha.frames_eq hcomposite
      rw [Value.eq_of_frame_eq ha.symm.frame_eq hcomposite,
        Value.eq_of_frame_eq hb.symm.frame_eq hcomposite]
      rw [Value.eq_of_frame_eq ha.frame_eq hcomposite,
        Value.eq_of_frame_eq hb.frame_eq hcomposite] at hsame
      exact hsame

/-- Of two outputs of one value that agree neither has more than the other. -/
theorem trim_of_agree (ha : Parallel made made' v m a a') (hb : Parallel other other' v m b b')
    (hapart : Apart made other run) (hv : v.nextRun ≤ run) (h : agree a b = true) :
    b.TrimOf a := by
  have hframe : b.frame = a.frame := hb.frame_eq.trans ha.frame_eq.symm
  unfold agree at h
  rcases (Bool.or_eq_true _ _).mp h with hequal | hsame
  · exact Parallel.trim_of_equal v ha hb hapart hv hequal
  · by_cases hcomposite : b.isComposite = true
    · have hid := ident?_eq_of_sameValueZero hcomposite hsame
      obtain ⟨⟨rfl, _⟩, rfl, _⟩ := Parallel.eq_of_ident?_eq ha hb hapart hv hid
      exact .refl _
    · rw [Bool.not_eq_true] at hcomposite
      rw [Value.eq_of_frame_eq hframe.symm hcomposite]
      exact .refl _

/-! ## Merges of outputs made in parallel -/

/-- Two judgements of each of two runs whose outputs are merged: in no run do both make the same
thing, and what they make is among all that is made in the run. -/
structure Merging (made made' other other' all all' : Ident → Prop) (run run' : Nat) : Prop where
  apart : Apart made other run
  apart' : Apart made' other' run'
  made : ∀ id, made id → all id
  made' : ∀ id, made' id → all' id
  other : ∀ id, other id → all id
  other' : ∀ id, other' id → all' id

/-- A step leads nowhere in two merges and in all that was merged, or to parallel parts that lie
above the parts merged, as long as this holds where both sides have a part. -/
theorem parts_parallel (h : Merging made made' other other' all all' run run') {x x' : Value}
    {s s' : Site} (ha : Parallel made made' v m a a') (hb : Parallel other other' v m b b')
    (hx : ∀ step, PartMerged s (a.part? step) (b.part? step) (x.part? step))
    (hx' : ∀ step, PartMerged s' (a'.part? step) (b'.part? step) (x'.part? step))
    (hboth : ∀ {step : Step} {t y p p' q q' z w : Value} {n n' : Nat}, v.part? step = some t →
      m.part? step = some y → Parallel made made' t y p p' → Parallel other other' t y q q' →
      merge (s.child n) p q = some z → merge (s'.child n') p' q' = some w →
      Parallel all all' t y z w ∧ p.TrimOf z ∧ q.TrimOf z) (step : Step) :
    (x.part? step = none ∧ x'.part? step = none ∧ a.part? step = none ∧ b.part? step = none)
      ∨ ∃ t y z w, v.part? step = some t ∧ m.part? step = some y ∧ x.part? step = some z
        ∧ x'.part? step = some w ∧ Parallel all all' t y z w
        ∧ (∀ p, a.part? step = some p → p.TrimOf z) ∧ ∀ q, b.part? step = some q → q.TrimOf z := by
  have hpart := hx step
  have hpart' := hx' step
  cases hp : a.part? step with
  | none =>
    rw [hp] at hpart
    rw [ha.part?_eq_none hp] at hpart'
    cases hq : b.part? step with
    | none =>
      rw [hq] at hpart
      rw [hb.part?_eq_none hq] at hpart'
      exact .inl ⟨hpart.eq_none, hpart'.eq_none, rfl, rfl⟩
    | some q =>
      obtain ⟨t, y, q', ht, hy, hq', hpar⟩ := hb.part hq
      rw [hq] at hpart
      rw [hq'] at hpart'
      refine .inr ⟨t, y, q, q', ht, hy, hpart.eq_right, hpart'.eq_right,
        hpar.mono h.other h.other', nofun, fun r hr => ?_⟩
      cases hr
      exact .refl q
  | some p =>
    obtain ⟨t, y, p', ht, hy, hp', hpar⟩ := ha.part hp
    rw [hp] at hpart
    rw [hp'] at hpart'
    cases hq : b.part? step with
    | none =>
      rw [hq] at hpart
      rw [hb.part?_eq_none hq] at hpart'
      refine .inr ⟨t, y, p, p', ht, hy, hpart.eq_left, hpart'.eq_left, hpar.mono h.made h.made',
        fun r hr => ?_, nofun⟩
      cases hr
      exact .refl p
    | some q =>
      obtain ⟨t', y', q', ht', hy', hq', hpar'⟩ := hb.part hq
      rw [ht] at ht'
      rw [hy] at hy'
      cases ht'
      cases hy'
      rw [hq] at hpart
      rw [hq'] at hpart'
      obtain ⟨n, z, hz, hxz⟩ := hpart.eq_both
      obtain ⟨n', w, hw, hxw⟩ := hpart'.eq_both
      obtain ⟨hzw, hpz, hqz⟩ := hboth ht hy hpar hpar' hz hw
      refine .inr ⟨t, y, z, w, ht, hy, hxz, hxw, hzw, fun r hr => ?_, fun r hr => ?_⟩
      · cases hr
        exact hpz
      · cases hr
        exact hqz

/-- **Merges are parallel** to merges of parallel outputs, and lie above what was merged. -/
theorem merge_parallel (h : Merging made made' other other' all all' run run') (v : Value) :
    ∀ {m a a' b b' x : Value} {s s' : Site}, Parallel made made' v m a a' →
    Parallel other other' v m b b' → v.nextRun ≤ run → m.nextRun ≤ run' →
    (∀ id, s.Makes id → all id) → (∀ id, s'.Makes id → all' id) → merge s a b = some x →
    ∃ x', merge s' a' b' = some x' ∧ Parallel all all' v m x x' ∧ a.TrimOf x ∧ b.TrimOf x := by
  induction v using Value.induction with
  | node v ih =>
    intro m a a' b b' x s s' ha hb hv hm hs hs' hmerge
    have hframe : b.frame = a.frame := hb.frame_eq.trans ha.frame_eq.symm
    have hframe' : b'.frame = a'.frame := hb.symm.frame_eq.trans ha.symm.frame_eq.symm
    rcases merge_cases hframe ha.nodup_ownKeys hb.nodup_ownKeys hmerge with ⟨hagree, rfl⟩
      | ⟨hdiffer, hmerges, hxframe, hxid, hxkeyed, hxparts⟩
    · exact ⟨a', merge_of_agree (agree_parallel ha hb h.apart hv hagree), ha.mono h.made h.made',
        .refl _, trim_of_agree ha hb h.apart hv hagree⟩
    -- parts that both have merge in the second run, too, whatever sites they are merged at
    have hboth : ∀ {step : Step} {t y p p' q q' z : Value} {n : Nat}, v.part? step = some t →
        m.part? step = some y → Parallel made made' t y p p' → Parallel other other' t y q q' →
        merge (s.child n) p q = some z → ∀ n', ∃ w, merge (s'.child n') p' q' = some w
          ∧ Parallel all all' t y z w ∧ p.TrimOf z ∧ q.TrimOf z := by
      intro step t y p p' q q' z n ht hy hp hq hz n'
      exact ih t (Value.mem_parts_of_part? ht) hp hq ((Value.nextRun_le_of_part? ht).trans hv)
        ((Value.nextRun_le_of_part? hy).trans hm) (fun id hid => hs id hid.of_child)
        (fun id hid => hs' id hid.of_child) hz
    have hmerges' : MergesParts a' :=
      mergesParts_of_frame_eq (ha.symm.frame_eq.trans (ha.frames_eq.trans ha.frame_eq.symm)) hmerges
    obtain ⟨x', hx'⟩ := merge_total (s := s') hframe' hb.symm.nodup_ownKeys hmerges'
      fun step p' q' hp' hq' n' => by
        obtain ⟨y, t, p, hy, ht, hp, hpar⟩ := ha.symm.part hp'
        obtain ⟨y', t', q, hy', ht', hq, hpar'⟩ := hb.symm.part hq'
        rw [ht] at ht'
        rw [hy] at hy'
        cases ht'
        cases hy'
        have hpart := hxparts step
        rw [hp, hq] at hpart
        obtain ⟨n, z, hz, _⟩ := hpart.eq_both
        obtain ⟨w, hw, _⟩ := hboth ht hy hpar.symm hpar'.symm hz n'
        exact ⟨w, hw⟩
    rcases merge_cases hframe' ha.symm.nodup_ownKeys hb.symm.nodup_ownKeys hx' with ⟨hagree', _⟩
      | ⟨_, _, hxframe', hxid', hxkeyed', hxparts'⟩
    · -- agreement of the second outputs would be agreement of the first ones
      rw [agree_parallel ha.symm hb.symm h.apart' hm hagree'] at hdiffer
      cases hdiffer
    have hsteps := parts_parallel h ha hb hxparts hxparts' fun ht hy hp hq hz hw => by
      obtain ⟨w', hw', hzw⟩ := hboth ht hy hp hq hz _
      rw [hw] at hw'
      cases hw'
      exact hzw
    refine ⟨x', hx', ?_, ?_, ?_⟩
    · refine .of_built ha.frames_eq (hxframe.trans ha.frame_eq)
        (hxframe'.trans (ha.symm.frame_eq.trans ha.frames_eq)) ⟨_, hxid, hs _ s.makes_ident⟩
        ⟨_, hxid', hs' _ s'.makes_ident⟩ hxkeyed hxkeyed' fun step => ?_
      rcases hsteps step with ⟨hx, hx', _⟩ | ⟨t, y, z, w, ht, hy, hz, hw, hpar, _⟩
      · exact .inl ⟨hx, hx'⟩
      · exact .inr ⟨t, y, z, w, ht, hy, hz, hw, hpar⟩
    · refine .of_parts hxframe.symm fun step p hp => ?_
      rcases hsteps step with ⟨_, _, hnone, _⟩ | ⟨_, _, z, _, _, _, hz, _, _, htrim, _⟩
      · rw [hnone] at hp
        cases hp
      · exact ⟨z, hz, htrim p hp⟩
    · refine .of_parts (hframe.trans hxframe.symm) fun step q hq => ?_
      rcases hsteps step with ⟨_, _, _, hnone⟩ | ⟨_, _, z, _, _, _, hz, _, _, _, htrim⟩
      · rw [hnone] at hq
        cases hq
      · exact ⟨z, hz, htrim q hq⟩

end

/-! ## Merges of all branches -/

/-- The outputs of the branches from a position on, of a value and of another one. -/
inductive Branches (s s' : Site) (v m : Value) : Nat → List Value → List Value → Prop
  | nil (n : Nat) : Branches s s' v m n [] []
  | cons {n : Nat} {a a' : Value} {rest rest' : List Value}
      (head : Parallel (s.child n).Makes (s'.child n).Makes v m a a')
      (tail : Branches s s' v m (n + 1) rest rest') :
      Branches s s' v m n (a :: rest) (a' :: rest')

/-- What was made once so many branches are merged: by these branches, or by the merging, which has
a place of its own. -/
def MadeUpTo (s : Site) (last n : Nat) (id : Ident) : Prop :=
  ∃ i, (i < n ∨ i = last) ∧ (s.child i).Makes id

theorem MadeUpTo.makes {s : Site} {last n : Nat} {id : Ident} (h : MadeUpTo s last n id) :
    s.Makes id := by
  obtain ⟨_, _, hid⟩ := h
  exact hid.of_child

/-- What was made so far is apart from what later branches make. -/
theorem MadeUpTo.apart (s : Site) {last n later : Nat} (hn : n ≤ later) (hlast : later < last) :
    Apart (MadeUpTo s last n) (s.child later).Makes s.run := by
  refine ⟨fun id hmade hid => ?_, fun id hmade => hmade.makes.identRun, fun id hid => hid.identRun⟩
  obtain ⟨i, hi, hmade⟩ := hmade
  have heq := hmade.child_inj hid
  omega

theorem mergeFrom_parallel {s s' : Site} {v m : Value} {last : Nat} (hv : v.nextRun ≤ s.run)
    (hm : m.nextRun ≤ s'.run) {n : Nat} {rest rest' : List Value}
    (h : Branches s s' v m n rest rest') : ∀ {i : Nat} {g g' x : Value}, n + rest.length ≤ last →
    Parallel (MadeUpTo s last n) (MadeUpTo s' last n) v m g g' →
    mergeFrom (s.child last) i g rest = some x →
    ∃ x', mergeFrom (s'.child last) i g' rest' = some x'
      ∧ Parallel s.Makes s'.Makes v m x x' ∧ g.TrimOf x ∧ ∀ a ∈ rest, a.TrimOf x := by
  induction h with
  | nil n =>
    intro i g g' x _ hg hx
    cases hx
    exact ⟨g', rfl, hg.mono (fun _ h => h.makes) (fun _ h => h.makes), .refl _, nofun⟩
  | @cons n a a' rest rest' head tail ih =>
    intro i g g' x hlast hg hx
    rw [List.length_cons] at hlast
    have hn : n < last := by omega
    have hmerging : Merging (MadeUpTo s last n) (MadeUpTo s' last n) (s.child n).Makes
        (s'.child n).Makes (MadeUpTo s last (n + 1)) (MadeUpTo s' last (n + 1)) s.run s'.run :=
      { apart := MadeUpTo.apart s (Nat.le_refl n) hn
        apart' := MadeUpTo.apart s' (Nat.le_refl n) hn
        made := fun id ⟨i, hi, hid⟩ => ⟨i, by omega, hid⟩
        made' := fun id ⟨i, hi, hid⟩ => ⟨i, by omega, hid⟩
        other := fun id hid => ⟨n, by omega, hid⟩
        other' := fun id hid => ⟨n, by omega, hid⟩ }
    simp only [mergeFrom] at hx ⊢
    cases hboth : merge ((s.child last).child i) g a with
    | none =>
      rw [hboth] at hx
      cases hx
    | some both =>
      rw [hboth] at hx
      obtain ⟨both', hboth', hpar, hgb, hab⟩ := merge_parallel hmerging v hg head hv hm
        (fun id hid => ⟨last, .inr rfl, hid.of_child⟩)
        (fun id hid => ⟨last, .inr rfl, hid.of_child⟩) hboth
      obtain ⟨x', hx', hxx, hbx, hrest⟩ := ih (i := i + 1) (by omega) hpar hx
      refine ⟨x', ?_, hxx, hgb.trans hbx, ?_⟩
      · rw [hboth']
        exact hx'
      · exact List.forall_mem_cons.mpr ⟨hab.trans hbx, hrest⟩

/-- **The merge of all branches** is parallel to the merge of parallel outputs, and lies above every
one of them. -/
theorem mergeAll_parallel {s s' : Site} {v m x : Value} {last : Nat} {outputs outputs' : List Value}
    (hv : v.nextRun ≤ s.run) (hm : m.nextRun ≤ s'.run) (h : Branches s s' v m 0 outputs outputs')
    (hnonempty : outputs ≠ []) (hlast : outputs.length ≤ last)
    (hx : mergeAll (s.child last) outputs = some x) : ∃ x',
      mergeAll (s'.child last) outputs' = some x' ∧ Parallel s.Makes s'.Makes v m x x'
        ∧ ∀ a ∈ outputs, a.TrimOf x := by
  cases h with
  | nil n => exact absurd rfl hnonempty
  | cons head tail =>
    rw [List.length_cons] at hlast
    have hfirst : Parallel (MadeUpTo s last 1) (MadeUpTo s' last 1) v m _ _ :=
      head.mono (fun id hid => ⟨0, by omega, hid⟩) fun id hid => ⟨0, by omega, hid⟩
    obtain ⟨x', hx', hpar, htrim, hrest⟩ := mergeFrom_parallel hv hm tail (by omega) hfirst hx
    exact ⟨x', hx', hpar, List.forall_mem_cons.mpr ⟨htrim, hrest⟩⟩

end Intersection

end ValueSchema
