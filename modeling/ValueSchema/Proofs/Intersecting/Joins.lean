/-
Merging many outputs.

Branches judge one value at places of their own, so their outputs share the containers of the heap
and nothing else, and one identity is one container in each two of them. What was merged so far
shares nothing more with the outputs that are still to come, as the merging has a place of its own,
too. So the loop over the outputs keeps coherence, and it ends with a merge exactly if each two
outputs are compatible. The merge is then their least upper bound, and that does not depend on their
order.
-/
import ValueSchema.Proofs.Intersecting.Compatible
import ValueSchema.Proofs.Origins.Values

set_option autoImplicit false

namespace ValueSchema

open Value (Apart Coherent)

/-! ## Outputs that were made apart -/

namespace Heap

variable {H : Heap} {made other : Ident → Prop} {run : Nat} {a b : Value}

/-- A container lies in the heap, or it was made. -/
def With (H : Heap) (made : Ident → Prop) (v : Value) : Prop := H.Holds v ∨ v.Built made

theorem With.mono (h : ∀ id, made id → other id) {v : Value} (hv : H.With made v) :
    H.With other v := by
  rcases hv with hv | ⟨id, hid, hmade⟩
  · exact .inl hv
  · exact .inr ⟨id, hid, h id hmade⟩

theorem allows_with {s : Site} (h : ∀ id, s.Makes id → made id) : H.Allows s (H.With made) where
  held _ hv := .inl hv
  built _ := fun ⟨id, hid, hmade⟩ => .inr ⟨id, hid, h id hmade⟩

/-- **Values that were made apart over one heap are coherent.** -/
theorem coherent (hH : H.OlderThan run) (hapart : Apart made other run)
    (ha : a.MadeOf (H.With made)) (hb : b.MadeOf (H.With other)) : Coherent a b where
  left := ha.wellKeyed
  right := hb.wellKeyed
  one k v l w hv hw hc hid := by
    have hcw : w.isComposite = true := by
      rw [Value.isComposite, ← hid]
      exact hc
    rcases (ha k v hv).2 hc with hheld | ⟨id, hvid, hmade⟩
    · rcases (hb l w hw).2 hcw with hheld' | ⟨id', hwid, hother⟩
      · exact hheld.eq hheld' hid
      · -- what lies in the heap is older than what was made
        obtain ⟨id, hvid, hbound⟩ := hheld
        have hold := hH id v hbound
        rw [hid, hwid] at hvid
        cases hvid
        have hnew := hapart.run_other id' hother
        omega
    · rcases (hb l w hw).2 hcw with ⟨id', hwid, hbound⟩ | ⟨id', hwid, hother⟩
      · have hold := hH id' w hbound
        rw [← hid, hvid] at hwid
        cases hwid
        have hnew := hapart.run_made id hmade
        omega
      · rw [← hid, hvid] at hwid
        cases hwid
        exact absurd hother (hapart.disjoint id hmade)

end Heap

namespace Intersection

variable {H : Heap} {s : Site} {last n : Nat}

/-- The outputs of the branches from a position on: each is made of the heap and of what was made at
its own place. -/
inductive Laid (H : Heap) (s : Site) : Nat → List Value → Prop
  | nil (n : Nat) : Laid H s n []
  | cons {n : Nat} {a : Value} {rest : List Value}
      (head : a.MadeOf (H.With (s.child n).Makes)) (tail : Laid H s (n + 1) rest) :
      Laid H s n (a :: rest)

/-- What was merged so far: it is made of the heap and of what was made so far. -/
abbrev Gathered (H : Heap) (s : Site) (last n : Nat) (g : Value) : Prop :=
  g.MadeOf (H.With (MadeUpTo s last n))

theorem Laid.mem {l : List Value} (h : Laid H s n l) {a : Value} (ha : a ∈ l) :
    ∃ m, n ≤ m ∧ m < n + l.length ∧ a.MadeOf (H.With (s.child m).Makes) := by
  induction h with
  | nil n => exact absurd ha List.not_mem_nil
  | @cons n b rest head tail ih =>
    rw [List.length_cons]
    rcases List.mem_cons.mp ha with rfl | ha
    · exact ⟨n, by omega, by omega, head⟩
    · obtain ⟨m, hle, hlt, hmade⟩ := ih ha
      exact ⟨m, by omega, by omega, hmade⟩

/-- What was merged so far is coherent with every output to come. -/
theorem Gathered.coherent {g a : Value} {l : List Value} (hH : H.OlderThan s.run)
    (hg : Gathered H s last n g) (hl : Laid H s n l) (hlast : n + l.length ≤ last) (ha : a ∈ l) :
    Coherent g a := by
  obtain ⟨m, hle, hlt, hmade⟩ := hl.mem ha
  exact Heap.coherent hH (MadeUpTo.apart s hle (by omega)) hg hmade

theorem Gathered.of_output {a : Value} (ha : a.MadeOf (H.With (s.child n).Makes)) :
    Gathered H s last (n + 1) a :=
  ha.mono fun _ => Heap.With.mono fun _ hid => ⟨n, by omega, hid⟩

/-- Merging in the next output goes on with what was made up to it. -/
theorem Gathered.merge {g a m : Value} {i : Nat} (hg : Gathered H s last n g)
    (ha : a.MadeOf (H.With (s.child n).Makes))
    (hm : Intersection.merge ((s.child last).child i) g a = some m) :
    Gathered H s last (n + 1) m := by
  have hallows : H.Allows ((s.child last).child i) (H.With (MadeUpTo s last (n + 1))) :=
    Heap.allows_with fun id hid => ⟨last, .inr rfl, hid.of_child⟩
  have hbefore : g.MadeOf (H.With (MadeUpTo s last (n + 1))) :=
    hg.mono fun _ => Heap.With.mono fun id ⟨i, hi, hid⟩ => ⟨i, by omega, hid⟩
  exact merge_madeOf a hallows hbefore (Gathered.of_output ha) hm

/-! ## Whether the outputs merge -/

/-- **Outputs are merged into what was merged so far** exactly if each two of them are
compatible. -/
theorem exists_mergeFrom_iff {rest : List Value} (hH : H.OlderThan s.run)
    (hrest : Laid H s n rest) : ∀ {i : Nat} {g : Value}, n + rest.length ≤ last →
    Gathered H s last n g → ((∃ x, mergeFrom (s.child last) i g rest = some x)
      ↔ (g :: rest).Pairwise Compatible) := by
  induction hrest with
  | nil n =>
    intro i g _ _
    exact iff_of_true ⟨g, rfl⟩ (List.pairwise_singleton _ g)
  | @cons n a rest head tail ih =>
    intro i g hlast hg
    have hlaid : Laid H s n (a :: rest) := .cons head tail
    have hga := hg.coherent hH hlaid hlast List.mem_cons_self
    have hlast' : n + 1 + rest.length ≤ last := by
      rw [List.length_cons] at hlast
      omega
    have hmerges := exists_merge_iff g ((s.child last).child i) hga.left hga.right
    rw [mergeFrom]
    cases hm : merge ((s.child last).child i) g a with
    | none =>
      have hnot : ¬ Compatible g a := by
        rw [← hmerges, hm]
        rintro ⟨_, h⟩
        cases h
      refine iff_of_false ?_ fun h => ?_
      · rintro ⟨_, h⟩
        cases h
      · exact hnot ((List.pairwise_cons.mp h).1 a List.mem_cons_self)
    | some m =>
      have hcompatible : Compatible g a := hmerges.mp ⟨m, hm⟩
      have hnext := hg.merge head hm
      have hhead : Gathered H s last (n + 1) a := Gathered.of_output head
      -- what the merge is compatible with, both that went into it are
      have hboth : (∀ o ∈ rest, Compatible m o)
          ↔ (∀ o ∈ rest, Compatible g o) ∧ ∀ o ∈ rest, Compatible a o := by
        rw [← forall₂_and]
        refine forall₂_congr fun o ho => ?_
        have hgo := hg.coherent hH hlaid hlast (List.mem_cons_of_mem a ho)
        have hao := hhead.coherent hH tail hlast' ho
        have hmo := hnext.coherent hH tail hlast' ho
        exact compatible_merge_iff g hga hgo hao hmo hm
      dsimp only
      rw [ih hlast' hnext, List.pairwise_cons, List.pairwise_cons, List.pairwise_cons, hboth,
        List.forall_mem_cons]
      constructor
      · rintro ⟨⟨hg, ha⟩, hpairs⟩
        exact ⟨⟨hcompatible, hg⟩, ha, hpairs⟩
      · rintro ⟨⟨_, hg⟩, ha, hpairs⟩
        exact ⟨⟨hg, ha⟩, hpairs⟩

/-- **The outputs of all branches merge** exactly if each two of them are compatible. -/
theorem exists_mergeAll_iff {outputs : List Value} (hH : H.OlderThan s.run)
    (h : Laid H s 0 outputs) (hlast : outputs.length ≤ last) :
    (∃ x, mergeAll (s.child last) outputs = some x) ↔ outputs.Pairwise Compatible := by
  cases h with
  | nil _ => exact iff_of_true ⟨.undefined, rfl⟩ .nil
  | cons head tail =>
    rw [List.length_cons] at hlast
    exact exists_mergeFrom_iff hH tail (by omega) (Gathered.of_output head)

/-! ## What the outputs are merged into -/

/-- A value is the least one that all outputs fit in. -/
structure Joins (outputs : List Value) (x : Value) : Prop where
  keyed : x.WellKeyed
  above : ∀ a ∈ outputs, a.FitsIn x
  least : ∀ w : Value, (∀ a ∈ outputs, a.FitsIn w) → x.FitsIn w

/-- **Least upper bounds are equivalent.** -/
theorem Joins.equivalent {outputs others : List Value} {x y : Value} (hx : Joins outputs x)
    (hy : Joins others y) (h : ∀ a ∈ outputs, a.FitsIn y) (h' : ∀ a ∈ others, a.FitsIn x) :
    x.Equivalent y :=
  (hx.least y h).equivalent (hy.least x h') hx.keyed hy.keyed

theorem mergeFrom_joins {rest : List Value} (hH : H.OlderThan s.run) (hrest : Laid H s n rest) :
    ∀ {i : Nat} {g x : Value}, n + rest.length ≤ last → Gathered H s last n g →
    mergeFrom (s.child last) i g rest = some x → Joins (g :: rest) x := by
  induction hrest with
  | nil n =>
    intro i g x _ hg hx
    cases hx
    exact ⟨hg.wellKeyed, fun a ha => List.mem_singleton.mp ha ▸ .refl g,
      fun w hw => hw g List.mem_cons_self⟩
  | @cons n a rest head tail ih =>
    intro i g x hlast hg hx
    have hga := hg.coherent hH (.cons head tail) hlast List.mem_cons_self
    rw [List.length_cons] at hlast
    simp only [mergeFrom] at hx
    cases hm : merge ((s.child last).child i) g a with
    | none =>
      rw [hm] at hx
      cases hx
    | some m =>
      rw [hm] at hx
      obtain ⟨hkeyed, habove, hleast⟩ := ih (by omega) (hg.merge head hm) hx
      obtain ⟨hgm, ham⟩ := fitsIn_merge g hga hm
      rw [List.forall_mem_cons] at habove
      refine ⟨hkeyed, ?_, fun w hw => hleast w ?_⟩
      · exact List.forall_mem_cons.mpr ⟨hgm.trans habove.1,
          List.forall_mem_cons.mpr ⟨ham.trans habove.1, habove.2⟩⟩
      · rw [List.forall_mem_cons, List.forall_mem_cons] at hw
        exact List.forall_mem_cons.mpr
          ⟨merge_fitsIn g hga.left hga.right hm hw.1 hw.2.1, hw.2.2⟩

/-- **The merge of all outputs is their least upper bound.** -/
theorem mergeAll_joins {outputs : List Value} {x : Value} (hH : H.OlderThan s.run)
    (h : Laid H s 0 outputs) (hlast : outputs.length ≤ last) (hnonempty : outputs ≠ [])
    (hx : mergeAll (s.child last) outputs = some x) : Joins outputs x := by
  cases h with
  | nil _ => exact absurd rfl hnonempty
  | cons head tail =>
    rw [List.length_cons] at hlast
    exact mergeFrom_joins hH tail (by omega) (Gathered.of_output head) hx

end Intersection

end ValueSchema
