/-
First atoms hold first characters.

Of a branch the walk notes the first atom, and assertions and switches are passed over. If no part
of the branch is repeated, the atom holds every character that a match of the branch can start with,
so two branches that can start with one character have atoms that overlap.
-/
import ValueSchema.Proofs.Patterns.Counts
import Mathlib.Data.List.Forall2

set_option autoImplicit false

namespace ValueSchema

open Risk (Atom)
open List (Forall₂)

/-! ## Overlapping atoms -/

theorem Risk.isWord_of_isDigit {c : Char} (h : c.isDigit = true) : Risk.isWord c = true := by
  have hrange : 48 ≤ c.toNat ∧ c.toNat ≤ 57 := by
    simpa [Char.isDigit, UInt32.le_iff_toNat_le] using h
  have halnum : Text.isAlphanumeric c = true := by
    unfold Text.isAlphanumeric
    rw [if_pos (by omega)]
    simp [Char.isAlphanum, h]
  unfold Risk.isWord
  rw [halnum, Bool.true_or]

/-- Atoms that hold one character overlap. -/
theorem Risk.Atom.overlaps_of_contains {a b : Atom} {c : Char} (ha : a.contains c = true)
    (hb : b.contains c = true) (hword : Risk.isWord c = true → Text.isBlank c = false) :
    a.overlaps b = true := by
  have hdigit : c.isDigit = true → Risk.isWord c = true ∧ Text.isBlank c = false := fun h =>
    ⟨Risk.isWord_of_isDigit h, isBlank_of_isDigit h⟩
  cases a <;> cases b <;> simp_all [overlaps, contains, apart]

theorem Risk.anyOverlap_of_sublist {l : List Atom} {a b : Atom} (h : [a, b].Sublist l)
    (hab : a.overlaps b = true) : Risk.anyOverlap l = true := by
  induction l with
  | nil => cases h
  | cons x l ih =>
    unfold Risk.anyOverlap
    cases h with
    | cons _ h => rw [ih h, Bool.or_true]
    | cons_cons _ h =>
      have hany : l.any (fun b => a.overlaps b) = true :=
        List.any_eq_true.mpr ⟨b, List.singleton_sublist.mp h, hab⟩
      rw [hany, Bool.true_or]

/-! ## Parts in front -/

namespace Pattern

/-- A part that consumes nothing, and leaves letters their case. -/
def Silent : Pattern → Prop
  | .assertion _ => True
  | .flags set => set.Plain
  | _ => False

/-- The first atom of parts, the last one of which is in front: none where all parts are silent. -/
def Heads (start : Option Atom) (parts : List Pattern) : Prop :=
  match start with
  | none => ∀ p ∈ parts, p.Silent
  | some a => ∃ behind p front, parts = behind ++ p :: front ∧ a.Covers p ∧ ∀ q ∈ front, q.Silent

theorem Heads.silent {start : Option Atom} {parts : List Pattern} (h : Heads start parts)
    {p : Pattern} (hp : p.Silent) : Heads start (p :: parts) := by
  cases start with
  | none => exact List.forall_mem_cons.mpr ⟨hp, h⟩
  | some a =>
    obtain ⟨behind, q, front, rfl, hq, hfront⟩ := h
    exact ⟨p :: behind, q, front, rfl, hq, hfront⟩

/-- The first part that consumes a character heads the parts. -/
theorem Heads.consuming {start : Option Atom} {parts : List Pattern} (h : Heads start parts)
    {a : Atom} {p : Pattern} (hp : a.Covers p) : Heads (start.or (some a)) (p :: parts) := by
  cases start with
  | none => exact ⟨[], p, parts, rfl, hp, h⟩
  | some b =>
    obtain ⟨behind, q, front, rfl, hq, hfront⟩ := h
    exact ⟨p :: behind, q, front, rfl, hq, hfront⟩

/-! ## Machines of parts -/

theorem machine?_ofParts (m : Mode) (l : List Pattern) :
    machine? m (ofParts l) = partMachines? m l := by
  cases l with
  | nil => rw [ofParts, machine?, partMachines?]
  | cons p l =>
    cases l with
    | nil => rw [ofParts, partMachines?]
    | cons q l => rw [ofParts, machine?]; all_goals exact nofun

theorem within_ofParts {q p : Pattern} {l : List Pattern} (hp : p ∈ l) (h : q.Within p) :
    q.Within (ofParts l) := by
  unfold ofParts
  split
  · cases hp
  · cases List.mem_singleton.mp hp
    exact h
  · exact .concat hp h

theorem Mode.caseInsensitive_setAll {set : PatternFlags} (h : (.caseInsensitive, true) ∉ set) :
    ∀ {m : Mode}, m.caseInsensitive = false → (m.setAll set).caseInsensitive = false := by
  induction set with
  | nil => exact fun hm => hm
  | cons e set ih =>
    intro m hm
    rw [List.mem_cons, not_or] at h
    obtain ⟨hne, hset⟩ := h
    refine ih hset ?_
    obtain ⟨f, on⟩ := e
    cases f with
    | caseInsensitive =>
      cases on with
      | true => exact absurd rfl hne
      | false => rfl
    | _ => exact hm

/-- What is found in a set lies in one of its ranges. -/
theorem mem_range_of_search {ranges : Array (Nat × Nat)} {n lo hi : Nat}
    (h : Text.CodeSet.search ranges n lo hi = true) : ∃ r ∈ ranges, r.1 ≤ n ∧ n ≤ r.2 := by
  fun_induction Text.CodeSet.search ranges n lo hi with
  | case1 lo hi hlt mid hmid => cases h
  | case2 lo hi hlt mid first last hmid hfirst ih => exact ih h
  | case3 lo hi hlt mid first last hmid hfirst hlast ih => exact ih h
  | case4 lo hi hlt mid first last hmid hfirst hlast =>
    exact ⟨(first, last), Array.mem_of_getElem? hmid, Nat.le_of_not_lt hfirst,
      Nat.le_of_not_lt hlast⟩
  | case5 lo hi hlt => cases h

theorem eq_of_single_contains {n : Nat} {c : Char}
    (h : (Text.CodeSet.single n).contains c = true) : c.toNat = n := by
  obtain ⟨r, hr, hlow, hhigh⟩ := mem_range_of_search h
  obtain rfl : r = (n, n) := by simpa [Text.CodeSet.single] using hr
  exact Nat.le_antisymm hhigh hlow

theorem contains_single (c : Char) : (Text.CodeSet.single c.toNat).contains c = true := by
  unfold Text.CodeSet.contains Text.CodeSet.has Text.CodeSet.search
  simp [Text.CodeSet.single]

/-! ## First characters -/

/-- What an atom other than the wide one stands for is a class whose characters it holds. -/
theorem machine?_of_covers {a : Atom} {p : Pattern} (h : a.Covers p) (hwide : a ≠ .wide)
    {m after : Mode} {machine : Machine} (hm : m.caseInsensitive = false)
    (hmachine : machine? m p = some (machine, after)) :
    ∃ s, machine = .class false s ∧ ∀ c, p.Held c → s.contains c = true → a.contains c = true := by
  cases p with
  | literal d asByte =>
    obtain rfl : a = .char d := h.resolve_right hwide
    rw [machine?] at hmachine
    obtain ⟨s, hs, heq⟩ := Option.map_eq_some_iff.mp hmachine
    cases heq
    refine ⟨s, rfl, fun c _ hc => ?_⟩
    have hsingle : s = Text.CodeSet.single d.toNat := by
      unfold Mode.literal? Mode.finish? at hs
      simp only [hm, Bool.false_eq_true, if_false] at hs
      split at hs
      · split at hs
        · exact (Option.some.inj hs).symm
        · cases hs
      · split at hs
        · cases hs
        · exact (Option.some.inj hs).symm
    rw [hsingle] at hc
    exact beq_iff_eq.mpr (Char.toNat_inj.mp (eq_of_single_contains hc)).symm
  | perl kind negated =>
    cases h
    rw [machine?] at hmachine
    obtain ⟨s, hs, heq⟩ := Option.map_eq_some_iff.mp hmachine
    cases heq
    exact ⟨s, rfl, fun c held hc => held .refl hs hc⟩
  | dot | named _ _ | bracketed _ _ | group _ _ => exact absurd h hwide
  | _ => cases h

theorem partMachines?_cons {m after : Mode} {p q : Pattern} {l : List Pattern} {machine : Machine}
    (h : partMachines? m (p :: q :: l) = some (machine, after)) :
    ∃ a between b, machine? m p = some (a, between)
      ∧ partMachines? between (q :: l) = some (b, after) ∧ machine = .seq a b := by
  rw [partMachines?] at h
  · split at h
    · rename_i a between ha
      split at h
      · rename_i b behind hb
        cases h
        exact ⟨a, between, b, ha, hb, rfl⟩
      · cases h
    · cases h
  · exact nofun

/-- Behind silent parts a match starts with a character of the first atom. -/
theorem contains_of_starts {a : Atom} {p : Pattern} (hp : a.Covers p) (hwide : a ≠ .wide) {c : Char}
    (held : p.Held c) (rest : List Pattern) {front : List Pattern}
    (hfront : ∀ q ∈ front, q.Silent) : ∀ {m after : Mode} {machine : Machine}
    {before : Option Char}, m.caseInsensitive = false →
      partMachines? m (front ++ p :: rest) = some (machine, after) →
      machine.starts before c = true → a.contains c = true := by
  induction front with
  | nil =>
    intro m after machine before hm hmachine hc
    cases rest with
    | nil =>
      rw [List.nil_append, partMachines?] at hmachine
      obtain ⟨s, rfl, hs⟩ := machine?_of_covers hp hwide hm hmachine
      exact hs c held hc
    | cons q rest =>
      obtain ⟨x, between, y, hx, _, rfl⟩ := partMachines?_cons hmachine
      obtain ⟨s, rfl, hs⟩ := machine?_of_covers hp hwide hm hx
      -- a class is never passed over
      simp only [Machine.starts, Machine.nullable, Bool.false_and, Bool.or_false] at hc
      exact hs c held hc
  | cons q front ih =>
    intro m after machine before hm hmachine hc
    rw [List.forall_mem_cons] at hfront
    obtain ⟨r, tail, htail⟩ : ∃ r tail, front ++ p :: rest = r :: tail :=
      List.exists_cons_of_ne_nil (by simp)
    rw [List.cons_append, htail] at hmachine
    obtain ⟨x, between, y, hx, hy, rfl⟩ := partMachines?_cons hmachine
    rw [← htail] at hy
    cases q with
    | assertion b =>
      rw [machine?] at hx
      cases hx
      simp only [Machine.starts, Bool.false_or, Bool.and_eq_true] at hc
      exact ih hfront.2 hm hy hc.2
    | flags set =>
      rw [machine?] at hx
      cases hx
      simp only [Machine.starts, Bool.false_or, Bool.and_eq_true] at hc
      exact ih hfront.2 (Mode.caseInsensitive_setAll hfront.1.1 hm) hy hc.2
    | _ => exact hfront.1.elim

/-- **The first atom of a branch holds every character that a match of it starts with.** -/
theorem Heads.contains {start : Option Atom} {parts : List Pattern} (h : Heads start parts)
    {c : Char} (hc : (ofParts parts.reverse).StartsWith c) (held : (ofParts parts.reverse).Held c) :
    (start.getD .empty).contains c = true := by
  cases start with
  | none => rfl
  | some a =>
    by_cases hwide : a = .wide
    · rw [hwide]
      rfl
    · obtain ⟨behind, p, front, rfl, hp, hfront⟩ := h
      obtain ⟨m, after, machine, before, hm, hmachine, hstarts⟩ := hc
      have hreverse : (behind ++ p :: front).reverse = front.reverse ++ p :: behind.reverse := by
        simp
      rw [machine?_ofParts, hreverse] at hmachine
      refine contains_of_starts hp hwide ?_ behind.reverse
        (fun q hq => hfront q (List.mem_reverse.mp hq)) hm hmachine hstarts
      intro kind negated hperl
      exact held (within_ofParts (List.mem_reverse.mpr (by simp)) hperl)

/-! ## Branches -/

/-- The first atom of a branch. -/
def Begins (start : Option Atom) (branch : Pattern) : Prop :=
  ∃ parts : List Pattern, branch = ofParts parts.reverse ∧ Heads start parts

/-- The members of a sublist have partners in the same order. -/
theorem exists_sublist_of_forall₂ {α β : Type} {R : α → β → Prop} {k' l' : List β}
    (hsub : k'.Sublist l') : ∀ {l : List α}, Forall₂ R l l' →
      ∃ k : List α, k.Sublist l ∧ Forall₂ R k k' := by
  induction hsub with
  | slnil => exact fun _ => ⟨[], List.nil_sublist _, .nil⟩
  | cons _ _ ih =>
    rintro _ (_ | ⟨_, h⟩)
    obtain ⟨k, hk, hrel⟩ := ih h
    exact ⟨k, hk.cons _, hrel⟩
  | cons_cons _ _ ih =>
    rintro _ (_ | ⟨hx, h⟩)
    obtain ⟨k, hk, hrel⟩ := ih h
    exact ⟨_, hk.cons_cons _, .cons hx hrel⟩

/-- **Branches that overlap have first atoms that overlap.** -/
theorem anyOverlap_of_begins {starts : List (Option Atom)} {branches : List Pattern}
    (h : Forall₂ Begins starts branches) (hover : Overlapping branches) :
    Risk.anyOverlap (starts.map fun s => s.getD .empty) = true := by
  obtain ⟨b, b', c, hsub, hb, hb', hword⟩ := hover
  have hcontains : ∀ {start branch}, Begins start branch → branch.Shows c →
      (start.getD .empty).contains c = true := by
    rintro start _ ⟨parts, rfl, hheads⟩ hshows
    exact hheads.contains hshows.starts hshows.held
  -- the atoms of the two branches stand in the same order
  obtain ⟨k, hatoms, hk⟩ := exists_sublist_of_forall₂ hsub h
  obtain _ | ⟨ha, _ | ⟨ha', _ | _⟩⟩ := hk
  have hmap := hatoms.map fun s : Option Atom => s.getD .empty
  exact Risk.anyOverlap_of_sublist hmap
    (Atom.overlaps_of_contains (hcontains ha hb) (hcontains ha' hb') hword)

end Pattern

end ValueSchema
