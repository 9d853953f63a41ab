/-
The order of branches.

When the branches of an intersection change places, so does what each of them builds, and nothing
else: one renaming carries the whole judgement over. Hence the issues are the same ones in another
order, and the outputs are the same ones in another order up to the names of containers. Whether
these merge is a question about each two of them, and what they merge into is their least upper
bound, so neither depends on the order.
-/
import ValueSchema.Proofs.Intersecting.Branches
import Mathlib

set_option autoImplicit false

namespace ValueSchema

/-! ## Positions in reordered lists -/

section

variable {α : Type}

/-- A first position that stays, and a permutation of the later ones. -/
def laterPositions (e : Equiv.Perm Nat) : Equiv.Perm Nat where
  toFun
    | 0 => 0
    | n + 1 => e n + 1
  invFun
    | 0 => 0
    | n + 1 => e.symm n + 1
  left_inv
    | 0 => rfl
    | n + 1 => congrArg Nat.succ (e.symm_apply_apply n)
  right_inv
    | 0 => rfl
    | n + 1 => congrArg Nat.succ (e.apply_symm_apply n)

/-- A reordered list has its elements at other positions. -/
theorem exists_positions {l m : List α} (h : l.Perm m) :
    ∃ e : Equiv.Perm Nat, ∀ n : Nat, m[e n]? = l[n]? := by
  induction h with
  | nil => exact ⟨Equiv.refl Nat, fun _ => rfl⟩
  | cons x _ ih =>
    obtain ⟨e, he⟩ := ih
    refine ⟨laterPositions e, fun n => ?_⟩
    cases n with
    | zero => rfl
    | succ n => exact he n
  | swap x y l =>
    refine ⟨Equiv.swap 0 1, fun n => ?_⟩
    match n with
    | 0 => rw [Equiv.swap_apply_left]; rfl
    | 1 => rw [Equiv.swap_apply_right]; rfl
    | n + 2 => rw [Equiv.swap_apply_of_ne_of_ne (by omega) (by omega)]; rfl
  | trans _ _ ih ih' =>
    obtain ⟨e, he⟩ := ih
    obtain ⟨e', he'⟩ := ih'
    exact ⟨e.trans e', fun n => (he' (e n)).trans (he n)⟩

theorem filterMap_getElem? (l : List α) :
    (List.range l.length).filterMap (fun n => l[n]?) = l := by
  induction l with
  | nil => rfl
  | cons x rest ih =>
    rw [List.length_cons, List.range_succ_eq_map, List.filterMap_cons, List.filterMap_map]
    exact congrArg (List.cons x) ih

/-- Lists with the same elements at other positions are reordered lists. -/
theorem perm_of_positions {l m : List α} {e : Equiv.Perm Nat}
    (h : ∀ n : Nat, m[e n]? = l[n]?) : l.Perm m := by
  have hbound : ∀ n, e n < m.length ↔ n < l.length := fun n => by
    rw [← not_iff_not, not_lt, not_lt, ← List.getElem?_eq_none_iff, ← List.getElem?_eq_none_iff,
      h n]
  have hrange : ((List.range l.length).map e).Perm (List.range m.length) := by
    rw [List.perm_ext_iff_of_nodup (List.nodup_range.map e.injective) List.nodup_range]
    intro n
    rw [List.mem_map, List.mem_range]
    constructor
    · rintro ⟨k, hk, rfl⟩
      exact (hbound k).mpr (List.mem_range.mp hk)
    · intro hn
      refine ⟨e.symm n, List.mem_range.mpr ((hbound _).mp ?_), e.apply_symm_apply n⟩
      rwa [e.apply_symm_apply]
  have hfound := hrange.filterMap fun n => m[n]?
  rw [List.filterMap_map, filterMap_getElem?] at hfound
  have hsame : ((fun n => m[n]?) ∘ e) = fun n => l[n]? := funext h
  rwa [hsame, filterMap_getElem?] at hfound

/-- What is read off related elements is one thing, at other positions. -/
theorem perm_of_related {β γ : Type} {R : α → β → Prop} {l : List α} {m : List β}
    {e : Equiv.Perm Nat} (h : ∀ n : Nat, Option.Rel R l[n]? m[e n]?) (g : α → γ) (g' : β → γ)
    (hg : ∀ x y, R x y → g' y = g x) : (l.map g).Perm (m.map g') := by
  refine @perm_of_positions _ _ _ e fun n => ?_
  rw [List.getElem?_map, List.getElem?_map]
  have hn := h n
  generalize l[n]? = o at hn ⊢
  generalize m[e n]? = o' at hn ⊢
  cases hn with
  | none => rfl
  | some hxy => exact congrArg some (hg _ _ hxy)

end

/-! ## Branches that change places -/

namespace Ident

/-- A place in a run with the branch of the root that it lies in at another position. -/
def atBranch (e : Nat → Nat) : Place → Place
  | [] => []
  | [n] => [e n]
  | n :: m :: rest => n :: atBranch e (m :: rest)

theorem atBranch_append (e : Nat → Nat) (place : Place) (n : Nat) :
    atBranch e (place ++ [n]) = place ++ [e n] := by
  induction place with
  | nil => rfl
  | cons m rest ih =>
    cases rest with
    | nil => rfl
    | cons k rest => exact congrArg (List.cons m) ih

theorem atBranch_injective {e : Nat → Nat} (he : Function.Injective e) :
    Function.Injective (atBranch e) := by
  intro p q h
  rcases List.eq_nil_or_concat' p with rfl | ⟨p, n, rfl⟩
  · rcases List.eq_nil_or_concat' q with rfl | ⟨q, m, rfl⟩
    · rfl
    · rw [atBranch_append] at h
      exact absurd h.symm (List.append_ne_nil_of_right_ne_nil q (List.cons_ne_nil _ _))
  · rcases List.eq_nil_or_concat' q with rfl | ⟨q, m, rfl⟩
    · rw [atBranch_append] at h
      exact absurd h (List.append_ne_nil_of_right_ne_nil p (List.cons_ne_nil _ _))
    · rw [atBranch_append, atBranch_append] at h
      obtain ⟨rfl, hlast⟩ := List.append_inj' h rfl
      rw [he (List.cons.inj hlast).1]

theorem moved_atBranch_carried (run : Nat) (e : Nat → Nat) (n : Nat) :
    ((Site.root run).child n).Carried (moved run (atBranch e)) ((Site.root run).child (e n)) := by
  intro place
  show moved run (atBranch e) (made run (place ++ [n])) = made run (place ++ [e n])
  rw [moved_made, atBranch_append]

end Ident

/-! ## Reordered verdicts -/

/-- Two verdicts that differ in the order of issues, or in an output by the identities of
containers, the order of keys and the sign of zero. Identities inside of issues do not count. -/
inductive Verdict.Reordered : Verdict → Verdict → Prop
  | ok {v w : Value} (h : v.Equivalent w) : Reordered (.ok v) (.ok w)
  | error {e f : Issues}
      (h : (e.toList.map Issue.anonymous).Perm (f.toList.map Issue.anonymous)) :
      Reordered (.error e) (.error f)

namespace Intersection

variable {H : Heap} {f : Ident → Ident} {s : Site} {v : Value} {c : Context} {last : Nat}

theorem Laid.pairwise_coherent {n : Nat} {l : List Value} (hH : H.OlderThan s.run)
    (h : Laid H s n l) : l.Pairwise Value.Coherent := by
  induction h with
  | nil n => exact .nil
  | @cons n a rest head tail ih =>
    refine .cons (fun o ho => ?_) ih
    have hgathered : Gathered H s (n + 1 + rest.length) (n + 1) a := .of_output head
    exact hgathered.coherent hH tail (Nat.le_refl _) ho

theorem Laid.pairwise_symm {l : List Value} (hH : H.OlderThan s.run) (h : Laid H s 0 l)
    (hall : l.Pairwise Compatible) : l.Pairwise fun a b => Compatible a b ∧ Compatible b a :=
  hall.imp₂ (fun _ _ hab hcoherent => ⟨hab, hab.symm hcoherent⟩) (h.pairwise_coherent hH)

/-- Whether each two outputs are compatible does not depend on their order. -/
theorem pairwise_compatible_iff {outputs others : List Value} (hH : H.OlderThan s.run)
    (h : Laid H s 0 outputs) (h' : Laid H s 0 others) (hf : Function.Injective f)
    (hperm : (outputs.map (Value.rename f)).Perm others) :
    outputs.Pairwise Compatible ↔ others.Pairwise Compatible := by
  have hrenamed : (outputs.map (Value.rename f)).Pairwise
        (fun a b => Compatible a b ∧ Compatible b a)
      ↔ outputs.Pairwise fun a b => Compatible a b ∧ Compatible b a := by
    simp only [List.pairwise_map, compatible_rename_iff hf]
  have hreordered : (outputs.map (Value.rename f)).Pairwise
        (fun a b => Compatible a b ∧ Compatible b a)
      ↔ others.Pairwise fun a b => Compatible a b ∧ Compatible b a :=
    hperm.pairwise_iff And.symm
  constructor
  · intro hall
    exact (hreordered.mp (hrenamed.mpr (h.pairwise_symm hH hall))).imp And.left
  · intro hall
    exact (hrenamed.mp (hreordered.mpr (h'.pairwise_symm hH hall))).imp And.left

/-- **Merging all outputs does not depend on their order**, up to the names of containers. -/
theorem mergeAll_reordered {outputs others : List Value} (hH : H.OlderThan s.run)
    (h : Laid H s 0 outputs) (h' : Laid H s 0 others) (hf : Function.Injective f)
    (hperm : (outputs.map (Value.rename f)).Perm others) (hlast : outputs.length ≤ last)
    (hlast' : others.length ≤ last) :
    Option.Rel Value.Equivalent (mergeAll (s.child last) outputs)
      (mergeAll (s.child last) others) := by
  by_cases hnil : outputs = []
  · subst hnil
    obtain rfl := hperm.nil_eq
    exact .some rfl
  have hnil' : others ≠ [] := by
    rintro rfl
    exact hnil (List.map_eq_nil_iff.mp hperm.eq_nil)
  have hmerge := exists_mergeAll_iff hH h hlast
  have hmerge' := exists_mergeAll_iff hH h' hlast'
  rw [pairwise_compatible_iff hH h h' hf hperm, ← hmerge'] at hmerge
  cases hx : mergeAll (s.child last) outputs with
  | none =>
    cases hy : mergeAll (s.child last) others with
    | none => exact .none
    | some y =>
      obtain ⟨x, hx'⟩ := hmerge.mpr ⟨y, hy⟩
      rw [hx] at hx'
      cases hx'
  | some x =>
    obtain ⟨y, hy⟩ := hmerge.mp ⟨x, hx⟩
    rw [hy]
    have hjoins := mergeAll_joins hH h hlast hnil hx
    have hjoins' := mergeAll_joins hH h' hlast' hnil' hy
    -- each output fits in the merge that its renamed self went into, and conversely
    refine .some (hjoins.equivalent hjoins' (fun a ha => ?_) fun b hb => ?_)
    · have hmem := hperm.mem_iff.mp (List.mem_map_of_mem ha)
      exact (Value.fitsIn_rename a).1.trans (hjoins'.above _ hmem)
    · obtain ⟨a, ha, rfl⟩ := List.mem_map.mp (hperm.mem_iff.mpr hb)
      exact (Value.fitsIn_rename a).2.trans (hjoins.above a ha)

/-! ## Verdicts in another order -/

section

variable {l l' : List Verdict} {e : Equiv.Perm Nat}
  (h : ∀ n : Nat, Option.Rel (Likeness.renamed f).verdict l[n]? l'[e n]?)
include h

theorem allIssues_reordered : ((Verdict.allIssues l).map Issue.anonymous).Perm
    ((Verdict.allIssues l').map Issue.anonymous) := by
  have hissues := perm_of_related h (fun x => x.issues.map Issue.anonymous)
    (fun x => x.issues.map Issue.anonymous) fun x y hxy => (Likeness.verdict_issues hxy).symm
  have hflat := hissues.flatten
  rwa [← List.flatMap_def, ← List.flatMap_def, ← List.map_flatMap, ← List.map_flatMap] at hflat

theorem outputs_reordered :
    ((Verdict.outputs l).map (Value.rename f)).Perm (Verdict.outputs l') := by
  have houtputs := perm_of_related h (fun x => x.output?.map (Value.rename f)) Verdict.output?
    fun x y hxy => by
      cases hxy with
      | ok hvw => exact congrArg some hvw.symm
      | error _ => rfl
  have hfound := houtputs.filterMap id
  rwa [List.filterMap_map, List.filterMap_map, Function.id_comp, Function.id_comp,
    ← List.map_filterMap] at hfound

/-- **The verdict on all branches does not depend on their order.** -/
theorem combine_reordered (hf : Function.Injective f) (hH : H.OlderThan s.run)
    (hlaid : Verdict.allIssues l = [] → Laid H s 0 (Verdict.outputs l))
    (hlaid' : Verdict.allIssues l' = [] → Laid H s 0 (Verdict.outputs l')) :
    (combine s c l).Reordered (combine s c l') := by
  have hissues := allIssues_reordered h
  have hlen : l.length = l'.length := by
    have hperm := perm_of_related h (fun _ => ()) (fun _ => ()) fun _ _ _ => rfl
    simpa only [List.length_map] using hperm.length_eq
  unfold combine
  cases hl : Verdict.allIssues l with
  | nil =>
    rw [hl] at hissues
    have hl' : Verdict.allIssues l' = [] := List.map_eq_nil_iff.mp hissues.nil_eq.symm
    have hlast : (Verdict.outputs l).length ≤ l.length := List.length_filterMap_le _ _
    have hlast' : (Verdict.outputs l').length ≤ l.length :=
      hlen ▸ List.length_filterMap_le _ _
    have hmerged := mergeAll_reordered hH (hlaid hl) (hlaid' hl') hf (outputs_reordered h) hlast
      hlast'
    rw [hl', ← hlen]
    simp only [Issues.ofList?]
    generalize mergeAll (s.child l.length) (Verdict.outputs l) = o at hmerged ⊢
    generalize mergeAll (s.child l.length) (Verdict.outputs l') = o' at hmerged ⊢
    cases hmerged with
    | none => exact .error (.refl _)
    | some hxy => exact .ok hxy
  | cons i rest =>
    cases hl' : Verdict.allIssues l' with
    | nil =>
      rw [hl, hl'] at hissues
      exact absurd hissues.eq_nil (List.cons_ne_nil _ _)
    | cons i' rest' =>
      rw [hl, hl'] at hissues
      exact .error hissues

end

/-- The verdicts of reordered branches are alike, at the other positions, if a renaming carries what
each branch does at its place to what it does at the other one. -/
theorem judgeBranches_reordered {branches others : List Judge} {e : Equiv.Perm Nat}
    (he : ∀ n : Nat, others[e n]? = branches[n]?)
    (halike : ∀ j ∈ branches, ∀ n, (Likeness.renamed f).answer (j (s.child n) v c)
      (j (s.child (e n)) v c)) :
    Option.Rel (fun l l' : List Verdict =>
        ∀ n : Nat, Option.Rel (Likeness.renamed f).verdict l[n]? l'[e n]?)
      (judgeBranches s v c 0 branches) (judgeBranches s v c 0 others) := by
  have hexists : (∃ l, judgeBranches s v c 0 branches = some l)
      ↔ ∃ l, judgeBranches s v c 0 others = some l := by
    have hmoved : (∀ (k : Nat) (j : Judge), others[k]? = some j → (j (s.child (0 + k)) v c).isSome)
        ↔ ∀ (k : Nat) (j : Judge), others[e k]? = some j → (j (s.child (0 + e k)) v c).isSome :=
      e.surjective.forall
    rw [exists_judgeBranches_iff, exists_judgeBranches_iff, hmoved]
    simp only [he, Nat.zero_add]
    refine forall₃_congr fun k j hj => ?_
    have hrel := halike j (List.mem_of_getElem? hj) k
    generalize j (s.child k) v c = o at hrel ⊢
    generalize j (s.child (e k)) v c = o' at hrel ⊢
    cases hrel <;> exact Iff.rfl
  cases hl : judgeBranches s v c 0 branches with
  | none =>
    cases hl' : judgeBranches s v c 0 others with
    | none => exact .none
    | some l' =>
      obtain ⟨l, h⟩ := hexists.mpr ⟨l', hl'⟩
      rw [hl] at h
      cases h
  | some l =>
    obtain ⟨l', hl'⟩ := hexists.mp ⟨l, hl⟩
    rw [hl']
    refine .some fun n => ?_
    have hn := judgeBranches_getElem? hl n
    have hn' := judgeBranches_getElem? hl' (e n)
    rw [he, Nat.zero_add] at hn'
    rw [Nat.zero_add] at hn
    cases hj : branches[n]? with
    | none =>
      rw [hj, Option.map_none, Option.map_eq_none_iff] at hn hn'
      rw [hn, hn']
      exact .none
    | some j =>
      rw [hj, Option.map_some, Option.map_eq_some_iff] at hn hn'
      obtain ⟨x, hx, hjx⟩ := hn
      obtain ⟨y, hy, hjy⟩ := hn'
      have hrel := halike j (List.mem_of_getElem? hj) n
      rw [hx, hy]
      rwa [← hjx, ← hjy] at hrel

/-- **Judging by reordered branches** comes to the same in another order. -/
theorem judge_reordered {branches others : List Judge} {e : Equiv.Perm Nat}
    (he : ∀ n : Nat, others[e n]? = branches[n]?)
    (halike : ∀ j ∈ branches, ∀ n, (Likeness.renamed f).answer (j (s.child n) v c)
      (j (s.child (e n)) v c))
    (hdraws : ∀ j ∈ branches, j.DrawsOn H) (hv : v.MadeOf H.Holds) (hH : H.OlderThan s.run)
    (hf : Function.Injective f) :
    Option.Rel Verdict.Reordered (judge branches s v c) (judge others s v c) := by
  have hdraws' : ∀ j ∈ others, j.DrawsOn H := fun j hj =>
    hdraws j ((perm_of_positions he).mem_iff.mpr hj)
  have hrel := judgeBranches_reordered he halike
  unfold judge
  cases hl : judgeBranches s v c 0 branches with
  | none =>
    rw [hl] at hrel
    generalize judgeBranches s v c 0 others = answer at hrel ⊢
    cases hrel
    exact .none
  | some l =>
    cases hl' : judgeBranches s v c 0 others with
    | none =>
      rw [hl, hl'] at hrel
      cases hrel
    | some l' =>
      rw [hl, hl'] at hrel
      cases hrel with
      | some h =>
        exact .some (combine_reordered h hf hH (laid_of_judgeBranches hdraws hv hl)
          (laid_of_judgeBranches hdraws' hv hl'))

end Intersection

/-! ## Schemas -/

namespace Schema

variable {H : Heap} {v : Value} {c : Context}

theorem depthLimits_of_perm {l m : List Schema} (h : l.Perm m) : depthLimits l = depthLimits m := by
  induction h with
  | nil => rfl
  | cons t _ ih => rw [depthLimits, depthLimits, ih]
  | swap t u l =>
    simp only [depthLimits]
    omega
  | trans _ _ ih ih' => exact ih.trans ih'

theorem nextRuns_of_perm {l m : List Schema} (h : l.Perm m) : nextRuns l = nextRuns m := by
  induction h with
  | nil => rfl
  | cons t _ ih => rw [nextRuns, nextRuns, ih]
  | swap t u l =>
    simp only [nextRuns]
    omega
  | trans _ _ ih ih' => exact ih.trans ih'

/-- **Intersections do not depend on the order of their branches.** Whatever heap the value, the
constants and the code of a caller's draw on, a reordered intersection comes to an answer exactly if
the intersection does, accepts exactly if it does, with an output that differs by identities, the
order of keys and the sign of zero at most, and otherwise reports the same issues in another
order. -/
theorem validateIn_reordered {branches others : List Schema} {family : Family}
    (hperm : branches.Perm others) (hbranches : ∀ t ∈ branches, t.Every (PureOver H))
    (hfamily : ∀ e ∈ family, e.2.Every (PureOver H)) (hv : v.MadeOf H.Holds)
    (hH : H.OlderThan (family.start (intersection branches) v).run) (c : Context) :
    Option.Rel Verdict.Reordered ((intersection branches).validateIn family v c)
      ((intersection others).validateIn family v c) := by
  have hbudget : family.budget (intersection others) v
      = family.budget (intersection branches) v := by
    simp only [Family.budget, depthLimit, depthLimits_of_perm hperm]
  have hstart : family.start (intersection others) v = family.start (intersection branches) v := by
    simp only [Family.start, nextRun, nextRuns_of_perm hperm]
  rw [intersection_validateIn, intersection_validateIn, hbudget, hstart]
  generalize family.budget (intersection branches) v = budget
  obtain ⟨run, hrun⟩ : ∃ run, family.start (intersection branches) v = Site.root run := ⟨_, rfl⟩
  rw [hrun] at hH ⊢
  obtain ⟨e, he⟩ := exists_positions hperm
  -- a branch and the reordered branch judge alike, each at its own place
  have hrenaming := Ident.moved_renaming (Ident.atBranch_injective e.injective) hH
  have halike := fun t ht n => judged_alike (c := c) (hbranches t ht) hfamily hv hrenaming
    (Ident.moved_atBranch_carried run e n) budget
  refine Intersection.judge_reordered (e := e) (fun n => ?_) (fun j hj n => ?_)
    (fun j hj => ?_) hv hH hrenaming.injective
  · rw [List.getElem?_map, List.getElem?_map, he]
  · obtain ⟨t, ht, rfl⟩ := List.mem_map.mp hj
    exact halike t ht n
  · obtain ⟨t, ht, rfl⟩ := List.mem_map.mp hj
    exact resolved_drawsOn ((hbranches t ht).mono fun _ h => h.draws)
      (fun e he => (hfamily e he).mono fun _ h => h.draws) budget

end Schema

/-! ## Fields in either order -/

/-- Objects with one field and the rest, and without any other field. -/
def Schema.fieldAndRest (key : String) : Schema :=
  .object ⟨[(key, .plain .any), ("rest", .plain .any)], .strip, Limits.standard⟩

/-- An object with a NaN on the left and an array on the right. -/
def Value.threeFields : Value :=
  .object (.given 0) [("left", .number Double.nan), ("rest", .string "r"),
    ("right", .array (.given 1) [])]

/-- The object and the array. -/
def Heap.ofThreeFields : Heap
  | .given 0 => some Value.threeFields
  | .given 1 => some (.array (.given 1) [])
  | _ => none

theorem Value.threeFields_madeOf : Value.threeFields.MadeOf Heap.ofThreeFields.Holds := by
  rw [threeFields, madeOf_object]
  refine ⟨⟨by decide, .given 0, rfl, rfl⟩, ?_⟩
  simp only [List.forall_mem_cons]
  exact ⟨.of_plain rfl, .of_plain rfl, madeOf_array.mpr ⟨⟨.given 1, rfl, rfl⟩, nofun⟩, nofun⟩

theorem Heap.ofThreeFields_olderThan (run : Nat) : Heap.ofThreeFields.OlderThan run := by
  intro id v h
  cases id with
  | given n => exact Nat.zero_le run
  | made r place => cases h

theorem Schema.fieldAndRest_pureOver (H : Heap) {key : String} (hkey : key ≠ "rest") :
    (Schema.fieldAndRest key).Every (PureOver H) := by
  refine .intro _ ⟨trivial, nofun, fun shape hshape => ?_, nofun⟩ fun t ht => ?_
  · cases hshape
    exact List.nodup_cons.mpr ⟨fun h => hkey (List.mem_singleton.mp h), List.nodup_singleton _⟩
  · have ht : t ∈ [Schema.plain .any, .plain .any] := ht
    obtain rfl : t = .plain .any := by simpa using ht
    exact any_pureOver H

/-- What the two branches put out, merged from the left. -/
def Value.leftFirst : Value :=
  .object (.made 0 [0, 2]) [("left", .number Double.nan), ("rest", .string "r"),
    ("right", .array (.given 1) [])]

/-- What the two branches put out, merged from the right. -/
def Value.rightFirst : Value :=
  .object (.made 0 [0, 2]) [("right", .array (.given 1) []), ("rest", .string "r"),
    ("left", .number Double.nan)]

set_option maxRecDepth 8192 in
/-- Two branches in either order: the outputs differ in the order of keys. -/
theorem Schema.fieldAndRest_either_order :
    (Schema.intersection [fieldAndRest "left", fieldAndRest "right"]).validateIn []
        Value.threeFields Context.root = some (.ok Value.leftFirst)
      ∧ (Schema.intersection [fieldAndRest "right", fieldAndRest "left"]).validateIn []
        Value.threeFields Context.root = some (.ok Value.rightFirst)
      ∧ Value.leftFirst.Equivalent Value.rightFirst := by
  have hleft : (Schema.intersection [fieldAndRest "left", fieldAndRest "right"]).validateIn []
      Value.threeFields Context.root = some (.ok Value.leftFirst) := by cbv
  have hright : (Schema.intersection [fieldAndRest "right", fieldAndRest "left"]).validateIn []
      Value.threeFields Context.root = some (.ok Value.rightFirst) := by cbv
  have hbranches : ∀ t ∈ [fieldAndRest "left", fieldAndRest "right"],
      t.Every (PureOver Heap.ofThreeFields) := by
    simp only [List.forall_mem_cons]
    exact ⟨fieldAndRest_pureOver _ (by decide), fieldAndRest_pureOver _ (by decide),
      fun _ ht => absurd ht List.not_mem_nil⟩
  have hfamily : ∀ e ∈ ([] : Family), e.2.Every (PureOver Heap.ofThreeFields) :=
    fun _ he => absurd he List.not_mem_nil
  have h := validateIn_reordered (List.Perm.swap _ _ _) hbranches hfamily
    Value.threeFields_madeOf (Heap.ofThreeFields_olderThan _) Context.root
  rw [hleft, hright] at h
  refine ⟨hleft, hright, ?_⟩
  cases h with
  | some h =>
    cases h with
    | ok h => exact h

end ValueSchema
