/-
Branches at their places.

A branch of an intersection judges at the place that its position gives it. What it is at another
position differs from that by a renaming: what was built at the one place is built at the other
one, and nothing else has a new name. The value and all constants lie in a heap that was there
before the run, so they keep their names. This asks of the code of a caller's that it is pure: it
knows no names but those in the heap, and it takes containers from what it is given, from the heap,
and from nowhere else.
-/
import ValueSchema.Proofs.Intersecting.Joins
import ValueSchema.Proofs.Origins.Schemas
import ValueSchema.UserCode.Vocabulary
import Mathlib.Logic.Equiv.Basic

set_option autoImplicit false

namespace ValueSchema

variable {H : Heap} {f : Ident → Ident} {s s' : Site} {v : Value} {c : Context}

/-- The code that a node calls is pure, over a heap that its constants lie in. -/
structure Schema.PureOver (H : Heap) (t : Schema) : Prop where
  ignores : t.IgnoresNames H
  draws : t.DrawsOn H

theorem Schema.any_pureOver (H : Heap) : (Schema.plain .any).Every (PureOver H) :=
  .intro _ ⟨trivial, nofun, nofun, nofun⟩ fun _ ht => absurd ht List.not_mem_nil

theorem Mapper.wrap_ignoresNames (H : Heap) : (Modifier.transform Mapper.wrap).IgnoresNames H := by
  intro f _ s s' hs v
  refine .ok (.ok ?_)
  rw [Value.rename_array, hs.ident]
  rfl

theorem Mapper.wrap_drawsOn (H : Heap) : Mapper.wrap.DrawsOn H := by
  intro P s v out hs hv h
  cases h
  refine Value.madeOf_array.mpr ⟨hs.ident rfl, fun w hw => ?_⟩
  rwa [List.mem_singleton.mp hw]

/-- Code that builds can be pure: an array around a value is named after its site. -/
theorem Schema.wrapped_pureOver {t : Schema} (ht : t.Every (PureOver H)) :
    (Schema.modified (.transform Mapper.wrap) t).Every (PureOver H) := by
  have hcode : ∀ m inner, Schema.modified (.transform Mapper.wrap) t = .modified m inner →
      m.DrawsOn H := by
    rintro m inner h
    cases h
    exact Mapper.wrap_drawsOn H
  refine .intro _ ⟨Mapper.wrap_ignoresNames H, nofun, nofun, hcode⟩ fun u hu => ?_
  cases List.mem_singleton.mp (show u ∈ [t] from hu)
  exact ht

/-! ## What keeps its name -/

namespace Ident

/-- What was built in a run, at other places. -/
def moved (run : Nat) (move : Place → Place) : Ident → Ident
  | given number => given number
  | made r place => if r = run then made r (move place) else made r place

theorem moved_made (run : Nat) (move : Place → Place) (place : Place) :
    moved run move (made run place) = made run (move place) := by
  rw [moved, if_pos rfl]

theorem moved_of_ne {run r : Nat} (move : Place → Place) (place : Place) (hr : r ≠ run) :
    moved run move (made r place) = made r place := by
  rw [moved, if_neg hr]

theorem moved_injective (run : Nat) {move : Place → Place} (hmove : Function.Injective move) :
    Function.Injective (moved run move) := by
  -- no run changes, so the places can be compared within each run
  have hrun : ∀ r p, ∃ q, moved run move (made r p) = made r q := by
    intro r p
    rw [moved]
    split <;> exact ⟨_, rfl⟩
  intro i j h
  cases i with
  | given n =>
    cases j with
    | given m => exact h
    | made r p =>
      obtain ⟨q, hq⟩ := hrun r p
      rw [hq] at h
      cases h
  | made r p =>
    obtain ⟨q, hq⟩ := hrun r p
    cases j with
    | given m =>
      rw [hq] at h
      cases h
    | made r' p' =>
      obtain ⟨q', hq'⟩ := hrun r' p'
      obtain rfl : r = r' := by
        rw [hq, hq'] at h
        exact (made.inj h).1
      by_cases hr : r = run
      · subst hr
        rw [moved_made, moved_made] at h
        rw [hmove (made.inj h).2]
      · rwa [moved_of_ne move p hr, moved_of_ne move p' hr] at h

/-- What was there before a run keeps its name. -/
theorem moved_renaming {run : Nat} {move : Place → Place} (hmove : Function.Injective move)
    (hH : H.OlderThan run) : Renaming H (moved run move) where
  injective := moved_injective run hmove
  kept id v h := by
    cases id with
    | given n => rfl
    | made r place =>
      refine moved_of_ne move place ?_
      rintro rfl
      exact absurd (hH _ v h) (Nat.not_succ_le_self r)

end Ident

/-- **A schema judges a value of the heap alike** wherever a renaming carries its place. -/
theorem Schema.judged_alike {t : Schema} {family : Family} (ht : t.Every (PureOver H))
    (hfamily : ∀ e ∈ family, e.2.Every (PureOver H)) (hv : v.MadeOf H.Holds)
    (hf : Ident.Renaming H f) (hs : s.Carried f s') (budget : Nat) :
    (Likeness.renamed f).answer
      ((t.evaluator .sync (family.resolution .sync budget)).judge s v c)
      ((t.evaluator .sync (family.resolution .sync budget)).judge s' v c) := by
  have hnode : ∀ t : Schema, PureOver H t →
      t.IgnoresNames H ∧ ∀ l ∈ t.constants, l.rename f = l := fun t ht =>
    ⟨ht.ignores, fun l hl => (ht.draws.constants l hl).rename_eq_self hf⟩
  have hevaluators := Likeness.renamed_evaluators hf (ht.mono hnode)
    (fun e he => (hfamily e he).mono hnode) budget
  exact hevaluators.judge hs (hv.rename_eq_self hf) rfl

/-- An intersection judges by its branches, all of them with its own budget and in one run. -/
theorem Schema.intersection_validateIn (branches : List Schema) (family : Family) (v : Value)
    (c : Context) : (intersection branches).validateIn family v c
      = Intersection.judge (branches.map fun t => (t.evaluator .sync
          (family.resolution .sync (family.budget (intersection branches) v))).judge)
        (family.start (intersection branches) v) v c := by
  rw [validateIn_eq_layer]
  simp only [layer]

namespace Intersection

/-! ## The verdicts of branches -/

/-- The verdicts are those of the branches, each at its own place. -/
theorem judgeBranches_getElem? {branches : List Judge} : ∀ {n : Nat} {l : List Verdict},
    judgeBranches s v c n branches = some l →
    ∀ k : Nat, l[k]?.map some = branches[k]?.map fun j => j (s.child (n + k)) v c := by
  induction branches with
  | nil =>
    intro n l h k
    cases h
    rfl
  | cons j rest ih =>
    intro n l h k
    obtain ⟨verdict, hfirst, h⟩ := Option.bind_eq_some_iff.mp h
    obtain ⟨others, hrest, h⟩ := Option.bind_eq_some_iff.mp h
    cases h
    cases k with
    | zero => exact congrArg some hfirst.symm
    | succ k =>
      have hk := ih hrest k
      rw [Nat.add_right_comm, Nat.add_assoc] at hk
      exact hk

theorem judgeBranches_total {branches : List Judge} : ∀ {n : Nat},
    (∀ (k : Nat) (j : Judge), branches[k]? = some j → (j (s.child (n + k)) v c).isSome) →
    ∃ l, judgeBranches s v c n branches = some l := by
  induction branches with
  | nil => exact fun _ => ⟨[], rfl⟩
  | cons j rest ih =>
    intro n h
    obtain ⟨verdict, hfirst⟩ := Option.isSome_iff_exists.mp (h 0 j rfl)
    obtain ⟨others, hrest⟩ := @ih (n + 1) fun k j' hj' => by
      rw [Nat.add_right_comm, Nat.add_assoc]
      exact h (k + 1) j' hj'
    refine ⟨verdict :: others, ?_⟩
    rw [Nat.add_zero] at hfirst
    rw [judgeBranches, hfirst, Option.bind_eq_bind, Option.bind_some, hrest]
    rfl

/-- There are verdicts exactly if every branch comes to one at its place. -/
theorem exists_judgeBranches_iff {branches : List Judge} {n : Nat} :
    (∃ l, judgeBranches s v c n branches = some l)
      ↔ ∀ (k : Nat) (j : Judge), branches[k]? = some j → (j (s.child (n + k)) v c).isSome := by
  refine ⟨fun ⟨l, hl⟩ k j hj => ?_, judgeBranches_total⟩
  have hk := judgeBranches_getElem? hl k
  rw [hj, Option.map_some, Option.map_eq_some_iff] at hk
  obtain ⟨verdict, _, hverdict⟩ := hk
  rw [← hverdict, Option.isSome_some]

/-- The outputs of branches that all accept lie at the places of the branches. -/
theorem laid_of_judgeBranches {branches : List Judge} (h : ∀ j ∈ branches, j.DrawsOn H)
    (hv : v.MadeOf H.Holds) : ∀ {n : Nat} {l : List Verdict},
    judgeBranches s v c n branches = some l → Verdict.allIssues l = [] →
    Laid H s n (Verdict.outputs l) := by
  induction branches with
  | nil =>
    intro n l hl _
    cases hl
    exact .nil n
  | cons j rest ih =>
    rw [List.forall_mem_cons] at h
    intro n l hl hissues
    obtain ⟨verdict, hfirst, hl⟩ := Option.bind_eq_some_iff.mp hl
    obtain ⟨others, hrest, hl⟩ := Option.bind_eq_some_iff.mp hl
    cases hl
    rw [Verdict.allIssues, List.flatMap_cons, List.append_eq_nil_iff] at hissues
    cases verdict with
    | error e => cases hissues.1
    | ok w =>
      have hallows : H.Allows (s.child n) (H.With (s.child n).Makes) :=
        Heap.allows_with fun _ hid => hid
      exact .cons (h.1 hallows (hv.mono hallows.held) hfirst) (ih h.2 hrest hissues.2)

end Intersection

end ValueSchema
