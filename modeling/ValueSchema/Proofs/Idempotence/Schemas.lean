/-
Outputs are accepted again.

A schema that maps nothing accepts what it has put out, and puts it out again: the second output is
the first one up to the identities of containers and the order of keys. The first run is stable, and
the output lies between itself and its value, so under the budget of the value it is accepted with a
parallel output; under its own budget it comes to the same.
-/
import ValueSchema.Proofs.Idempotence.Budgets
import ValueSchema.Proofs.Termination.Families
import Mathlib

set_option autoImplicit false

namespace ValueSchema

namespace Schema

/-- **Judging is idempotent.** What a pure schema has put out for a value without repeated keys it
accepts, and puts out a value alike. -/
theorem validateIn_idempotent {schema : Schema} {family : Family} (hschema : schema.Every Pure)
    (hfamily : ∀ e ∈ family, e.2.Every Pure) {v out : Value} {c : Context} (hv : v.WellKeyed)
    (h : schema.validateIn family v c = some (.ok out)) :
    ∃ again, schema.validateIn family out c = some (.ok again) ∧ again.Alike out := by
  have hstable : (family.evaluator .sync schema v).judge.Stable :=
    evaluator_stable hschema (Family.resolution_stable hfamily _)
  have hrun : v.nextRun ≤ (family.start schema v).run := Nat.le_max_left _ _
  have hself := hstable.self h hv hrun
  obtain ⟨again, hagain, hpar⟩ := (hstable h hv hrun).2 (family.start schema out) hself.wellKeyed
    (Nat.le_max_left _ _) (.refl out) hself.trim
  exact ⟨again, Family.judge_of_budget hfamily hschema hagain, hpar.alike.symm⟩

end Schema

/-! ## Trees by halves -/

/-- A tree in two halves: one branch looks at the label, the other one at the trees below. -/
def Schema.halves : Schema :=
  .intersection [.object ⟨[("label", .text .any)], .strip, Limits.standard⟩,
    .object ⟨[("below", .array (.lazy ⟨"tree", 0⟩) .any)], .strip, Limits.standard⟩]

/-- A tree with a year, which neither half keeps. -/
def Value.datedTwig : Value :=
  .object (.given 1) [("year", .bigint 7), ("label", .string "twig"), ("below", .array (.given 2)
    [.object (.given 3) [("label", .string "leaf"), ("below", .array (.given 4) [])]])]

/-- What both halves put out, merged. -/
def Value.keptTwig : Value :=
  .object (.made 0 [0, 2]) [("label", .string "twig"), ("below", .array (.made 0 [0, 1])
    [.object (.made 0 [0, 0, 1]) [("label", .string "leaf"),
      ("below", .array (.made 0 [1, 0, 0, 1]) [])]])]

theorem Schema.halves_every_pure : Schema.halves.Every Schema.Pure := by
  refine .intro _ (List.cons_ne_nil _ _) fun t ht => ?_
  simp only [halves, children, bare, held, List.append_nil, List.mem_cons, List.not_mem_nil,
    or_false] at ht
  rcases ht with rfl | rfl
  · refine .intro _ (List.nodup_singleton _) fun t ht => ?_
    cases List.mem_singleton.mp (show t ∈ [Schema.text .any] from ht)
    exact .intro _ rfl fun t ht => absurd ht List.not_mem_nil
  · refine .intro _ (List.nodup_singleton _) fun t ht => ?_
    cases List.mem_singleton.mp (show t ∈ [Schema.array (.lazy ⟨"tree", 0⟩) .any] from ht)
    refine .intro _ rfl fun t ht => ?_
    cases List.mem_singleton.mp (show t ∈ [Schema.lazy ⟨"tree", 0⟩] from ht)
    exact .intro _ trivial fun t ht => absurd ht List.not_mem_nil

theorem Family.trees_every_pure : ∀ e ∈ Family.trees, e.2.Every Schema.Pure := by
  intro e he
  cases List.mem_singleton.mp he
  exact Schema.treeNode_every (by decide : ["label", "below"].Nodup) rfl rfl trivial

theorem Value.wellKeyed_object {id : Ident} {fields : List (String × Value)}
    (hkeys : (Keyed.keys fields).Nodup) (h : ∀ f ∈ fields, f.2.WellKeyed) :
    (object id fields).WellKeyed :=
  wellKeyed_iff.mpr ⟨hkeys, forall_mem_parts_object.mpr h⟩

theorem Value.wellKeyed_array {id : Ident} {items : List Value} (h : ∀ x ∈ items, x.WellKeyed) :
    (array id items).WellKeyed :=
  wellKeyed_iff.mpr ⟨List.nodup_nil, h⟩

theorem Value.datedTwig_wellKeyed : Value.datedTwig.WellKeyed := by
  have hleaf : (object (.given 3)
      [("label", .string "leaf"), ("below", .array (.given 4) [])]).WellKeyed := by
    refine wellKeyed_object (by decide) ?_
    simp only [List.forall_mem_cons]
    exact ⟨.of_plain rfl, wellKeyed_array nofun, nofun⟩
  refine wellKeyed_object (by decide) ?_
  simp only [List.forall_mem_cons]
  refine ⟨.of_plain rfl, .of_plain rfl, wellKeyed_array ?_, nofun⟩
  simp only [List.forall_mem_cons]
  exact ⟨hleaf, nofun⟩

set_option maxRecDepth 4096 in
/-- The year is gone after the first run, and the second run changes nothing any more. -/
theorem Schema.halves_datedTwig :
    Schema.halves.validateIn Family.trees Value.datedTwig Context.root
      = some (.ok Value.keptTwig)
      ∧ ∃ again, Schema.halves.validateIn Family.trees Value.keptTwig Context.root
        = some (.ok again) ∧ again.Alike Value.keptTwig := by
  have h : Schema.halves.validateIn Family.trees Value.datedTwig Context.root
      = some (.ok Value.keptTwig) := by cbv
  exact ⟨h, Schema.validateIn_idempotent Schema.halves_every_pure Family.trees_every_pure
    Value.datedTwig_wellKeyed h⟩

end ValueSchema
