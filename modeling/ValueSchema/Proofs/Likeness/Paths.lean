/-
Judging at different paths.

Where a value stands changes what its issues say and nothing else: at two contexts of one depth a
schema accepts the same values with the same outputs. Only code of a caller's is told the path, so
this holds as soon as no refiner lets its decision depend on it. The test of a schema has no path
at all and judges at the root where it must judge, which is why tests and judges can agree.
-/
import ValueSchema.Proofs.Likeness.Outputs

set_option autoImplicit false

namespace ValueSchema

open List (Forall₂)

/-! ## Refiners -/

/-- A refiner lets a value pass: it reports nothing and answers yes. -/
def Refiner.Passes (r : Refiner) (path : String) (v : Value) : Prop :=
  (r path v).1 = [] ∧ (r path v).2 = .ok true

/-- The decision of a refiner does not depend on the path that it is told. -/
def Refiner.IgnoresPath (r : Refiner) : Prop :=
  ∀ (p q : String) (v : Value), r.Passes p v ↔ r.Passes q v

/-- A refiner puts out what passes and rejects the rest. -/
theorem Verdict.ofRefiner_eq_or (r : Refiner) (c : Context) (v : Value) :
    (r.Passes c.path v ∧ Verdict.ofRefiner r c v = .ok v)
      ∨ ¬ r.Passes c.path v ∧ ∃ e, Verdict.ofRefiner r c v = .error e := by
  unfold Verdict.ofRefiner Refiner.Passes
  rcases r c.path v with ⟨reports, answer⟩
  -- any report rejects, whatever the refiner decides
  cases reports with
  | cons report rest => exact .inr ⟨fun h => List.cons_ne_nil _ _ h.1, _, rfl⟩
  | nil =>
    rcases answer with crash | b
    · exact .inr ⟨fun h => (nomatch h.2), _, rfl⟩
    · cases b with
      | true => exact .inl ⟨⟨rfl, rfl⟩, rfl⟩
      | false => exact .inr ⟨fun h => (nomatch h.2), _, rfl⟩

/-- A node calls no refiner whose decision depends on the path. -/
def Schema.PathBlind : Schema → Prop
  | .modified (.superRefine r) _ => r.IgnoresPath
  | _ => True

/-! ## The likeness -/

namespace Likeness

/-- One value at one site and depth, at any two paths: the same output, or issues both times. -/
def pathFree : Likeness where
  site := Eq
  context c c' := c.depth = c'.depth
  input := Eq
  output := Eq
  issues l l' := l = [] ↔ l' = []
  site_child := Site.child_congr
  context_depth := id
  context_childKey := fun _ h => congrArg (· + 1) h
  context_childIndex := fun _ h => congrArg (· + 1) h
  context_atKey := fun _ h => h
  input_plain := fun _ => rfl
  input_parts := Value.Parts.of_eq
  output_of_input := id
  output_undefined := fun h => congrArg _ h
  output_string := fun h => congrArg _ h
  output_array := fun hs h => hs ▸ Value.congruence_eq.array h
  output_object := fun hs h => hs ▸ Value.congruence_eq.object h
  output_map := fun hs h => hs ▸ Value.congruence_eq.map h
  output_set := fun hs h => hs ▸ Value.congruence_eq.set h
  issues_nil := Iff.rfl
  issues_append := fun h h' => by rw [List.append_eq_nil_iff, List.append_eq_nil_iff, h, h']
  issues_eq_nil := id
  issues_here := fun _ _ => by simp
  issues_received := fun _ _ => by simp
  issues_override := fun _ _ _ => by simp [Issues.toList]

theorem pathFree_sharp : pathFree.Sharp := fun _ _ h => h

theorem pathFree_rooted : pathFree.Rooted := fun _ => rfl

/-- Under this likeness all rejections are alike. -/
theorem pathFree_error (e f : Issues) : pathFree.verdict (.error e) (.error f) :=
  .error (by simp [pathFree, Issues.toList])

theorem pathFree_maps (mapper : Mapper) : pathFree.Maps Eq mapper := by
  intro s s' v w hs hv
  cases hs
  cases hv
  exact mapped_refl (fun _ => rfl) _

theorem pathFree_refiner {r : Refiner} (hr : r.IgnoresPath) :
    pathFree.Checks fun c v => Verdict.ofRefiner r c v := by
  intro c c' v w _ hv
  cases hv
  show pathFree.verdict (Verdict.ofRefiner r c v) (Verdict.ofRefiner r c' v)
  have hsame := hr c.path c'.path v
  -- the decision is one at both paths, so the mixed cases are absurd
  rcases Verdict.ofRefiner_eq_or r c v with ⟨hp, ho⟩ | ⟨hp, e, he⟩
  · rcases Verdict.ofRefiner_eq_or r c' v with ⟨_, ho'⟩ | ⟨hp', _⟩
    · rw [ho, ho']; exact .ok rfl
    · exact absurd (hsame.mp hp) hp'
  · rcases Verdict.ofRefiner_eq_or r c' v with ⟨hp', _⟩ | ⟨_, e', he'⟩
    · exact absurd (hsame.mpr hp') hp
    · rw [he, he']; exact pathFree_error e e'

theorem pathFree_admits {s : Schema} (hs : s.PathBlind) : pathFree.Admits .sync s := by
  cases s with
  | array _ _ => exact fun _ => keepsRepeats_of_sharp pathFree_sharp
  | tagged _ _ => exact keepsPlaces_of_keepsKeys (keepsKeys_of_sharp pathFree_sharp) _
  | literal l => exact literal_leaf pathFree_sharp l
  | words options => exact words_leaf pathFree_sharp options
  | enumeration entries => exact enumeration_leaf pathFree_sharp entries
  | set _ _ => exact keepsSameness_of_eq id
  | intersection _ => exact keepsMerging_of_eq id Iff.rfl
  | pipe _ _ => exact fun _ _ h => h
  | modified m _ =>
    cases m with
    | refine check text =>
      intro c c' v w hc hv
      cases hv
      exact ofCheck_like (check v) text hc rfl
    | superRefine r => exact pathFree_refiner hs
    | transform mapper => exact pathFree_maps mapper
    | preprocess mapper => exact pathFree_maps mapper
    | refineAsync _ _ => exact fun h => nomatch h
    | transformAsync _ => exact fun h => nomatch h
    | preprocessAsync _ => exact fun h => nomatch h
    | default _ | fallback _ => exact rfl
    | _ => exact trivial
  | _ => exact trivial

end Likeness

end ValueSchema
