/-
Pure schemas are stable.

A schema is pure if no node of it maps a value to another one, and none tells apart what two runs
tell apart: the identities of containers and the order of keys. Each kind of node keeps stability,
so the evaluator of a pure schema is stable by induction on the schema, if references are; and they
are, however often definitions are unfolded, as an unfolding that runs out rejects nothing but
leaves the judgement open.
-/
import ValueSchema.Proofs.Idempotence.Choices
import ValueSchema.Proofs.Awaiting.Schemas
import ValueSchema.Proofs.Layer

set_option autoImplicit false

namespace ValueSchema

/-- A modifier maps nothing, and what it asks of an output it asks of all alike values. -/
def Modifier.Pure : Modifier → Prop
  | optional => True
  | nullable => True
  | nullish => True
  | message _ => True
  | refine check _ => ∀ a b : Value, a.WellKeyed → b.WellKeyed → a.Alike b → check a = check b
  | _ => False

theorem Shape.keys_map {σ τ : Type} (f : σ → τ) (shape : Shape σ) :
    (shape.map f).keys = shape.keys := by
  simp only [map, keys, Keyed.mapValues, Keyed.keys, List.map_map, Function.comp_def]

namespace Schema

/-- A node maps nothing: texts are put out as they are, constants are no containers, a shape
declares a field once, elements need not be unique, a tag is never undefined, and an intersection
has a branch. -/
def Pure : Schema → Prop
  | text t => t.transforms = []
  | number _ => True
  | integer _ => True
  | date _ => True
  | plain _ => True
  | literal v => v.isComposite = false
  | words _ => True
  | enumeration entries => ∀ e ∈ entries, e.2.isComposite = false
  | object shape => shape.keys.Nodup
  | array _ bounds => bounds.unique = false
  | tuple _ _ _ => True
  | record _ _ _ => True
  | map _ _ _ => True
  | tagged discriminator options =>
    ∀ o ∈ options, ∀ l, o.literal? discriminator = some l → l ≠ .undefined
  | intersection branches => branches ≠ []
  | lazy _ => True
  | modified m _ => m.Pure
  | _ => False

section

variable {resolve : Resolution} {s : Schema}

theorem find?_of_literal? {shape : Shape Schema} {key : String} {l : Value}
    (h : shape.literal? key = some l) : Keyed.find? key shape.fields = some (.literal l) := by
  unfold Shape.literal? Shape.find? at h
  split at h
  · cases h
    assumption
  · cases h

/-- The option of a tagged union keeps its tag. -/
theorem object_keeps_literal {shape : Shape Schema} (hshape : (object shape).Every Pure)
    {key : String} {l : Value} (hl : shape.literal? key = some l) (hdefined : l ≠ .undefined)
    {site : Site} {id : Ident} {xs : List (String × Value)} {c : Context} {o : Value}
    (hxs : (Keyed.keys xs).Nodup)
    (ho : ((object shape).evaluator .sync resolve).judge site (.object id xs) c = some (.ok o)) :
    ∃ tag, tag.isComposite = false ∧ Keyed.find? key xs = some tag
      ∧ o.part? (.field key) = some tag := by
  have hfind := find?_of_literal? hl
  have hplain : (literal l).Pure :=
    (hshape.child (mem_children_of_held (List.mem_map_of_mem (Keyed.mem_of_find? hfind)))).node
  rw [evaluator_eq_layer] at ho
  refine Shape.keeps_literal ?_ hxs ?_ hplain hdefined ho
  · rw [Shape.keys_map]
    exact hshape.node
  · simp only [Shape.map, Keyed.find?_mapValues, hfind, Option.map_some]
    rfl

/-- **Pure schemas are stable**, if references are. -/
theorem evaluator_stable (hs : s.Every Pure) (href : ∀ ref, (resolve ref).judge.Stable) :
    (s.evaluator .sync resolve).judge.Stable := by
  induction hs with
  | intro s node below ih =>
    have hbare := fun t (ht : t ∈ s.bare) => ih t (mem_children_of_bare ht)
    have hheld := fun t (ht : t ∈ s.held) => ih t (mem_children_of_held ht)
    rw [evaluator_eq_layer]
    cases s with
    | text t => exact .text node
    | number n => exact .number n
    | integer n => exact .integer n
    | date d => exact .date d
    | plain p => exact .plain p
    | literal l => exact .literal node
    | words options => exact .words options
    | enumeration entries => exact .enumeration node
    | object shape =>
      refine .object (by rw [Shape.keys_map]; exact node) fun f hf => ?_
      obtain ⟨g, hg, rfl⟩ := List.mem_map.mp hf
      exact hheld g.2 (List.mem_map_of_mem hg)
    | array element bounds => exact .array node (hheld element (by simp [held]))
    | tuple items rest limits =>
      refine .tuple fun j hj => ?_
      rcases List.mem_append.mp hj with hj | hj
      · obtain ⟨t, ht, rfl⟩ := List.mem_map.mp hj
        exact hheld t (List.mem_append_left _ ht)
      · obtain ⟨t, ht, rfl⟩ := Option.map_eq_some_iff.mp (Option.mem_toList.mp hj)
        exact hheld t (List.mem_append_right _ (Option.mem_toList.mpr ht))
    | record key value limits =>
      refine .record (fun j hj => ?_) (hheld value (by simp [held]))
      obtain ⟨t, ht, rfl⟩ := Option.map_eq_some_iff.mp hj
      exact hheld t (by simp [held, ht])
    | map key value limits =>
      exact .map (hheld key (by simp [held])) (hheld value (by simp [held]))
    | tagged discriminator options =>
      refine .tagged (fun j hj => ?_) fun n j hn site id xs c o hxs hselect ho => ?_
      · obtain ⟨shape, hshape, rfl⟩ := List.mem_map.mp hj
        exact hbare (.object shape) (List.mem_map_of_mem hshape)
      · obtain ⟨l, hl⟩ := Tagged.literal_of_select? hselect
        rw [Tagged.literals, List.getElem?_map] at hl
        rw [List.getElem?_map] at hn
        obtain ⟨shape, hshape, rfl⟩ := Option.map_eq_some_iff.mp hn
        rw [hshape] at hl
        have hmem := List.mem_of_getElem? hshape
        have hliteral : shape.literal? discriminator = some l := Option.some.inj hl
        exact object_keeps_literal (below _ (mem_children_of_bare (List.mem_map_of_mem hmem)))
          hliteral (node shape hmem l hliteral) hxs ho
    | intersection branches =>
      refine .intersection (fun h => node (List.map_eq_nil_iff.mp h)) fun j hj => ?_
      obtain ⟨t, ht, rfl⟩ := List.mem_map.mp hj
      exact hbare t ht
    | lazy ref => exact href ref
    | modified m inner =>
      have hinner := hbare inner (by simp [bare])
      cases m with
      | optional | nullable | nullish =>
        exact hinner.passing fun v hv => by cases v <;> first | exact ⟨rfl, rfl⟩ | cases hv
      | message text => exact hinner.message text
      | refine check text => exact hinner.refine text node
      | _ => exact node.elim
    | _ => exact node.elim

end

end Schema

/-- However often definitions are unfolded, pure ones are stable. -/
theorem Family.resolution_stable {family : Family} (hfamily : ∀ e ∈ family, e.2.Every Schema.Pure)
    (budget : Nat) (ref : Reference) : (family.resolution .sync budget ref).judge.Stable :=
  resolution_induction (motive := fun e => e.judge.Stable) .unresolved
    (fun e he _ href => Schema.evaluator_stable (hfamily e he) href) budget ref

end ValueSchema
