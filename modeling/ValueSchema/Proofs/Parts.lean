/-
Values part by part.

A container has parts, in the order in which it holds them: the elements of an array or a set, the
values of an object, the keys and the values of a map. Everything inside a value is reached from
it by going from a container to one of its parts, so a statement about values is proved by one
induction on parts, whatever the kinds of containers, and "so many containers deep" is the number
of steps on the way.
-/
import ValueSchema.Value.Basic

set_option autoImplicit false

namespace ValueSchema

namespace Value

/-- The values that a container holds. -/
def parts : Value → List Value
  | array _ items => items
  | object _ fields => fields.map Prod.snd
  | map _ entries => entries.flatMap fun e => [e.1, e.2]
  | set _ items => items
  | _ => []

/-- The parts of an object are the values of its entries. -/
theorem forall_mem_parts_object {p : Value → Prop} {id : Ident} {fields : List (String × Value)} :
    (∀ v ∈ (object id fields).parts, p v) ↔ ∀ f ∈ fields, p f.2 :=
  List.forall_mem_map

/-- The parts of a map are the keys and the values of its entries. -/
theorem forall_mem_parts_map {p : Value → Prop} {id : Ident} {entries : List (Value × Value)} :
    (∀ v ∈ (map id entries).parts, p v) ↔ ∀ e ∈ entries, p e.1 ∧ p e.2 := by
  simp only [parts, List.mem_flatMap, List.mem_cons, List.not_mem_nil, or_false]
  constructor
  · intro h e he
    exact ⟨h e.1 ⟨e, he, .inl rfl⟩, h e.2 ⟨e, he, .inr rfl⟩⟩
  · rintro h v ⟨e, he, rfl | rfl⟩
    · exact (h e he).1
    · exact (h e he).2

/-- A part is smaller than its container. -/
theorem sizeOf_lt_of_mem_parts {p v : Value} (h : p ∈ v.parts) : sizeOf p < sizeOf v := by
  cases v with
  | array id items =>
    have hlt : sizeOf p < sizeOf items := List.sizeOf_lt_of_mem h
    simp only [array.sizeOf_spec]
    omega
  | object id fields =>
    simp only [parts, List.mem_map] at h
    obtain ⟨f, hf, rfl⟩ := h
    have hlt := List.sizeOf_lt_of_mem hf
    obtain ⟨key, p⟩ := f
    simp only [Prod.mk.sizeOf_spec, object.sizeOf_spec] at hlt ⊢
    omega
  | map id entries =>
    simp only [parts, List.mem_flatMap, List.mem_cons, List.not_mem_nil, or_false] at h
    -- a key or a value lies inside its entry, and the entry inside the list
    obtain ⟨e, he, hp⟩ := h
    have hlt := List.sizeOf_lt_of_mem he
    obtain ⟨k, x⟩ := e
    simp only [Prod.mk.sizeOf_spec, map.sizeOf_spec] at hlt ⊢
    rcases hp with hp | hp <;> subst hp <;> omega
  | set id items =>
    have hlt : sizeOf p < sizeOf items := List.sizeOf_lt_of_mem h
    simp only [set.sizeOf_spec]
    omega
  | _ => exact absurd h List.not_mem_nil

/-- What holds of a value as soon as it holds of its parts holds of every value. -/
theorem induction {motive : Value → Prop}
    (node : ∀ v : Value, (∀ p ∈ v.parts, motive p) → motive v) (v : Value) : motive v :=
  node v fun p _ => induction node p
termination_by sizeOf v
decreasing_by exact sizeOf_lt_of_mem_parts ‹_›

/-- A value stands so many containers deep inside another one. -/
inductive Within (w : Value) : Nat → Value → Prop
  | self : Within w 0 w
  | part {n : Nat} {p v : Value} (hp : p ∈ v.parts) (h : Within w n p) : Within w (n + 1) v

end Value

end ValueSchema
