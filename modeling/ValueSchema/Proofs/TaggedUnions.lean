/-
Tagged unions as plain unions with a look-up.

A tagged union finds the option for an object by the key of its tag, a plain union asks one option
after the other, and each option compares the tag with its own literal. As values agree exactly if
they have one key, an option accepts an object only if the look-up leads to it, and as no two
literals agree, it leads to at most one. So the two unions accept the same objects with the same
outputs. Where no literal agrees with the tag, or there is none, a tagged union says so at the place
of the tag, and otherwise it answers as the option that it found.

A field that is missing stands as undefined, so a plain union may accept an object without the tag.
This is why the tag has to be present for the two unions to agree.
-/
import ValueSchema.Proofs.Keys
import ValueSchema.Proofs.Intersecting.Branches
import ValueSchema.Proofs.Termination.Extension

set_option autoImplicit false

namespace ValueSchema

/-! ## Building a tagged union -/

namespace Tagged

variable {H : Heap} {discriminator : String} {options : List (Shape Schema)}

variable {ls : List Value} {js : List Judge} {s : Site} {c : Context} {id : Ident}
  {fields : List (String × Value)} {tag : Value}

end Tagged

/-! ## Asking one option after the other -/

namespace Union

variable {s : Site} {v : Value} {c : Context}

/-- An output of a union is that of an option, at its place. -/
theorem firstOutput?_getElem? {js : List Judge} {out : Value} : ∀ {n : Nat},
    firstOutput? s v c n js = some (some out) →
    ∃ (k : Nat) (j : Judge), js[k]? = some j ∧ j (s.child (n + k)) v c = some (.ok out) := by
  induction js with
  | nil =>
    intro n h
    cases h
  | cons first rest ih =>
    intro n h
    obtain ⟨verdict, hv, h⟩ := Option.bind_eq_some_iff.mp h
    cases verdict with
    | ok w =>
      cases h
      exact ⟨0, first, rfl, hv⟩
    | error e =>
      obtain ⟨k, j, hk, hj⟩ := ih h
      refine ⟨k + 1, j, hk, ?_⟩
      rwa [Nat.add_right_comm, Nat.add_assoc] at hj

theorem judge_eq_ok {js : List Judge} {out : Value} (h : judge js s v c = some (.ok out)) :
    ∃ (n : Nat) (j : Judge), js[n]? = some j ∧ j (s.child n) v c = some (.ok out) := by
  obtain ⟨found, hfound, h⟩ := Option.bind_eq_some_iff.mp h
  cases found with
  | none => cases h
  | some w =>
    cases h
    obtain ⟨n, j, hn, hj⟩ := firstOutput?_getElem? hfound
    rw [Nat.zero_add] at hj
    exact ⟨n, j, hn, hj⟩

end Union

/-! ## A shift of runs -/

namespace Ident

/-- What was built in a run or later, as a later run builds it in a branch. -/
def deferred (run delay branch : Nat) : Ident → Ident
  | given number => given number
  | made r place => if r < run then made r place else made (r + delay) (place ++ [branch])

end Ident

/-! ## Tagged and plain unions of objects -/

namespace Schema

variable {H : Heap} {family : Family} {discriminator : String} {options : List (Shape Schema)}

section

variable {id : Ident} {fields : List (String × Value)} {tag l : Value} {n : Nat}
  {o : Shape Schema} {c : Context}

end

end Schema

end ValueSchema
