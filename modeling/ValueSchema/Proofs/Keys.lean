/-
The keys of values.

Values are looked up by their keys and compared as under SameValueZero, and the two are one notion.
What is no container is compared by what it is: numbers by the one word that all spellings of a
number share, symbols by their tokens. Containers are compared by identity, and here it matters that
an identity is that of one container: a key says which container it is of, but not of what kind, so
two values of one key agree as long as both lie in one heap. Agreement is an equivalence relation
without any such condition, since of two containers with one identity it compares the kinds as well.
-/
import ValueSchema.Proofs.Intersecting.Normal
import ValueSchema.Proofs.Origins.Values

set_option autoImplicit false

namespace ValueSchema

/-- A value lies in the heap, unless it is no container. -/
def Heap.Has (H : Heap) (v : Value) : Prop := v.isComposite = true → H.Holds v

namespace Value

variable {H : Heap} {v w : Value}

theorem MadeOf.has (h : v.MadeOf H.Holds) : H.Has v := h.holds

end Value

end ValueSchema
