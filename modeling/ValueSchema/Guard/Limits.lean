/-
The limits that guards enforce.
-/

set_option autoImplicit false

namespace ValueSchema

/-- Bounds on nesting, on the input and the text of patterns, and on the time of a match. -/
structure Limits where
  maxDepth : Nat
  maxRegexInputLen : Nat
  regexTimeoutMs : Nat
  maxPatternLen : Nat
deriving DecidableEq, Repr, Inhabited

namespace Limits

/-- The limits of a schema that sets none. -/
def standard : Limits := ⟨64, 10000, 100, 1000⟩

end Limits

end ValueSchema
