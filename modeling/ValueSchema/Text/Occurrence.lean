/-
Texts inside texts.
-/

set_option autoImplicit false

namespace ValueSchema.Text

/-- A text occurs inside another. -/
def occursIn (part : List Char) : List Char → Bool
  | [] => part.isEmpty
  | c :: rest => part.isPrefixOf (c :: rest) || occursIn part rest

end ValueSchema.Text
