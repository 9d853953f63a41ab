/-
The format of UUIDs: thirty-two hexadecimal digits in groups of 8, 4, 4, 4 and 12, joined by
hyphens.
-/
import ValueSchema.Format.Email

set_option autoImplicit false

namespace ValueSchema.Format

def isHexDigit (c : Char) : Bool :=
  c.isDigit || ('a' ≤ c && c ≤ 'f') || ('A' ≤ c && c ≤ 'F')

/-- The text is a UUID, of whatever version. -/
def isUuid (s : String) : Bool :=
  let groups := splitBy '-' s.toList
  groups.map List.length == [8, 4, 4, 4, 12] && groups.all fun g => g.all isHexDigit

end ValueSchema.Format
