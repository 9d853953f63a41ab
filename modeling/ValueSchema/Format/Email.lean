/-
The format of e-mail addresses.

A local part of letters, digits and the punctuation that may stand unquoted, an at sign, and a
domain of labels joined by points. A label has at most sixty-three letters, digits and hyphens
and neither starts nor ends with a hyphen. Everything is ASCII.
-/

set_option autoImplicit false

namespace ValueSchema.Format

/-- A character of the local part. -/
def isLocalChar (c : Char) : Bool :=
  c.isAlphanum || ".!#$%&'*+/=?^_`\x7b|\x7d~-".toList.contains c

/-- A label of a domain name. -/
def isLabel (s : List Char) : Bool :=
  !s.isEmpty && s.length ≤ 63 && s.all (fun c => c.isAlphanum || c = '-')
    && s.head? != some '-' && s.getLast? != some '-'

/-- The parts between separators, empty ones included. -/
def splitBy (separator : Char) : List Char → List (List Char)
  | [] => [[]]
  | c :: rest =>
    if c = separator then [] :: splitBy separator rest
    else
      match splitBy separator rest with
      | [] => [[c]]
      | part :: parts => (c :: part) :: parts

/-- The text is an e-mail address. -/
def isEmail (s : String) : Bool :=
  let chars := s.toList
  let name := chars.takeWhile (· != '@')
  match chars.dropWhile (· != '@') with
  | [] => false
  | _ :: domain =>
    !name.isEmpty && name.all isLocalChar && (splitBy '.' domain).all isLabel

end ValueSchema.Format
