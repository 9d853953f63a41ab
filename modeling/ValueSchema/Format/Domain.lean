/-
Domain names.

A domain name is mapped character by character, split into labels at its points, and each label is
judged: labels in Punycode are decoded first, a label must not start with a mark, joiners stand
only where they make a difference, and labels of mixed writing direction keep the rules for such.
The ASCII characters that would end a host in a URL are not allowed.
-/
import ValueSchema.Format.Punycode
import ValueSchema.Format.Email
import ValueSchema.Text.Unicode.HostName
import ValueSchema.Text.Unicode.Category

set_option autoImplicit false

namespace ValueSchema.Format

open ValueSchema.Text

/-! ## Mapping -/

def isJoiner (c : Char) : Bool := c = '\u200c' || c = '\u200d'

/-- What a character stands for. -/
def mapHostChar (c : Char) : Option (List Char) :=
  if c.toNat < 128 then some [c.toLower]
  else if isJoiner c then some [c]
  else if HostName.ignored.contains c then some []
  else
    match HostName.asciiMap.find? c.toNat with
    | some codes => some (codes.map Char.ofNat)
    | none => if HostName.allowed.contains c then some [c] else none

/-- The mapped characters of a name, if all are allowed. -/
def mapHost? (s : List Char) : Option (List Char) := (s.mapM mapHostChar).map List.flatten

/-! ## Writing direction -/

/-- What a character says about the direction of writing. -/
inductive Direction
  | left
  | right
  | european
  | arabic
  | nonspacing
  | neutral
deriving DecidableEq, Repr

def directionOf (c : Char) : Direction :=
  if c.toNat < 128 then
    if c.isAlpha then .left else if c.isDigit then .european else .neutral
  else if HostName.rightToLeft.contains c then .right
  else if HostName.arabicNumber.contains c then .arabic
  else if HostName.europeanNumber.contains c then .european
  else if HostName.nonspacing.contains c then .nonspacing
  else if HostName.neutral.contains c || isJoiner c then .neutral
  else .left

/-- Some character of a label is written from right to left. -/
def hasRightToLeft (label : List Char) : Bool :=
  label.any fun c => directionOf c = .right || directionOf c = .arabic

/-- A label next to which right-to-left text may stand. -/
def keepsDirection (label : List Char) : Bool :=
  let directions := label.map directionOf
  let last := (directions.reverse.dropWhile (· == .nonspacing)).head?
  match directions.head? with
  | none => true
  | some .right =>
    !directions.contains .left
      && (last == some .right || last == some .european || last == some .arabic)
      && !(directions.contains .european && directions.contains .arabic)
  | some .left =>
    !directions.contains .right && !directions.contains .arabic
      && (last == some .left || last == some .european)
  | some _ => false

/-! ## Labels -/

def isMark (c : Char) : Bool :=
  if c.toNat < 128 then false
  else
    Category.nonspacingMark.contains c || Category.spacingMark.contains c
      || Category.enclosingMark.contains c

/-- Characters that joining passes over. -/
def isTransparent (c : Char) : Bool :=
  Category.nonspacingMark.contains c || Category.enclosingMark.contains c
    || (Category.format.contains c && !isJoiner c)

/-- Joiners come after a virama, and the one that keeps letters apart also between letters that
would join; `before` has the characters before, the nearest first. -/
def joinersFit (before : List Char) : List Char → Bool
  | [] => true
  | c :: rest =>
    let afterVirama := before.head?.any HostName.virama.contains
    let between :=
      (before.dropWhile isTransparent).head?.any HostName.joinsNext.contains
        && (rest.dropWhile isTransparent).head?.any HostName.joinsPrevious.contains
    (!isJoiner c || afterVirama || (c = '\u200c' && between)) && joinersFit (c :: before) rest

/-- A character that stands for itself. -/
def standsForItself (c : Char) : Bool :=
  if c.toNat < 128 then !c.isUpper
  else isJoiner c || (HostName.allowed.contains c && !HostName.mapped.contains c
    && !HostName.ignored.contains c)

/-- A label as it is read: one in Punycode is decoded and must have needed it. -/
def readLabel? (label : List Char) : Option (List Char) :=
  match label with
  | 'x' :: 'n' :: '-' :: '-' :: code =>
    match Punycode.decode? code with
    | some decoded =>
      if decoded.any (fun c => 128 ≤ c.toNat) && decoded.all standsForItself then some decoded
      else none
    | none => none
  | label => some label

/-- A label by itself is well formed. -/
def isHostLabel (label : List Char) : Bool := !label.head?.any isMark && joinersFit [] label

/-! ## Names -/

/-- An ASCII character that cannot stand in a domain name. -/
def isForbiddenInDomain (c : Char) : Bool :=
  c.toNat ≤ 32 || c.toNat = 127 || "#/:<>?@[\\]^|%".toList.contains c

/-- The domain name that a text stands for, mapped, if it is one. -/
def domain? (s : List Char) : Option (List Char) := do
  let mapped ← mapHost? s
  if mapped.any isForbiddenInDomain then none
  let labels ← (splitBy '.' mapped).mapM readLabel?
  if labels.all isHostLabel && (!labels.any hasRightToLeft || labels.all keepsDirection) then
    some mapped
  else none

end ValueSchema.Format
