/-
Classes of characters and the case mapping of texts.

Characters below 128 are decided without the tables. Lower-casing a text is not done letter by
letter: a capital sigma becomes a final sigma when a cased letter stands before it and none
after it, case-ignorable characters apart.
-/
import ValueSchema.Text.Unicode.Category
import ValueSchema.Text.Unicode.Property
import ValueSchema.Text.Unicode.CaseMap

set_option autoImplicit false

namespace ValueSchema.Text

/-! ## Classes -/

def isAsciiLetter (c : Char) : Bool := c.isAlpha

/-- White space: the blanks and line breaks of every script. -/
def isBlank (c : Char) : Bool :=
  if c.toNat < 128 then c = ' ' || (9 ≤ c.toNat && c.toNat ≤ 13)
  else Property.whiteSpace.contains c

/-- A letter or a number of any kind. -/
def isAlphanumeric (c : Char) : Bool :=
  if c.toNat < 128 then c.isAlphanum
  else
    Property.alphabetic.contains c || Category.decimalNumber.contains c
      || Category.letterNumber.contains c || Category.otherNumber.contains c

/-- A character that stands for itself in quoted text: assigned, visible, and no separator but
the plain space. -/
def isPrintable (c : Char) : Bool :=
  if c.toNat < 128 then 32 ≤ c.toNat && c.toNat < 127
  else
    [Category.uppercaseLetter, Category.lowercaseLetter, Category.titlecaseLetter,
      Category.modifierLetter, Category.otherLetter, Category.nonspacingMark,
      Category.spacingMark, Category.enclosingMark, Category.decimalNumber,
      Category.letterNumber, Category.otherNumber, Category.connectorPunctuation,
      Category.dashPunctuation, Category.openPunctuation, Category.closePunctuation,
      Category.initialPunctuation, Category.finalPunctuation, Category.otherPunctuation,
      Category.mathSymbol, Category.currencySymbol, Category.modifierSymbol,
      Category.otherSymbol].any fun s => s.contains c

/-- A character that joins the one before it into one grapheme. -/
def isGraphemeExtend (c : Char) : Bool :=
  if c.toNat < 128 then false else Property.graphemeExtend.contains c

/-- A letter that has a case. -/
def isCased (c : Char) : Bool :=
  if c.toNat < 128 then c.isAlpha else Property.cased.contains c

/-- A character that the sigma rule looks through. -/
def isCaseIgnorable (c : Char) : Bool := Property.caseIgnorable.contains c

/-! ## Trimming -/

/-- A text without the white space at its ends. -/
def trim (s : List Char) : List Char :=
  ((s.dropWhile isBlank).reverse.dropWhile isBlank).reverse

/-! ## Case -/

/-- The lower case of one letter, its place in a word disregarded. -/
def lowerChar (c : Char) : List Char :=
  if c.toNat < 128 then [c.toLower]
  else
    match CaseMap.lower.find? c.toNat with
    | none => [c]
    | some l => l.map Char.ofNat

/-- The upper case of one letter. -/
def upperChar (c : Char) : List Char :=
  if c.toNat < 128 then [c.toUpper]
  else
    match CaseMap.upper.find? c.toNat with
    | none => [c]
    | some l => l.map Char.ofNat

/-- The nearest character that is not case-ignorable is cased. -/
def reachesCased (s : List Char) : Bool :=
  match s.dropWhile isCaseIgnorable with
  | [] => false
  | c :: _ => isCased c

def capitalSigma : Char := 'Σ'

/-- Lower case, with the letters already passed in reverse order. -/
def lowerFrom (before : List Char) : List Char → List Char
  | [] => []
  | c :: after =>
    (if c = capitalSigma then
      (if reachesCased before && !reachesCased after then ['ς'] else ['σ'])
     else lowerChar c)
      ++ lowerFrom (c :: before) after

/-- The lower case of a text. -/
def toLower (s : List Char) : List Char := lowerFrom [] s

/-- The upper case of a text, letter by letter. -/
def toUpper (s : List Char) : List Char := s.flatMap upperChar

end ValueSchema.Text
