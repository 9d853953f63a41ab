/-
Character sets by name.

Categories, binary properties and scripts are found under their long and short names. Names are
compared without regard to case, blanks, hyphens and underscores, and a leading `is` counts for
nothing. A bare name is looked for among the properties first, then the categories, then the
scripts; the names `sc`, `cf` and `lc` always mean categories.
-/
import ValueSchema.Text.Unicode.Category
import ValueSchema.Text.Unicode.Property
import ValueSchema.Text.Unicode.Script

set_option autoImplicit false

namespace ValueSchema.Text

/-! ## Names -/

def isNameNoise (c : Char) : Bool := c = ' ' || c = '_' || c = '-'

/-- Letters in lower case, noise and characters beyond ASCII left out. -/
def plainName (s : List Char) : List Char :=
  (s.filter fun c => c.toNat < 128 && !isNameNoise c).map Char.toLower

/-- The form in which names are compared. A name that is nothing but `c` behind its prefix is
left whole, for it is the short name of another property. -/
def normalName (name : String) : String :=
  match name.toList with
  | a :: b :: rest =>
    if a.toLower = 'i' && b.toLower = 's' then
      match plainName rest with
      | ['c'] => "isc"
      | l => String.ofList l
    else String.ofList (plainName name.toList)
  | l => String.ofList (plainName l)

/-! ## Categories -/

def unionOf (l : List CodeSet) : CodeSet := l.foldl CodeSet.union CodeSet.empty

/-- Code points that are no characters by themselves. -/
def surrogates : CodeSet := CodeSet.range 0xD800 0xDFFF

/-- The categories with their short and long names. -/
def categories : List (String × String × CodeSet) :=
  [ ("lu", "uppercaseletter", Category.uppercaseLetter),
    ("ll", "lowercaseletter", Category.lowercaseLetter),
    ("lt", "titlecaseletter", Category.titlecaseLetter),
    ("lm", "modifierletter", Category.modifierLetter),
    ("lo", "otherletter", Category.otherLetter),
    ("mn", "nonspacingmark", Category.nonspacingMark),
    ("mc", "spacingmark", Category.spacingMark),
    ("me", "enclosingmark", Category.enclosingMark),
    ("nd", "decimalnumber", Category.decimalNumber),
    ("nl", "letternumber", Category.letterNumber),
    ("no", "othernumber", Category.otherNumber),
    ("pc", "connectorpunctuation", Category.connectorPunctuation),
    ("pd", "dashpunctuation", Category.dashPunctuation),
    ("ps", "openpunctuation", Category.openPunctuation),
    ("pe", "closepunctuation", Category.closePunctuation),
    ("pi", "initialpunctuation", Category.initialPunctuation),
    ("pf", "finalpunctuation", Category.finalPunctuation),
    ("po", "otherpunctuation", Category.otherPunctuation),
    ("sm", "mathsymbol", Category.mathSymbol),
    ("sc", "currencysymbol", Category.currencySymbol),
    ("sk", "modifiersymbol", Category.modifierSymbol),
    ("so", "othersymbol", Category.otherSymbol),
    ("zs", "spaceseparator", Category.spaceSeparator),
    ("zl", "lineseparator", Category.lineSeparator),
    ("zp", "paragraphseparator", Category.paragraphSeparator),
    ("cc", "control", Category.control),
    ("cf", "format", Category.format),
    ("co", "privateuse", Category.privateUse) ]

/-- Everything that has a category but that of unassigned code points. -/
def assigned : CodeSet := (unionOf (categories.map fun e => e.2.2)).union surrogates

/-- The categories whose short name starts with a letter. -/
def categoryGroup (letter : Char) : CodeSet :=
  unionOf ((categories.filter fun e => e.1.toList.head? == some letter).map fun e => e.2.2)

/-- Groups of categories and the names that follow no scheme. -/
def specialCategory? (name : String) : Option CodeSet :=
  match name with
  | "any" => some CodeSet.all
  | "assigned" => some assigned
  | "ascii" => some (CodeSet.range 0 127)
  | "l" => some (categoryGroup 'l')
  | "letter" => some (categoryGroup 'l')
  | "lc" => some (unionOf [Category.uppercaseLetter, Category.lowercaseLetter,
      Category.titlecaseLetter])
  | "casedletter" => some (unionOf [Category.uppercaseLetter, Category.lowercaseLetter,
      Category.titlecaseLetter])
  | "m" => some (categoryGroup 'm')
  | "mark" => some (categoryGroup 'm')
  | "combiningmark" => some (categoryGroup 'm')
  | "n" => some (categoryGroup 'n')
  | "number" => some (categoryGroup 'n')
  | "p" => some (categoryGroup 'p')
  | "punctuation" => some (categoryGroup 'p')
  | "punct" => some (categoryGroup 'p')
  | "s" => some (categoryGroup 's')
  | "symbol" => some (categoryGroup 's')
  | "z" => some (categoryGroup 'z')
  | "separator" => some (categoryGroup 'z')
  | "c" => some ((categoryGroup 'c').union (surrogates.union assigned.complement))
  | "other" => some ((categoryGroup 'c').union (surrogates.union assigned.complement))
  | "cn" => some assigned.complement
  | "unassigned" => some assigned.complement
  | "cs" => some surrogates
  | "surrogate" => some surrogates
  | "digit" => some Category.decimalNumber
  | "cntrl" => some Category.control
  | _ => none

def category? (name : String) : Option CodeSet :=
  match specialCategory? name with
  | some s => some s
  | none => (categories.find? fun e => e.1 == name || e.2.1 == name).map fun e => e.2.2

/-! ## Properties and scripts -/

def property? (name : String) : Option CodeSet :=
  if name = "space" then some Property.whiteSpace
  else
    (Property.named.find? fun e =>
      normalName e.short == name || normalName e.name == name).map fun e => e.members

def scriptIn? (entries : List Script.Entry) (name : String) : Option CodeSet :=
  let name :=
    match name with
    | "qaac" => "coptic"
    | "qaai" => "inherited"
    | n => n
  (entries.find? fun e => normalName e.code == name || normalName e.name == name).map
    fun e => e.members

def script? (name : String) : Option CodeSet := scriptIn? Script.own name

def extendedScript? (name : String) : Option CodeSet :=
  (scriptIn? Script.extended name).orElse fun _ => script? name

/-! ## Look-up -/

/-- The set that a bare name means. -/
def setNamed? (name : String) : Option CodeSet :=
  let n := normalName name
  let asProperty := if n = "cf" || n = "sc" || n = "lc" then none else property? n
  (asProperty.orElse fun _ => category? n).orElse fun _ => script? n

/-- The set of the characters for which a property has a value. -/
def setValued? (property value : String) : Option CodeSet :=
  let v := normalName value
  match normalName property with
  | "gc" => category? v
  | "generalcategory" => category? v
  | "sc" => script? v
  | "script" => script? v
  | "scx" => extendedScript? v
  | "scriptextensions" => extendedScript? v
  | _ => none

end ValueSchema.Text
