/-
Matching by marks.

A machine is a regular expression whose character classes carry a mark. Reading a character
moves the marks: a class is marked afterwards when it contains the character and the position
before the character could enter it. A text is searched by allowing an entry at every position;
it matches as soon as some mark, or the empty match, has reached the end of the expression.

Conditions on positions are decided by the two characters around the position, so they cost
nothing to carry along.
-/
import ValueSchema.Text.CodeSet
import ValueSchema.Text.Letter

set_option autoImplicit false

namespace ValueSchema

/-! ## Positions -/

/-- A condition on the characters before and after a position. -/
inductive Look
  | startText
  | endText
  | startLine
  | endLine
  | startLineCrlf
  | endLineCrlf
  | wordEdge (unicode : Bool)
  | wordInside (unicode : Bool)
  | wordStart (unicode : Bool)
  | wordFinish (unicode : Bool)
  | wordStartHalf (unicode : Bool)
  | wordFinishHalf (unicode : Bool)
deriving DecidableEq, Repr

/-- A character that words are made of: letters, marks, decimal digits, connectors and joiners,
or the ASCII ones among them. -/
def isWordChar (unicode : Bool) (c : Char) : Bool :=
  if c.toNat < 128 then c.isAlphanum || c = '_'
  else if !unicode then false
  else
    Text.Property.alphabetic.contains c || Text.Category.nonspacingMark.contains c
      || Text.Category.spacingMark.contains c || Text.Category.enclosingMark.contains c
      || Text.Category.decimalNumber.contains c
      || Text.Category.connectorPunctuation.contains c
      || Text.Property.joinControl.contains c

/-- The condition holds between two characters; none stands for an end of the text. -/
def Look.holds (l : Look) (before after : Option Char) : Bool :=
  let word (unicode : Bool) (c : Option Char) : Bool := c.any (isWordChar unicode)
  match l with
  | .startText => before.isNone
  | .endText => after.isNone
  | .startLine => before.isNone || before == some '\n'
  | .endLine => after.isNone || after == some '\n'
  | .startLineCrlf =>
    before.isNone || before == some '\n' || (before == some '\r' && after != some '\n')
  | .endLineCrlf =>
    after.isNone || after == some '\r' || (after == some '\n' && before != some '\r')
  | .wordEdge u => word u before != word u after
  | .wordInside u => word u before == word u after
  | .wordStart u => !word u before && word u after
  | .wordFinish u => word u before && !word u after
  | .wordStartHalf u => !word u before
  | .wordFinishHalf u => !word u after

/-! ## Machines -/

/-- A regular expression with marks on its classes. -/
inductive Machine
  | empty
  | look (l : Look)
  | class (marked : Bool) (set : Text.CodeSet)
  | either (a b : Machine)
  | seq (a b : Machine)
  | star (a : Machine)
deriving Inhabited

namespace Machine

/-- The expression matches the empty text at a position. -/
def nullable (before after : Option Char) : Machine → Bool
  | empty => true
  | look l => l.holds before after
  | .class _ _ => false
  | either a b => a.nullable before after || b.nullable before after
  | seq a b => a.nullable before after && b.nullable before after
  | star _ => true

/-- A mark can reach the end of the expression without reading on. -/
def final (before after : Option Char) : Machine → Bool
  | empty => false
  | look _ => false
  | .class marked _ => marked
  | either a b => a.final before after || b.final before after
  | seq a b => (a.final before after && b.nullable before after) || b.final before after
  | star a => a.final before after

/-- The marks after a character, `enter` telling whether a match may start before it. -/
def step (before : Option Char) (c : Char) (enter : Bool) : Machine → Machine
  | empty => empty
  | look l => look l
  | .class _ set => .class (enter && set.contains c) set
  | either a b => either (a.step before c enter) (b.step before c enter)
  | seq a b =>
    let through := (enter && a.nullable before (some c)) || a.final before (some c)
    seq (a.step before c enter) (b.step before c through)
  | star a => star (a.step before c (enter || a.final before (some c)))

/-- A match ends at the present position. -/
def accepts (before after : Option Char) (m : Machine) : Bool :=
  m.nullable before after || m.final before after

/-- A match starts and ends somewhere in the text that is left. -/
def search (before : Option Char) : List Char → Machine → Bool
  | [], m => m.accepts before none
  | c :: rest, m =>
    m.accepts before (some c) || search (some c) rest (m.step before c true)

/-- Some part of a text matches. -/
def isMatch (m : Machine) (s : String) : Bool := m.search none s.toList

/-! ## Building blocks -/

/-- A class without a mark. -/
def ofSet (s : Text.CodeSet) : Machine := .class false s

/-- Machines one after the other. -/
def sequence : List Machine → Machine
  | [] => empty
  | [m] => m
  | m :: rest => seq m (sequence rest)

/-- At most `n` copies, one inside the other. -/
def upTo (m : Machine) : Nat → Machine
  | 0 => empty
  | n + 1 => either (seq m (upTo m n)) empty

/-- `n` copies and then a tail. -/
def copies (m tail : Machine) : Nat → Machine
  | 0 => tail
  | n + 1 => seq m (copies m tail n)

/-- At least `min` copies, at most `max` when there is a bound. -/
def repeated (m : Machine) (min : Nat) : Option Nat → Machine
  | none => copies m (star m) min
  | some max => copies m (upTo m (max - min)) min

end Machine

end ValueSchema
