/-
From the syntax of a pattern to the machine that matches it.

Flags are applied on the way: a switch holds from where it stands to the end of the group around
it, across branches, and the flags of a group hold inside it. Without the flag `u` classes range
over ASCII; whatever would then have to match part of a character is refused.
-/
import ValueSchema.Pattern.Machine
import ValueSchema.Pattern.Reader
import ValueSchema.Text.Unicode.Names

set_option autoImplicit false

namespace ValueSchema.Pattern

open Text (CodeSet)

/-- The flags in force. The flag that swaps lazy and greedy operators has no say in whether
there is a match. -/
structure Mode where
  caseInsensitive : Bool
  multiLine : Bool
  dotMatchesNewLine : Bool
  unicode : Bool
  crlf : Bool
deriving DecidableEq, Repr

/-- The flags at the start of a pattern. -/
def Mode.initial : Mode := ⟨false, false, false, true, false⟩

def Mode.set (m : Mode) (f : PatternFlag) (on : Bool) : Mode :=
  match f with
  | .caseInsensitive => ⟨on, m.multiLine, m.dotMatchesNewLine, m.unicode, m.crlf⟩
  | .multiLine => ⟨m.caseInsensitive, on, m.dotMatchesNewLine, m.unicode, m.crlf⟩
  | .dotMatchesNewLine => ⟨m.caseInsensitive, m.multiLine, on, m.unicode, m.crlf⟩
  | .unicode => ⟨m.caseInsensitive, m.multiLine, m.dotMatchesNewLine, on, m.crlf⟩
  | .crlf => ⟨m.caseInsensitive, m.multiLine, m.dotMatchesNewLine, m.unicode, on⟩
  | .swapGreed => m
  | .ignoreWhitespace => m

def Mode.setAll (m : Mode) (fs : PatternFlags) : Mode :=
  fs.foldl (fun m e => m.set e.1 e.2) m

/-! ## Sets -/

/-- The ASCII letters of a set in both cases. -/
def foldAscii (s : CodeSet) : CodeSet :=
  let upper := s.inter (CodeSet.range 65 90)
  let lower := s.inter (CodeSet.range 97 122)
  let shift (f : Nat → Nat) (r : Nat × Nat) : Nat × Nat := (f r.1, f r.2)
  s.union ((CodeSet.ofSorted (upper.ranges.toList.map (shift (· + 32)))).union
    (CodeSet.ofSorted (lower.ranges.toList.map (shift (· - 32)))))

/-- A set with every character that simple case folding identifies with a member. -/
def foldUnicode (s : CodeSet) : CodeSet :=
  let others := Text.CaseMap.orbits.entries.toList.flatMap fun e =>
    if s.has e.1 then e.2.map fun n => (n, n) else []
  s.union (CodeSet.ofRanges others)

/-- Case folding as the flags ask, then the complement. In ASCII mode the outcome must be
ASCII. -/
def Mode.finish? (m : Mode) (negated : Bool) (s : CodeSet) : Option CodeSet :=
  let s := if m.caseInsensitive then (if m.unicode then foldUnicode s else foldAscii s) else s
  let s := if negated then s.complement else s
  if m.unicode || s.isAscii then some s else none

/-- The word characters as a set. -/
def wordSet : CodeSet :=
  Text.unionOf [Text.Property.alphabetic, Text.categoryGroup 'm', Text.Category.decimalNumber,
    Text.Category.connectorPunctuation, Text.Property.joinControl]

/-- The ASCII part of a one-letter class. -/
def asciiPerl (kind : PerlClass) : CodeSet :=
  match kind with
  | .digit => CodeSet.range 48 57
  | .space => CodeSet.ofRanges [(9, 13), (32, 32)]
  | .word => CodeSet.ofRanges [(48, 57), (65, 90), (95, 95), (97, 122)]

def unicodePerl (kind : PerlClass) : CodeSet :=
  match kind with
  | .digit => Text.Category.decimalNumber
  | .space => Text.Property.whiteSpace
  | .word => wordSet

/-- A one-letter class; case folding leaves it alone. -/
def Mode.perl? (m : Mode) (kind : PerlClass) (negated : Bool) : Option CodeSet :=
  if m.unicode then
    some (if negated then (unicodePerl kind).complement else unicodePerl kind)
  else if negated then none
  else some (asciiPerl kind)

/-- A class by its name, which takes the flag `u`. -/
def Mode.named? (m : Mode) (name : ClassName) (negated : Bool) : Option CodeSet :=
  if m.unicode then
    (match name with
      | .bare n => Text.setNamed? n
      | .valued p v => Text.setValued? p v).bind (m.finish? negated)
  else none

/-- A character may stand in a set: in ASCII mode it has to be ASCII. -/
def Mode.admits (m : Mode) (c : Char) : Bool := m.unicode || c.toNat < 128

mutual

/-- The set of a class item. -/
def itemSet? (m : Mode) : ClassItem → Option CodeSet
  | .literal c _ => if m.admits c then some (CodeSet.single c.toNat) else none
  | .range a b _ =>
    if m.admits a && m.admits b then some (CodeSet.range a.toNat b.toNat) else none
  | .ascii members negated => m.finish? negated (CodeSet.ofRanges members)
  | .perl kind negated => m.perl? kind negated
  | .named name negated => m.named? name negated
  | .bracketed negated set =>
    match classSet? m set with
    | some s => m.finish? negated s
    | none => none

/-- The set inside brackets, before folding and negation. -/
def classSet? (m : Mode) : ClassSet → Option CodeSet
  | .items l => itemSets? m l
  | .operation op left right =>
    match classSet? m left, classSet? m right with
    | some a, some b =>
      match m.finish? false a, m.finish? false b with
      | some a, some b =>
        some (match op with
          | .intersection => a.inter b
          | .difference => a.diff b
          | .symmetricDifference => a.symmDiff b)
      | _, _ => none
    | _, _ => none

def itemSets? (m : Mode) : List ClassItem → Option CodeSet
  | [] => some CodeSet.empty
  | i :: rest =>
    match itemSet? m i, itemSets? m rest with
    | some a, some b => some (a.union b)
    | _, _ => none

end

/-! ## Patterns -/

/-- Everything but line ends, or everything; ASCII mode has no dot. -/
def Mode.dot? (m : Mode) : Option CodeSet :=
  if !m.unicode then none
  else if m.dotMatchesNewLine then some CodeSet.all
  else if m.crlf then some (CodeSet.ofRanges [(10, 10), (13, 13)]).complement
  else some (CodeSet.single 10).complement

def Mode.look (m : Mode) (a : PatternAssertion) : Look :=
  match a with
  | .startText => .startText
  | .endText => .endText
  | .startLine =>
    if m.multiLine then (if m.crlf then .startLineCrlf else .startLine) else .startText
  | .endLine =>
    if m.multiLine then (if m.crlf then .endLineCrlf else .endLine) else .endText
  | .word .edge => .wordEdge m.unicode
  | .word .inside => .wordInside m.unicode
  | .word .start => .wordStart m.unicode
  | .word .finish => .wordFinish m.unicode
  | .word .startHalf => .wordStartHalf m.unicode
  | .word .finishHalf => .wordFinishHalf m.unicode

/-- A single character, in all its cases if the flags ask for it. A byte above 127 is no
character of its own in ASCII mode. -/
def Mode.literal? (m : Mode) (c : Char) (asByte : Bool) : Option CodeSet :=
  let s := CodeSet.single c.toNat
  if m.unicode then m.finish? false s
  else if asByte && 128 ≤ c.toNat then none
  else if m.caseInsensitive then some (foldAscii s)
  else some s

mutual

/-- The machine of a pattern, and the flags in force behind it. -/
def machine? (m : Mode) : Pattern → Option (Machine × Mode)
  | .empty => some (.empty, m)
  | .flags fs => some (.empty, m.setAll fs)
  | .literal c asByte => (m.literal? c asByte).map fun s => (Machine.ofSet s, m)
  | .dot => m.dot?.map fun s => (Machine.ofSet s, m)
  | .assertion a => some (.look (m.look a), m)
  | .perl kind negated => (m.perl? kind negated).map fun s => (Machine.ofSet s, m)
  | .named name negated => (m.named? name negated).map fun s => (Machine.ofSet s, m)
  | .bracketed negated set =>
    ((classSet? m set).bind (m.finish? negated)).map fun s => (Machine.ofSet s, m)
  | .repetition min max inner =>
    match machine? m inner with
    | some (a, after) => some (a.repeated min max, after)
    | none => none
  | .group kind inner =>
    let inside :=
      match kind with
      | .capturing => m
      | .plain fs => m.setAll fs
    match machine? inside inner with
    | some (a, _) => some (a, m)
    | none => none
  | .alternation branches => branchMachines? m branches
  | .concat parts => partMachines? m parts

def branchMachines? (m : Mode) : List Pattern → Option (Machine × Mode)
  | [] => some (.empty, m)
  | [p] => machine? m p
  | p :: rest =>
    match machine? m p with
    | some (a, m) =>
      match branchMachines? m rest with
      | some (b, m) => some (.either a b, m)
      | none => none
    | none => none

def partMachines? (m : Mode) : List Pattern → Option (Machine × Mode)
  | [] => some (.empty, m)
  | [p] => machine? m p
  | p :: rest =>
    match machine? m p with
    | some (a, m) =>
      match partMachines? m rest with
      | some (b, m) => some (.seq a b, m)
      | none => none
    | none => none

end

/-- The machine of a pattern under the initial flags. -/
def toMachine? (p : Pattern) : Option Machine := (machine? Mode.initial p).map Prod.fst

end ValueSchema.Pattern
