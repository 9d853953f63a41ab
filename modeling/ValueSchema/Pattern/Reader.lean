/-
Reading patterns.

The reader walks the text once. Groups that are open are kept on a stack, each with what
precedes it and the flag state to return to; open brackets of a class are kept on a stack of
their own. Every step consumes a character, so the length of the text bounds the walk. Reading
fails on malformed text and on patterns nested too deeply, without saying where.
-/
import ValueSchema.Pattern.Syntax
import ValueSchema.Text.Letter
import ValueSchema.Text.CodeSet

set_option autoImplicit false

namespace ValueSchema.Pattern

/-! ## White space

With the flag `x`, white space and comments between tokens are skipped. -/

/-- Skips white space and comments; `comment` tells whether a comment is open. -/
def skipBlanks (comment : Bool) : List Char → List Char
  | [] => []
  | c :: rest =>
    if comment then skipBlanks (c ≠ '\n') rest
    else if Text.isBlank c then skipBlanks false rest
    else if c = '#' then skipBlanks true rest
    else c :: rest

/-- Skips what separates tokens when `verbose` holds. -/
def skip (verbose : Bool) (s : List Char) : List Char :=
  if verbose then skipBlanks false s else s

/-- The text behind a first character, separators skipped. -/
def next (verbose : Bool) (s : List Char) : List Char := skip verbose (s.drop 1)

/-- The text behind a prefix. -/
def dropPrefix? : List Char → List Char → Option (List Char)
  | [], s => some s
  | p :: ps, c :: s => if p = c then dropPrefix? ps s else none
  | _ :: _, [] => none

/-! ## Escapes -/

/-- What one primitive token is. -/
inductive Primitive
  | literal (c : Char) (asByte : Bool)
  | dot
  | assertion (a : PatternAssertion)
  | perl (kind : PerlClass) (negated : Bool)
  | named (name : ClassName) (negated : Bool)

def Primitive.toPattern : Primitive → Pattern
  | .literal c b => .literal c b
  | .dot => .dot
  | .assertion a => .assertion a
  | .perl k n => .perl k n
  | .named m n => .named m n

def isMeta (c : Char) : Bool := "\\.+*?()|[]\x7b\x7d^$#&-~".toList.contains c

/-- A character that an escape leaves as it is: punctuation and blanks, but no letter, digit or
angle bracket. -/
def isEscapable (c : Char) : Bool :=
  isMeta c || (c.toNat < 128 && !c.isAlphanum && c ≠ '<' && c ≠ '>')

/-- The character with a code point, unless it is no character. -/
def charOfCode? (n : Nat) : Option Char :=
  if n.isValidChar then some (Char.ofNat n) else none

/-- Exactly `count` hexadecimal digits, the first one in front. -/
def hexDigits (verbose : Bool) : Nat → List Char → List Char → Option (List Char × List Char)
  | 0, acc, s => some (acc.reverse, s)
  | n + 1, acc, c :: s =>
    match Text.hexDigit? c with
    | some _ => hexDigits verbose n (c :: acc) (skip verbose s)
    | none => none
  | _ + 1, _, [] => none

/-- Hexadecimal digits up to a closing brace, at least one. -/
def hexBrace (verbose : Bool) : Nat → List Char → List Char → Option (List Char × List Char)
  | 0, _, _ => none
  | _ + 1, _, [] => none
  | fuel + 1, acc, c :: s =>
    if c = '\x7d' then
      if acc.isEmpty then none else some (acc.reverse, skip verbose s)
    else
      match Text.hexDigit? c with
      | some _ => hexBrace verbose fuel (c :: acc) (skip verbose s)
      | none => none

/-- A character by its code point, behind the letter `x`, `u` or `U`. -/
def readHex (verbose : Bool) (letter : Char) (s : List Char) :
    Option (Primitive × List Char) := do
  let s := skip verbose s
  match s with
  | '\x7b' :: rest =>
    let (digits, rest) ← hexBrace verbose (rest.length + 1) [] (skip verbose rest)
    let c ← charOfCode? (Text.hexValue digits)
    some (.literal c false, rest)
  | _ =>
    let count := if letter = 'x' then 2 else if letter = 'u' then 4 else 8
    let (digits, rest) ← hexDigits verbose count [] s
    let c ← charOfCode? (Text.hexValue digits)
    some (.literal c (letter = 'x'), rest)

/-- The characters of a property name, up to a closing brace. -/
def nameInBraces (verbose : Bool) : Nat → List Char → List Char → Option (List Char × List Char)
  | 0, _, _ => none
  | _ + 1, _, [] => none
  | fuel + 1, acc, c :: s =>
    if c = '\x7d' then some (acc.reverse, s)
    else nameInBraces verbose fuel (c :: acc) (skip verbose s)

/-- The text before and behind the first occurrence of a separator. -/
def splitAtFirst? (separator : List Char) : List Char → List Char →
    Option (List Char × List Char)
  | acc, s =>
    match dropPrefix? separator s with
    | some rest => some (acc.reverse, rest)
    | none =>
      match s with
      | [] => none
      | c :: rest => splitAtFirst? separator (c :: acc) rest

/-- The name of a class and whether its separator negates it. -/
def className (name : List Char) : ClassName × Bool :=
  match splitAtFirst? ['!', '='] [] name with
  | some (p, v) => (.valued (String.ofList p) (String.ofList v), true)
  | none =>
    match splitAtFirst? [':'] [] name with
    | some (p, v) => (.valued (String.ofList p) (String.ofList v), false)
    | none =>
      match splitAtFirst? ['='] [] name with
      | some (p, v) => (.valued (String.ofList p) (String.ofList v), false)
      | none => (.bare (String.ofList name), false)

/-- A class by its name, behind the letter `p` or `P`. -/
def readNamed (verbose negated : Bool) (s : List Char) : Option (Primitive × List Char) := do
  match skip verbose s with
  | [] => none
  | '\x7b' :: rest =>
    let (name, rest) ← nameInBraces verbose (rest.length + 1) [] (skip verbose rest)
    let (name, flipped) := className name
    some (.named name (negated != flipped), rest)
  | '\\' :: _ => none
  | c :: rest => some (.named (.bare (String.singleton c)) negated, skip verbose rest)

def isBoundaryLetter (c : Char) : Bool := c.isAlpha || c = '-'

/-- The letters of a boundary name. -/
def boundaryName (verbose : Bool) : Nat → List Char → List Char → List Char × List Char
  | 0, acc, s => (acc.reverse, s)
  | _ + 1, acc, [] => (acc.reverse, [])
  | fuel + 1, acc, c :: s =>
    if isBoundaryLetter c then boundaryName verbose fuel (c :: acc) (skip verbose s)
    else (acc.reverse, c :: s)

/-- A word boundary, behind the letter `b`: plain, or with a name in braces. Braces whose first
character is no letter belong to a repetition. -/
def readBoundary (verbose : Bool) (s : List Char) : Option (Primitive × List Char) :=
  match s with
  | '\x7b' :: rest =>
    match skip verbose rest with
    | [] => none
    | c :: more =>
      if isBoundaryLetter c then
        let (name, rest) := boundaryName verbose (more.length + 1) [] (c :: more)
        match rest with
        | '\x7d' :: rest =>
          match String.ofList name with
          | "start" => some (.assertion (.word .start), rest)
          | "end" => some (.assertion (.word .finish), rest)
          | "start-half" => some (.assertion (.word .startHalf), rest)
          | "end-half" => some (.assertion (.word .finishHalf), rest)
          | _ => none
        | _ => none
      else some (.assertion (.word .edge), s)
  | _ => some (.assertion (.word .edge), s)

/-- An escape, behind its backslash. -/
def readEscape (verbose : Bool) : List Char → Option (Primitive × List Char)
  | [] => none
  | c :: s =>
    match c with
    | 'x' => readHex verbose c s
    | 'u' => readHex verbose c s
    | 'U' => readHex verbose c s
    | 'p' => readNamed verbose false s
    | 'P' => readNamed verbose true s
    | 'd' => some (.perl .digit false, s)
    | 'D' => some (.perl .digit true, s)
    | 's' => some (.perl .space false, s)
    | 'S' => some (.perl .space true, s)
    | 'w' => some (.perl .word false, s)
    | 'W' => some (.perl .word true, s)
    | 'a' => some (.literal '\x07' false, s)
    | 'f' => some (.literal '\x0c' false, s)
    | 't' => some (.literal '\t' false, s)
    | 'n' => some (.literal '\n' false, s)
    | 'r' => some (.literal '\r' false, s)
    | 'v' => some (.literal '\x0b' false, s)
    | 'A' => some (.assertion .startText, s)
    | 'z' => some (.assertion .endText, s)
    | 'b' => readBoundary verbose s
    | 'B' => some (.assertion (.word .inside), s)
    | '<' => some (.assertion (.word .start), s)
    | '>' => some (.assertion (.word .finish), s)
    | c => if isEscapable c then some (.literal c false, s) else none

/-- One token outside brackets that is no operator. -/
def readPrimitive (verbose : Bool) : List Char → Option (Primitive × List Char)
  | [] => none
  | '\\' :: s => readEscape verbose s
  | '.' :: s => some (.dot, s)
  | '^' :: s => some (.assertion .startLine, s)
  | '$' :: s => some (.assertion .endLine, s)
  | c :: s => some (.literal c false, s)

/-! ## Bracketed classes -/

/-- The classes that are written between colons. -/
def asciiClass? (name : String) : Option (List (Nat × Nat)) :=
  match name with
  | "alnum" => some [(48, 57), (65, 90), (97, 122)]
  | "alpha" => some [(65, 90), (97, 122)]
  | "ascii" => some [(0, 127)]
  | "blank" => some [(9, 9), (32, 32)]
  | "cntrl" => some [(0, 31), (127, 127)]
  | "digit" => some [(48, 57)]
  | "graph" => some [(33, 126)]
  | "lower" => some [(97, 122)]
  | "print" => some [(32, 126)]
  | "punct" => some [(33, 47), (58, 64), (91, 96), (123, 126)]
  | "space" => some [(9, 13), (32, 32)]
  | "upper" => some [(65, 90)]
  | "word" => some [(48, 57), (65, 90), (95, 95), (97, 122)]
  | "xdigit" => some [(48, 57), (65, 70), (97, 102)]
  | _ => none

/-- A class between colons, from its opening bracket on. -/
def readAsciiClass? (s : List Char) : Option (ClassItem × List Char) := do
  let s ← dropPrefix? ['[', ':'] s
  let (negated, s) :=
    match s with
    | '^' :: rest => (true, rest)
    | s => (false, s)
  let name := s.takeWhile (· != ':')
  let rest ← dropPrefix? [':', ']'] (s.dropWhile (· != ':'))
  let members ← asciiClass? (String.ofList name)
  some (.ascii members negated, rest)

/-- A bracket that is open, with what precedes it, or an operation that waits for its right
side. -/
inductive ClassFrame
  | opened (before : List ClassItem) (negated : Bool)
  | operation (op : SetOperation) (left : ClassSet)

/-- A class under way: the open brackets, and the items read since, last one first. -/
structure ClassState where
  stack : List ClassFrame
  items : List ClassItem

/-- The set read since the innermost bracket, with a waiting operation carried out. -/
def ClassState.close (st : ClassState) : ClassSet × List ClassFrame :=
  let set := ClassSet.items st.items.reverse
  match st.stack with
  | .operation op left :: rest => (.operation op left set, rest)
  | stack => (set, stack)

def ClassState.operate (st : ClassState) (op : SetOperation) : ClassState :=
  let (set, stack) := st.close
  ⟨.operation op set :: stack, []⟩

/-- Hyphens in front of a class stand for themselves. -/
def leadingHyphens (verbose : Bool) : Nat → List ClassItem → List Char →
    List ClassItem × List Char
  | 0, acc, s => (acc, s)
  | fuel + 1, acc, s =>
    match s with
    | '-' :: rest =>
      leadingHyphens verbose fuel (ClassItem.literal '-' false :: acc) (skip verbose rest)
    | s => (acc, s)

/-- Opens a bracket. A first closing bracket stands for itself, so no class is empty. -/
def openClass (verbose : Bool) (st : ClassState) (s : List Char) :
    Option (ClassState × List Char) :=
  let s := next verbose s
  let (negated, s) :=
    match s with
    | '^' :: rest => (true, skip verbose rest)
    | s => (false, s)
  let (items, s) := leadingHyphens verbose s.length [] s
  let (items, s) :=
    match items, s with
    | [], ']' :: rest => ([ClassItem.literal ']' false], skip verbose rest)
    | items, s => (items, s)
  if s.isEmpty then none else some (⟨.opened st.items negated :: st.stack, items⟩, s)

/-- One token inside brackets. -/
def readClassPrimitive (verbose : Bool) : List Char → Option (Primitive × List Char)
  | [] => none
  | '\\' :: s => readEscape verbose s
  | c :: s => some (.literal c false, s)

def Primitive.toItem? : Primitive → Option ClassItem
  | .literal c b => some (.literal c b)
  | .perl k n => some (.perl k n)
  | .named m n => some (.named m n)
  | .dot => none
  | .assertion _ => none

/-- What decides whether a hyphen makes a range: the first character behind it that is no blank,
one mark of a comment left out as well. Where there is none, whatever stands next. -/
def behindHyphen? (verbose : Bool) (s : List Char) : Option Char :=
  if verbose then
    let ahead :=
      match s.dropWhile Text.isBlank with
      | '#' :: rest => rest.dropWhile Text.isBlank
      | rest => rest
    ahead.head?.or s.head?
  else s.head?

/-- A token or a range of characters. A hyphen before a closing bracket or before another
hyphen makes no range. -/
def readClassRange (verbose : Bool) (s : List Char) : Option (ClassItem × List Char) := do
  let (first, s) ← readClassPrimitive verbose s
  let s := skip verbose s
  let single : Option (ClassItem × List Char) := do
    let item ← first.toItem?
    some (item, s)
  match s with
  | [] => none
  | '-' :: rest =>
    let ahead := behindHyphen? verbose rest
    if ahead = some ']' || ahead = some '-' then single
    else
      let (second, s) ← readClassPrimitive verbose (skip verbose rest)
      match first, second with
      | .literal a x, .literal b y =>
        if a ≤ b then some (.range a b (x || y), s) else none
      | _, _ => none
  | _ => single

/-- Reads brackets to the end. -/
def readClass (verbose : Bool) : Nat → ClassState → List Char →
    Option (Pattern × List Char)
  | 0, _, _ => none
  | fuel + 1, st, s =>
    match skip verbose s with
    | [] => none
    | '[' :: rest =>
      match (if st.stack.isEmpty then none else readAsciiClass? ('[' :: rest)) with
      | some (item, rest) => readClass verbose fuel ⟨st.stack, item :: st.items⟩ rest
      | none =>
        match openClass verbose st ('[' :: rest) with
        | some (st, rest) => readClass verbose fuel st rest
        | none => none
    | ']' :: rest =>
      let (set, stack) := st.close
      match stack with
      | .opened before negated :: below =>
        if below.isEmpty then some (.bracketed negated set, rest)
        else readClass verbose fuel ⟨below, .bracketed negated set :: before⟩ rest
      | _ => none
    | '&' :: '&' :: rest => readClass verbose fuel (st.operate .intersection) rest
    | '-' :: '-' :: rest => readClass verbose fuel (st.operate .difference) rest
    | '~' :: '~' :: rest => readClass verbose fuel (st.operate .symmetricDifference) rest
    | s =>
      match readClassRange verbose s with
      | some (item, rest) => readClass verbose fuel ⟨st.stack, item :: st.items⟩ rest
      | none => none

/-! ## Groups -/

def flag? (c : Char) : Option PatternFlag :=
  match c with
  | 'i' => some .caseInsensitive
  | 'm' => some .multiLine
  | 's' => some .dotMatchesNewLine
  | 'U' => some .swapGreed
  | 'u' => some .unicode
  | 'R' => some .crlf
  | 'x' => some .ignoreWhitespace
  | _ => none

/-- Flags up to a colon or a closing bracket, which is returned with the rest. A flag is written
once and so is the minus, behind which there is at least one flag. -/
def readFlags (negative afterMinus : Bool) (acc : PatternFlags) : List Char →
    Option (PatternFlags × List Char)
  | [] => none
  | c :: rest =>
    if c = ':' || c = ')' then
      if afterMinus then none else some (acc.reverse, c :: rest)
    else if c = '-' then
      if negative then none else readFlags true true acc rest
    else
      match flag? c with
      | none => none
      | some f =>
        if acc.any fun e => e.1 = f then none
        else readFlags negative false ((f, !negative) :: acc) rest

/-- The state that a list of flags gives to a flag. -/
def flagState? (f : PatternFlag) (set : PatternFlags) : Option Bool :=
  (set.find? fun e => e.1 = f).map Prod.snd

def isNameChar (first : Bool) (c : Char) : Bool :=
  if first then c = '_' || (Text.Property.alphabetic.contains c)
  else c = '_' || c = '.' || c = '[' || c = ']' || Text.isAlphanumeric c

/-- The name of a group, up to the closing angle bracket. -/
def readGroupName (acc : List Char) : List Char → Option (String × List Char)
  | [] => none
  | c :: rest =>
    if c = '>' then
      if acc.isEmpty then none else some (String.ofList acc.reverse, rest)
    else if isNameChar acc.isEmpty c then readGroupName (c :: acc) rest
    else none

/-- How a group opens: a switch of flags with nothing inside, or a group with the names that are
taken afterwards. -/
inductive Opening
  | switch (set : PatternFlags)
  | group (kind : GroupKind) (names : List String)

/-- The head of a group, behind its opening bracket. -/
def readOpening (names : List String) (s : List Char) : Option (Opening × List Char) :=
  let named (rest : List Char) : Option (Opening × List Char) := do
    let (name, rest) ← readGroupName [] rest
    if names.contains name then none else some (.group .capturing (name :: names), rest)
  match s with
  | '?' :: '=' :: _ => none
  | '?' :: '!' :: _ => none
  | '?' :: '<' :: '=' :: _ => none
  | '?' :: '<' :: '!' :: _ => none
  | '?' :: 'P' :: '<' :: rest => named rest
  | '?' :: '<' :: rest => named rest
  | '?' :: rest => do
    let (set, rest) ← readFlags false false [] rest
    match rest with
    | ')' :: rest => if set.isEmpty then none else some (.switch set, rest)
    | _ :: rest => some (.group (.plain set) names, rest)
    | [] => none
  | s => some (.group .capturing names, s)

/-! ## Repetitions -/

/-- Digits of a count, with blanks around them. -/
def readDecimal (verbose : Bool) (s : List Char) : Option Nat × List Char :=
  let s := s.dropWhile Text.isBlank
  let rec digits : Nat → List Char → List Char → List Char × List Char
    | 0, acc, s => (acc.reverse, s)
    | fuel + 1, acc, s =>
      match s with
      | c :: rest =>
        if c.isDigit then digits fuel (c :: acc) (skip verbose rest) else (acc.reverse, c :: rest)
      | [] => (acc.reverse, [])
  let (ds, s) := digits s.length [] s
  let n := ds.foldl (fun n c => n * 10 + (c.toNat - 48)) 0
  (if ds.isEmpty then none else some n, skip verbose (s.dropWhile Text.isBlank))

/-- Counts fit in thirty-two bits. -/
def countLimit : Nat := Nat.pow 2 32

/-- The bounds of a counted repetition, behind its opening brace. The least count is always
written. -/
def readCounts (verbose : Bool) (s : List Char) : Option (Nat × Option Nat × List Char) := do
  let (low, s) := readDecimal verbose (skip verbose s)
  let low ← low
  if countLimit ≤ low then none
  match s with
  | ',' :: rest =>
    match skip verbose rest with
    | '\x7d' :: rest => some (low, none, rest)
    | [] => none
    | rest =>
      let (high, s) := readDecimal verbose rest
      let high ← high
      if countLimit ≤ high then none
      match s with
      | '\x7d' :: rest => if low ≤ high then some (low, some high, rest) else none
      | _ => none
  | '\x7d' :: rest => some (low, some low, rest)
  | _ => none

/-- An operator applies to the pattern before it, which is neither empty nor a switch. -/
def repeatLast? (min : Nat) (max : Option Nat) : List Pattern → Option (List Pattern)
  | [] => none
  | .empty :: _ => none
  | .flags _ :: _ => none
  | p :: rest => some (.repetition min max p :: rest)

/-- The lazy mark behind an operator changes which match is found, never whether there is one. -/
def skipLazy : List Char → List Char
  | '?' :: rest => rest
  | s => s

/-! ## Whole patterns -/

/-- A group that is open: its head, the branches and the parts that precede it, and whether
separators were skipped outside it. -/
structure Frame where
  kind : GroupKind
  branches : List Pattern
  parts : List Pattern
  verbose : Bool

/-- A pattern under way. Branches and parts are those of the innermost open group, last one
first. -/
structure State where
  stack : List Frame
  branches : List Pattern
  parts : List Pattern
  verbose : Bool
  names : List String

/-- Parts side by side, as one pattern. -/
def ofParts : List Pattern → Pattern
  | [] => .empty
  | [p] => p
  | l => .concat l

/-- The pattern of the innermost open group. -/
def State.inner (st : State) : Pattern :=
  let last := ofParts st.parts.reverse
  match st.branches with
  | [] => last
  | branches => .alternation (branches.reverse ++ [last])

def State.push (st : State) (p : Pattern) : State :=
  ⟨st.stack, st.branches, p :: st.parts, st.verbose, st.names⟩

def State.withParts (st : State) (parts : List Pattern) : State :=
  ⟨st.stack, st.branches, parts, st.verbose, st.names⟩

/-- Reads a pattern to the end of the text. -/
def readFrom : Nat → State → List Char → Option Pattern
  | 0, _, _ => none
  | fuel + 1, st, s =>
    match skip st.verbose s with
    | [] => if st.stack.isEmpty then some st.inner else none
    | '(' :: rest =>
      match readOpening st.names (skip st.verbose rest) with
      | none => none
      | some (.switch set, rest) =>
        readFrom fuel
          ⟨st.stack, st.branches, Pattern.flags set :: st.parts,
            (flagState? .ignoreWhitespace set).getD st.verbose, st.names⟩ rest
      | some (.group kind names, rest) =>
        let verbose :=
          match kind with
          | .plain set => (flagState? .ignoreWhitespace set).getD st.verbose
          | .capturing => st.verbose
        readFrom fuel
          ⟨⟨kind, st.branches, st.parts, st.verbose⟩ :: st.stack, [], [], verbose, names⟩ rest
    | ')' :: rest =>
      match st.stack with
      | [] => none
      | frame :: below =>
        readFrom fuel
          ⟨below, frame.branches, .group frame.kind st.inner :: frame.parts, frame.verbose,
            st.names⟩ rest
    | '|' :: rest =>
      readFrom fuel
        ⟨st.stack, ofParts st.parts.reverse :: st.branches, [], st.verbose, st.names⟩ rest
    | '[' :: rest =>
      match readClass st.verbose (rest.length + 2) ⟨[], []⟩ ('[' :: rest) with
      | none => none
      | some (p, rest) => readFrom fuel (st.push p) rest
    | '?' :: rest =>
      match repeatLast? 0 (some 1) st.parts with
      | none => none
      | some parts => readFrom fuel (st.withParts parts) (skipLazy rest)
    | '*' :: rest =>
      match repeatLast? 0 none st.parts with
      | none => none
      | some parts => readFrom fuel (st.withParts parts) (skipLazy rest)
    | '+' :: rest =>
      match repeatLast? 1 none st.parts with
      | none => none
      | some parts => readFrom fuel (st.withParts parts) (skipLazy rest)
    | '\x7b' :: rest =>
      match readCounts st.verbose rest with
      | none => none
      | some (low, high, rest) =>
        match repeatLast? low high st.parts with
        | none => none
        | some parts => readFrom fuel (st.withParts parts) (skipLazy (skip st.verbose rest))
    | s =>
      match readPrimitive st.verbose s with
      | none => none
      | some (p, rest) => readFrom fuel (st.push p.toPattern) rest

/-- The deepest nesting that is read. -/
def maxHeight : Nat := 250

/-- The pattern of a text, unless the text is malformed or too deeply nested. -/
def read? (s : String) : Option Pattern := do
  let chars := s.toList
  let p ← readFrom (chars.length + 1) ⟨[], [], [], false, []⟩ chars
  if p.height ≤ maxHeight then some p else none

end ValueSchema.Pattern
