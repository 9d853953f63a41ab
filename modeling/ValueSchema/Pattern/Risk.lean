/-
Patterns that a backtracking engine could run on for ever.

One walk over the text of a pattern looks for a repeated group that holds another repetition or
has branches that can start alike, for references back to a group, and for lookaround. The walk
knows groups, classes, escapes and repetitions only as far as it needs, so it also runs on
malformed text, and it errs on the side of caution: what it cannot tell apart it takes to
overlap.
-/
import ValueSchema.Text.Letter

set_option autoImplicit false

namespace ValueSchema

/-- Why a pattern is refused. -/
inductive PatternRisk
  | nestedQuantifier
  | overlappingAlternation
  | backreference
  | lookaround
  | tooLong
deriving DecidableEq, Repr

/-- The words for a risk in messages. -/
def PatternRisk.text : PatternRisk → String
  | .nestedQuantifier => "nested quantifier"
  | .overlappingAlternation => "quantified alternation with overlapping branches"
  | .backreference => "backreference"
  | .lookaround => "lookaround assertion"
  | .tooLong => "pattern too long"

namespace Risk

/-! ## Atoms -/

/-- What a branch can start with. -/
inductive Atom
  | char (c : Char)
  | digit
  | notDigit
  | word
  | notWord
  | space
  | notSpace
  | wide
  | empty
deriving DecidableEq, Repr

def isWord (c : Char) : Bool := Text.isAlphanumeric c || c = '_'

/-- An atom can match a character. -/
def Atom.contains (a : Atom) (c : Char) : Bool :=
  match a with
  | .char x => x == c
  | .digit => c.isDigit
  | .notDigit => !c.isDigit
  | .word => isWord c
  | .notWord => !isWord c
  | .space => Text.isBlank c
  | .notSpace => !Text.isBlank c
  | .wide => true
  | .empty => true

/-- Two classes have no character in common. -/
def Atom.apart (a b : Atom) : Bool :=
  match a, b with
  | .digit, .notDigit => true
  | .word, .notWord => true
  | .space, .notSpace => true
  | .digit, .space => true
  | .word, .space => true
  | .digit, .notWord => true
  | _, _ => false

/-- Two atoms can match one character. The empty branch and wide atoms overlap everything. -/
def Atom.overlaps (a b : Atom) : Bool :=
  match a, b with
  | .empty, _ => true
  | .wide, _ => true
  | _, .empty => true
  | _, .wide => true
  | .char c, b => b.contains c
  | a, .char c => a.contains c
  | a, b => a == b || !(a.apart b || b.apart a)

/-! ## Open groups -/

/-- An open group: whether it holds a repetition, and the first atom of each branch, the current
branch first. -/
structure Frame where
  quantified : Bool
  starts : List (Option Atom)

def Frame.new : Frame := ⟨false, [none]⟩

/-- Records the first atom of the current branch. -/
def Frame.saw (f : Frame) (a : Atom) : Frame :=
  match f.starts with
  | none :: rest => ⟨f.quantified, some a :: rest⟩
  | _ => f

def Frame.branch (f : Frame) : Frame := ⟨f.quantified, none :: f.starts⟩

def Frame.mark (f : Frame) (quantified : Bool) : Frame := ⟨f.quantified || quantified, f.starts⟩

/-- Some two members of a list overlap. -/
def anyOverlap : List Atom → Bool
  | [] => false
  | a :: rest => rest.any (fun b => a.overlaps b) || anyOverlap rest

/-- Two branches can start alike; a branch without an atom is empty. -/
def Frame.ambiguous (f : Frame) : Bool :=
  1 < f.starts.length && anyOverlap (f.starts.reverse.map fun s => s.getD .empty)

/-- What a quantifier would apply to. -/
inductive Target
  | simple
  | group (quantified ambiguous : Bool)

/-- The walk: the innermost open group, those around it, and what stands just before. -/
structure Scan where
  top : Frame
  below : List Frame
  last : Option Target

def Scan.start : Scan := ⟨Frame.new, [], none⟩

/-- An atom that can be repeated. -/
def Scan.atom (s : Scan) (a : Atom) : Scan := ⟨s.top.saw a, s.below, some .simple⟩

/-- Nothing that can be repeated stands before the next character. -/
def Scan.forget (s : Scan) : Scan := ⟨s.top, s.below, none⟩

def Scan.openGroup (s : Scan) : Scan := ⟨Frame.new, s.top.saw .wide :: s.below, none⟩

/-- Closes the innermost group; at the top level the bracket stands for itself. -/
def Scan.closeGroup (s : Scan) : Scan :=
  match s.below with
  | [] => ⟨s.top, [], some .simple⟩
  | parent :: below =>
    ⟨parent.mark s.top.quantified, below,
      some (.group s.top.quantified s.top.ambiguous)⟩

/-- A quantifier on what stands before: the risk, or the walk that goes on. A quantifier on
nothing changes nothing. -/
def Scan.quantify (s : Scan) (repeating : Bool) : Except PatternRisk Scan :=
  match s.last with
  | none => .ok s
  | some target =>
    let next : Scan := ⟨s.top.mark true, s.below, none⟩
    match target with
    | .group true _ => if repeating then .error .nestedQuantifier else .ok next
    | .group false true => if repeating then .error .overlappingAlternation else .ok next
    | _ => .ok next

/-! ## Tokens -/

/-- The text behind the first closing brace. -/
def afterBrace (s : List Char) : List Char := (s.dropWhile (· != '\x7d')).drop 1

/-- The inside of a class up to the end of its outermost bracket. -/
def skipBrackets : Nat → List Char → List Char
  | _, [] => []
  | depth, '\\' :: rest =>
    match rest with
    | [] => []
    | _ :: rest => skipBrackets depth rest
  | depth, c :: rest =>
    if c = '[' then skipBrackets (depth + 1) rest
    else if c = ']' then (if depth ≤ 1 then rest else skipBrackets (depth - 1) rest)
    else skipBrackets depth rest

/-- A class, behind its opening bracket. A closing bracket in front stands for itself. -/
def skipClass (s : List Char) : List Char :=
  let s := match s with
    | '^' :: rest => rest
    | s => s
  let s := match s with
    | ']' :: rest => rest
    | s => s
  skipBrackets 1 s

/-- How a group with a question mark goes on. -/
inductive Header
  | switch (rest : List Char)
  | group (rest : List Char)

/-- Up to a closing bracket, which makes a switch of flags, or a colon. -/
def skipFlags : List Char → Header
  | [] => .group []
  | c :: rest =>
    if c = ')' then .switch rest else if c = ':' then .group rest else skipFlags rest

/-- The head of a group, behind its question mark. -/
def skipHeader (s : List Char) : Header :=
  match s with
  | 'P' :: _ => .group ((s.dropWhile (· != '>')).drop 1)
  | '<' :: _ => .group ((s.dropWhile (· != '>')).drop 1)
  | s => skipFlags s

def isLookaround (s : List Char) : Bool :=
  match s with
  | '=' :: _ => true
  | '!' :: _ => true
  | '<' :: '=' :: _ => true
  | '<' :: '!' :: _ => true
  | _ => false

/-- Counts above this do not fit a machine word. -/
def countLimit : Nat := Nat.pow 2 64

/-- A count: decimal digits, a plus sign allowed in front. -/
def count? (s : List Char) : Option Nat :=
  let s := match s with
    | '+' :: rest => rest
    | s => s
  if s.isEmpty || !s.all Char.isDigit then none
  else
    let n := s.foldl (fun n c => n * 10 + (c.toNat - 48)) 0
    if n < countLimit then some n else none

/-- Whether the counts between braces allow more than one pass; none when they are no counts. -/
def repeats? (body : List Char) : Option Bool :=
  let low := Text.trim (body.takeWhile (· != ','))
  match body.dropWhile (· != ',') with
  | [] => (count? low).map fun n => decide (1 < n)
  | _ :: high =>
    match count? low with
    | none => none
    | some _ =>
      match Text.trim high with
      | [] => some true
      | high => (count? high).map fun n => decide (1 < n)

/-- A quantifier in braces, behind the opening one: whether it repeats, and the rest. -/
def braces? (s : List Char) : Option (Bool × List Char) :=
  match s.dropWhile (· != '\x7d') with
  | [] => none
  | _ :: rest => (repeats? (s.takeWhile (· != '\x7d'))).map fun b => (b, rest)

/-- A lazy or possessive mark belongs to its quantifier. -/
def skipMark (s : List Char) : List Char :=
  match s with
  | '?' :: rest => rest
  | '+' :: rest => rest
  | s => s

/-- What an escaped character is. -/
inductive Escape
  | atom (a : Atom)
  | named
  | anchor
  | backreference

def escapeOf (c : Char) (rest : List Char) : Escape :=
  match c with
  | 'b' => .anchor
  | 'B' => .anchor
  | 'A' => .anchor
  | 'z' => .anchor
  | 'Z' => .anchor
  | 'd' => .atom .digit
  | 'D' => .atom .notDigit
  | 'w' => .atom .word
  | 'W' => .atom .notWord
  | 's' => .atom .space
  | 'S' => .atom .notSpace
  | 'p' => .named
  | 'P' => .named
  | 'x' => .named
  | 'u' => .named
  | 'n' => .atom (.char '\n')
  | 't' => .atom (.char '\t')
  | 'r' => .atom (.char '\r')
  | c =>
    if c = 'k' && rest.head? == some '<' then .backreference
    else if '1' ≤ c && c ≤ '9' then .backreference
    else if c.isAlphanum then .atom .wide
    else .atom (.char c)

/-! ## The walk -/

/-- Goes on to the end of the text or to the first risk. Every step consumes a character. -/
def walk : Nat → Scan → List Char → Option PatternRisk
  | 0, _, _ => none
  | _ + 1, _, [] => none
  | fuel + 1, s, c :: rest =>
    let quantifier (repeating : Bool) (rest : List Char) : Option PatternRisk :=
      match s.quantify repeating with
      | .error risk => some risk
      | .ok s => walk fuel s (skipMark rest)
    match c with
    | '\\' =>
      match rest with
      | [] => none
      | e :: rest =>
        match escapeOf e rest with
        | .backreference => some .backreference
        | .anchor => walk fuel s.forget rest
        | .atom a => walk fuel (s.atom a) rest
        | .named =>
          walk fuel (s.atom .wide)
            (if rest.head? == some '\x7b' then afterBrace rest else rest)
    | '[' => walk fuel (s.atom .wide) (skipClass rest)
    | '(' =>
      match rest with
      | '?' :: rest =>
        if isLookaround rest then some .lookaround
        else
          match skipHeader rest with
          | .switch rest => walk fuel s rest
          | .group rest => walk fuel s.openGroup rest
      | rest => walk fuel s.openGroup rest
    | ')' => walk fuel s.closeGroup rest
    | '|' => walk fuel ⟨s.top.branch, s.below, none⟩ rest
    | '*' => quantifier true rest
    | '+' => quantifier true rest
    | '?' => quantifier false rest
    | '\x7b' =>
      match braces? rest with
      | some (repeating, rest) => quantifier repeating rest
      | none => walk fuel (s.atom (.char '\x7b')) rest
    | '^' => walk fuel s.forget rest
    | '$' => walk fuel s.forget rest
    | '.' => walk fuel (s.atom .wide) rest
    | c => walk fuel (s.atom (.char c)) rest

/-- The first risk of a pattern, if there is one. -/
def classify (pattern : List Char) : Option PatternRisk :=
  walk pattern.length Scan.start pattern

end Risk

end ValueSchema
