/-
The syntax tree of patterns.

The tree keeps what is written: flags, classes with their set operations, bounded and unbounded
repetitions, groups. Nothing is expanded and no flag is applied; both are the work of
`Pattern.toMachine?`.
-/

set_option autoImplicit false

namespace ValueSchema

/-- A switch that can be turned on or off inside a pattern. -/
inductive PatternFlag
  | caseInsensitive
  | multiLine
  | dotMatchesNewLine
  | swapGreed
  | unicode
  | crlf
  | ignoreWhitespace
deriving DecidableEq, Repr

/-- Flags as written: each with the state it is set to. -/
abbrev PatternFlags := List (PatternFlag × Bool)

/-- What holds of the word characters on the two sides of a position. -/
inductive Boundary
  | edge
  | inside
  | start
  | finish
  | startHalf
  | finishHalf
deriving DecidableEq, Repr

/-- A condition on a position. -/
inductive PatternAssertion
  | startLine
  | endLine
  | startText
  | endText
  | word (b : Boundary)
deriving DecidableEq, Repr

/-- The classes with a one-letter escape. -/
inductive PerlClass
  | digit
  | space
  | word
deriving DecidableEq, Repr

/-- The class of a `\p` escape: a bare name, or a property and its value. -/
inductive ClassName
  | bare (name : String)
  | valued (property value : String)
deriving DecidableEq, Repr

/-- The operations on sets inside brackets. -/
inductive SetOperation
  | intersection
  | difference
  | symmetricDifference
deriving DecidableEq, Repr

mutual

/-- A part of a bracketed class. -/
inductive ClassItem
  | literal (c : Char) (asByte : Bool)
  | range (first last : Char) (asByte : Bool)
  | ascii (members : List (Nat × Nat)) (negated : Bool)
  | perl (kind : PerlClass) (negated : Bool)
  | named (name : ClassName) (negated : Bool)
  | bracketed (negated : Bool) (set : ClassSet)

/-- The inside of a bracketed class: items side by side, or an operation on two sets. -/
inductive ClassSet
  | items (l : List ClassItem)
  | operation (op : SetOperation) (left right : ClassSet)

end

/-- How a group is opened. -/
inductive GroupKind
  | capturing
  | plain (flags : PatternFlags)
deriving DecidableEq, Repr

/-- A pattern as written. A literal remembers whether it was written as a two-digit byte. -/
inductive Pattern
  | empty
  | flags (set : PatternFlags)
  | literal (c : Char) (asByte : Bool)
  | dot
  | assertion (a : PatternAssertion)
  | perl (kind : PerlClass) (negated : Bool)
  | named (name : ClassName) (negated : Bool)
  | bracketed (negated : Bool) (set : ClassSet)
  | repetition (min : Nat) (max : Option Nat) (inner : Pattern)
  | group (kind : GroupKind) (inner : Pattern)
  | alternation (branches : List Pattern)
  | concat (parts : List Pattern)

/-! ## Nesting -/

mutual

/-- The nesting of a class item. -/
def ClassItem.height : ClassItem → Nat
  | .bracketed _ set => set.height + 1
  | _ => 0

/-- The nesting of a class set; a list of two or more items is a level of its own. -/
def ClassSet.height : ClassSet → Nat
  | .items [] => 0
  | .items [i] => i.height
  | .items l => ClassItem.heightOfList l + 1
  | .operation _ left right => max left.height right.height + 1

def ClassItem.heightOfList : List ClassItem → Nat
  | [] => 0
  | i :: rest => max i.height (ClassItem.heightOfList rest)

end

mutual

/-- How deep groups, repetitions, branches and sequences are nested. -/
def Pattern.height : Pattern → Nat
  | .bracketed _ set => set.height + 1
  | .repetition _ _ inner => inner.height + 1
  | .group _ inner => inner.height + 1
  | .alternation branches => Pattern.heightOfList branches + 1
  | .concat parts => Pattern.heightOfList parts + 1
  | _ => 0

def Pattern.heightOfList : List Pattern → Nat
  | [] => 0
  | p :: rest => max p.height (Pattern.heightOfList rest)

end

end ValueSchema
