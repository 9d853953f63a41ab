/-
The grammar of core patterns, and which of their groups are dangerous.

A core pattern is built from characters that stand for themselves, one-letter classes, plain
bracket classes and groups by concatenation, alternation and repetition. An item has at most one
quantifier, so none ever stands on a quantified item. The text of a core pattern is what its parts
are written as, one behind the other.

What is dangerous is said about the tree alone: a group that is repeated and holds a quantified
item, or two of whose own branches can start alike. The groups of a pattern are listed in the order
in which their brackets close.
-/
import ValueSchema.Proofs.Patterns.Atoms

set_option autoImplicit false

namespace ValueSchema.Core

open Risk (Atom)

/-! ## Syntax -/

/-- The members of a plain bracket class: at least one, and none that has a meaning there. -/
structure Members where
  chars : List Char
  nonempty : chars ≠ []
  plain : ∀ c ∈ chars, c ∉ ['[', ']', '^', '\\']

/-- An item that is not a group. -/
inductive Letter
  | literal (c : Char) (h : c ∉ Risk.operators)
  | dot
  | perl (kind : PerlClass) (negated : Bool)
  | escaped (c : Char) (h : c.isAlphanum = false)
  | brackets (negated : Bool) (members : Members)

/-- How often an item may stand. -/
inductive Quantity
  | star
  | plus
  | option
  | exactly (n : UInt64)
  | atLeast (n : UInt64)
  | between (n m : UInt64)

/-- A quantifier, which a question mark makes lazy. -/
structure Quantifier where
  quantity : Quantity
  lazy : Bool

mutual

/-- What a quantifier can stand on. -/
inductive Item
  | letter (x : Letter)
  | group (capturing : Bool) (body : Expression)

/-- Items one behind the other, each with the quantifier on it. -/
inductive Branch
  | empty
  | cons (item : Item) (quantifier : Option Quantifier) (rest : Branch)

/-- Branches to choose from, at least one. -/
inductive Expression
  | last (b : Branch)
  | or (b : Branch) (rest : Expression)

end

/-! ## Text -/

/-- The letter of a class of characters. -/
def perlLetter (kind : PerlClass) (negated : Bool) : Char :=
  match kind, negated with
  | .digit, false => 'd'
  | .digit, true => 'D'
  | .space, false => 's'
  | .space, true => 'S'
  | .word, false => 'w'
  | .word, true => 'W'

def Letter.text : Letter → List Char
  | .literal c _ => [c]
  | .dot => ['.']
  | .perl kind negated => ['\\', perlLetter kind negated]
  | .escaped c _ => ['\\', c]
  | .brackets negated members =>
    '[' :: ((if negated then ['^'] else []) ++ (members.chars ++ [']']))

/-- A count in decimal digits. -/
def countText (n : UInt64) : List Char := n.toNat.repr.toList

def Quantity.text : Quantity → List Char
  | .star => ['*']
  | .plus => ['+']
  | .option => ['?']
  | .exactly n => '\x7b' :: (countText n ++ ['\x7d'])
  | .atLeast n => '\x7b' :: (countText n ++ [',', '\x7d'])
  | .between n m => '\x7b' :: (countText n ++ ',' :: (countText m ++ ['\x7d']))

def Quantifier.text (q : Quantifier) : List Char :=
  q.quantity.text ++ if q.lazy then ['?'] else []

/-- Nothing is written for a quantifier that is not there. -/
def quantifierText : Option Quantifier → List Char
  | none => []
  | some q => q.text

mutual

def Item.text : Item → List Char
  | .letter x => x.text
  | .group capturing body =>
    '(' :: ((if capturing then [] else ['?', ':']) ++ (body.text ++ [')']))

def Branch.text : Branch → List Char
  | .empty => []
  | .cons item quantifier rest => item.text ++ (quantifierText quantifier ++ rest.text)

def Expression.text : Expression → List Char
  | .last b => b.text
  | .or b rest => b.text ++ '|' :: rest.text

end

/-! ## Branches -/

/-- What a letter starts with. -/
def Letter.atom : Letter → Atom
  | .literal c _ => .char c
  | .dot => .wide
  | .perl kind negated => .ofPerl kind negated
  | .escaped c _ => .char c
  | .brackets _ _ => .wide

/-- What an item starts with. A group can start with anything. -/
def Item.atom : Item → Atom
  | .letter x => x.atom
  | .group _ _ => .wide

def Branch.atom : Branch → Atom
  | .empty => .empty
  | .cons item _ _ => item.atom

/-- The first atoms of the branches. -/
def Expression.atoms : Expression → List Atom
  | .last b => [b.atom]
  | .or b rest => b.atom :: rest.atoms

mutual

/-- A quantified item stands in an item. -/
def Item.quantified : Item → Bool
  | .letter _ => false
  | .group _ body => body.quantified

/-- A quantified item stands in a branch, at any depth. -/
def Branch.quantified : Branch → Bool
  | .empty => false
  | .cons item quantifier rest => quantifier.isSome || item.quantified || rest.quantified

/-- A quantified item stands in an expression, at any depth. -/
def Expression.quantified : Expression → Bool
  | .last b => b.quantified
  | .or b rest => b.quantified || rest.quantified

end

/-- Two branches have first atoms that overlap. -/
def Expression.Ambiguous (e : Expression) : Prop :=
  ∃ a b, [a, b].Sublist e.atoms ∧ a.overlaps b = true

/-- The walk looks for two atoms that overlap among all of them. -/
theorem anyOverlap_iff {l : List Atom} :
    Risk.anyOverlap l = true ↔ ∃ a b, [a, b].Sublist l ∧ a.overlaps b = true := by
  constructor
  · intro h
    induction l with
    | nil => cases h
    | cons x l ih =>
      rw [Risk.anyOverlap, Bool.or_eq_true, List.any_eq_true] at h
      rcases h with ⟨b, hb, hover⟩ | h
      · exact ⟨x, b, (List.singleton_sublist.mpr hb).cons_cons x, hover⟩
      · obtain ⟨a, b, hsub, hover⟩ := ih h
        exact ⟨a, b, hsub.cons x, hover⟩
  · rintro ⟨a, b, hsub, hover⟩
    exact Risk.anyOverlap_of_sublist hsub hover

instance (e : Expression) : Decidable e.Ambiguous := decidable_of_iff _ anyOverlap_iff

/-! ## Groups -/

/-- A quantity that allows more than one pass. -/
def Quantity.repeats : Quantity → Bool
  | .star => true
  | .plus => true
  | .option => false
  | .exactly n => 1 < n
  | .atLeast _ => true
  | .between _ m => 1 < m

/-- A group where it stands: what is in it, and the quantifier on it. -/
structure Group where
  body : Expression
  quantifier : Option Quantifier

/-- The group is repeated. -/
def Group.Repeated (g : Group) : Prop := ∃ q ∈ g.quantifier, q.quantity.repeats = true

/-- The group is repeated, and what it holds can go around in several ways. -/
def Group.Dangerous (g : Group) : Prop :=
  g.Repeated ∧ (g.body.quantified = true ∨ g.body.Ambiguous)

instance (g : Group) : Decidable g.Repeated :=
  inferInstanceAs (Decidable (∃ q ∈ g.quantifier, q.quantity.repeats = true))

instance (g : Group) : Decidable g.Dangerous :=
  inferInstanceAs (Decidable (_ ∧ _))

/-- The risk of a dangerous group, where what is quantified inside comes first. -/
def Group.risk (g : Group) : PatternRisk :=
  if g.body.quantified then .nestedQuantifier else .overlappingAlternation

mutual

/-- The groups of an item with the quantifier on it, in the order in which they close. -/
def Item.groups (quantifier : Option Quantifier) : Item → List Group
  | .letter _ => []
  | .group _ body => body.groups ++ [⟨body, quantifier⟩]

/-- The groups of a branch, in the order in which they close. -/
def Branch.groups : Branch → List Group
  | .empty => []
  | .cons item quantifier rest => item.groups quantifier ++ rest.groups

/-- The groups of an expression, in the order in which they close. -/
def Expression.groups : Expression → List Group
  | .last b => b.groups
  | .or b rest => b.groups ++ rest.groups

end

end ValueSchema.Core
