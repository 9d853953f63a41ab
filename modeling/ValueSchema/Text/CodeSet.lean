/-
Sets of code points and maps on code points.

A set is an array of closed ranges, sorted and disjoint, so membership is a binary search and
the Boolean operations are merges. Sets and maps of a standard are written as text, in
hexadecimal: `41-5A 61-7A AA` is a set, `C4:E4 130:69+307` a map whose second entry has two
characters.
-/

set_option autoImplicit false

namespace ValueSchema.Text

/-! ## Hexadecimal text -/

/-- The value of a hexadecimal digit in either case. -/
def hexDigit? (c : Char) : Option Nat :=
  let n := c.toNat
  if 48 ≤ n ∧ n ≤ 57 then some (n - 48)
  else if 65 ≤ n ∧ n ≤ 70 then some (n - 55)
  else if 97 ≤ n ∧ n ≤ 102 then some (n - 87)
  else none

/-- The value of a run of hexadecimal digits; other characters count as nothing. -/
def hexValue (s : List Char) : Nat :=
  s.foldl (fun n c => (hexDigit? c).elim n fun d => n * 16 + d) 0

/-- The nonempty runs between separators. -/
def splitOn (separator : Char → Bool) (s : List Char) : List (List Char) :=
  let step := fun (c : Char) (acc : List Char × List (List Char)) =>
    if separator c then ([], if acc.1.isEmpty then acc.2 else acc.1 :: acc.2)
    else (c :: acc.1, acc.2)
  let (last, runs) := s.foldr step ([], [])
  if last.isEmpty then runs else last :: runs

def isSeparator (c : Char) : Bool := c = ' ' || c = '\n'

/-! ## Sets -/

/-- A set of code points: closed ranges in increasing order, no two of them touching. -/
structure CodeSet where
  ranges : Array (Nat × Nat)
deriving Repr, Inhabited

namespace CodeSet

/-- The range among `lo .. hi` that could hold a code point, by bisection. -/
def search (ranges : Array (Nat × Nat)) (n : Nat) (lo hi : Nat) : Bool :=
  if lo < hi then
    let mid := (lo + hi) / 2
    match ranges[mid]? with
    | none => false
    | some (first, last) =>
      if n < first then search ranges n lo mid
      else if last < n then search ranges n (mid + 1) hi
      else true
  else false
termination_by hi - lo

/-- Membership of a code point. -/
def has (s : CodeSet) (n : Nat) : Bool := search s.ranges n 0 s.ranges.size

/-- Membership of a character. -/
def contains (s : CodeSet) (c : Char) : Bool := s.has c.toNat

def empty : CodeSet := ⟨#[]⟩

/-- The greatest code point. -/
def top : Nat := 0x10FFFF

def all : CodeSet := ⟨#[(0, top)]⟩

def range (first last : Nat) : CodeSet :=
  if first ≤ last then ⟨#[(first, last)]⟩ else empty

def single (n : Nat) : CodeSet := ⟨#[(n, n)]⟩

/-- Ranges in order of their first point, with touching ones joined. -/
def join : List (Nat × Nat) → List (Nat × Nat)
  | [] => []
  | r :: rest =>
    match join rest with
    | [] => [r]
    | s :: more => if s.1 ≤ r.2 + 1 then (r.1, max r.2 s.2) :: more else r :: s :: more

/-- Two ordered lists of ranges in one order. -/
def interleave (a b : List (Nat × Nat)) : List (Nat × Nat) :=
  List.merge a b fun x y => x.1 ≤ y.1

def ofSorted (l : List (Nat × Nat)) : CodeSet := ⟨(join l).toArray⟩

/-- The set of any ranges, in any order; a range that ends before it starts is empty. -/
def ofRanges (l : List (Nat × Nat)) : CodeSet :=
  ofSorted ((l.filter fun r => r.1 ≤ r.2).mergeSort fun x y => x.1 ≤ y.1)

def union (a b : CodeSet) : CodeSet :=
  ofSorted (interleave a.ranges.toList b.ranges.toList)

/-- The gaps between ordered ranges, from `start` on. -/
def gaps (start : Nat) : List (Nat × Nat) → List (Nat × Nat)
  | [] => if start ≤ top then [(start, top)] else []
  | (first, last) :: rest =>
    if start < first then (start, first - 1) :: gaps (last + 1) rest
    else gaps (max start (last + 1)) rest

def complement (a : CodeSet) : CodeSet := ⟨(gaps 0 a.ranges.toList).toArray⟩

def inter (a b : CodeSet) : CodeSet := (a.complement.union b.complement).complement

def diff (a b : CodeSet) : CodeSet := a.inter b.complement

def symmDiff (a b : CodeSet) : CodeSet := (a.diff b).union (b.diff a)

/-- Every member is below 128. -/
def isAscii (a : CodeSet) : Bool :=
  match a.ranges.back? with
  | none => true
  | some (_, last) => last < 128

/-- The set written as hexadecimal code points and ranges. -/
def ofText (s : String) : CodeSet :=
  let entry (run : List Char) : Nat × Nat :=
    let first := hexValue (run.takeWhile (· != '-'))
    match run.dropWhile (· != '-') with
    | [] => (first, first)
    | _ :: last => (first, hexValue last)
  ⟨((splitOn isSeparator s.toList).map entry).toArray⟩

end CodeSet

/-! ## Maps -/

/-- A map from some code points to lists of code points, ordered by its arguments. -/
structure CodeMap where
  entries : Array (Nat × List Nat)
deriving Repr, Inhabited

namespace CodeMap

/-- The entry among `lo .. hi` of a code point, by bisection. -/
def search (entries : Array (Nat × List Nat)) (n : Nat) (lo hi : Nat) : Option (List Nat) :=
  if lo < hi then
    let mid := (lo + hi) / 2
    match entries[mid]? with
    | none => none
    | some (key, value) =>
      if n < key then search entries n lo mid
      else if key < n then search entries n (mid + 1) hi
      else some value
  else none
termination_by hi - lo

def find? (m : CodeMap) (n : Nat) : Option (List Nat) := search m.entries n 0 m.entries.size

/-- The map written as hexadecimal entries. -/
def ofText (s : String) : CodeMap :=
  let entry (run : List Char) : Nat × List Nat :=
    (hexValue (run.takeWhile (· != ':')),
      (splitOn (· == '+') ((run.dropWhile (· != ':')).drop 1)).map hexValue)
  ⟨((splitOn isSeparator s.toList).map entry).toArray⟩

end CodeMap

end ValueSchema.Text
