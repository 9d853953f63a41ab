/-
Four ways in which values agree.

Identity: containers are the same container, anything else agrees as under `sameValueZero`.
SameValueZero: NaN is itself, the zeros are one, containers go by identity. Structural
equality: numbers compare numerically, containers by their contents, fields of an object in any
order, and one container always equals itself. Content: numbers word for word, contents in
order, identity disregarded.
-/
import ValueSchema.Value.Basic

set_option autoImplicit false

namespace ValueSchema

namespace Value

/-! ## SameValueZero and identity -/

/-- Two values that are not containers agree, NaN being itself and the zeros one. -/
def samePrimitive : Value → Value → Bool
  | undefined, undefined => true
  | null, null => true
  | bool a, bool b => a == b
  | number a, number b => a.eq b || (a.isNaN && b.isNaN)
  | bigint a, bigint b => a == b
  | string a, string b => a == b
  | symbol a, symbol b => a.token == b.token
  | date a, date b => a == b
  | _, _ => false

/-- Two containers of one kind have one identity. -/
def sameContainer : Value → Value → Bool
  | array a _, array b _ => a == b
  | object a _, object b _ => a == b
  | map a _, map b _ => a == b
  | set a _, set b _ => a == b
  | _, _ => false

/-- Values agree with NaN equal to itself, the zeros one, and containers by identity. -/
def sameValueZero (a b : Value) : Bool := samePrimitive a b || sameContainer a b

/-- Containers are the same container; other values agree as under `sameValueZero`. -/
def identical (a b : Value) : Bool :=
  if a.isComposite || b.isComposite then sameContainer a b else samePrimitive a b

/-! ## Structural equality -/

mutual

/-- Equality of contents with numeric comparison of numbers: a value that holds NaN differs
from everything, unless both sides are one container. -/
def equal : Value → Value → Bool
  | undefined, undefined => true
  | null, null => true
  | bool a, bool b => a == b
  | number a, number b => a.eq b
  | bigint a, bigint b => a == b
  | string a, string b => a == b
  | symbol a, symbol b => a.token == b.token
  | date a, date b => a == b
  | array a xs, array b ys => a == b || equalItems xs ys
  | object a xs, object b ys => a == b || (xs.length == ys.length && equalFields xs ys)
  | map a xs, map b ys => a == b || equalEntries xs ys
  | set a xs, set b ys => a == b || equalItems xs ys
  | _, _ => false

def equalItems : List Value → List Value → Bool
  | [], [] => true
  | x :: xs, y :: ys => equal x y && equalItems xs ys
  | _, _ => false

/-- Every field on the left has an equal field on the right. -/
def equalFields : List (String × Value) → List (String × Value) → Bool
  | [], _ => true
  | (k, x) :: xs, ys =>
    (match Keyed.find? k ys with
      | some y => equal x y
      | none => false) && equalFields xs ys

def equalEntries : List (Value × Value) → List (Value × Value) → Bool
  | [], [] => true
  | (k, x) :: xs, (l, y) :: ys => equal k l && equal x y && equalEntries xs ys
  | _, _ => false

end

/-! ## Keys -/

/-- What a value is looked up by. -/
inductive Key
  | undefined
  | null
  | bool (b : Bool)
  | number (word : UInt64)
  | bigint (n : Int)
  | string (s : String)
  | symbol (token : String)
  | date (d : Option Timestamp)
  | ref (id : Ident)
deriving DecidableEq, Repr, Inhabited, Hashable

/-- The key under which values agree as under `sameValueZero`. -/
def key : Value → Key
  | undefined => .undefined
  | null => .null
  | bool b => .bool b
  | number n => .number n.keyWord
  | bigint n => .bigint n
  | string s => .string s
  | symbol s => .symbol s.token
  | date d => .date d
  | array id _ => .ref id
  | object id _ => .ref id
  | map id _ => .ref id
  | set id _ => .ref id

/-- The key that still tells the zeros apart. -/
def exactKey : Value → Key
  | number n => .number n.exactWord
  | v => v.key

/-- The least position whose key occurred before, given the keys already seen. -/
def repeatedFrom (seen : List Key) (position : Nat) : List Key → Option Nat
  | [] => none
  | k :: rest =>
    if seen.contains k then some position else repeatedFrom (k :: seen) (position + 1) rest

/-- The least position of an element that agrees with an earlier one. -/
def firstRepeat? (items : List Value) : Option Nat := repeatedFrom [] 0 (items.map key)

/-! ## Sets -/

/-- Adds an element that agrees with none present. -/
def addDistinct (acc : List Value) (v : Value) : List Value :=
  if acc.any fun w => w.sameValueZero v then acc else acc ++ [v]

/-- The elements in order, without those that agree with an earlier one. -/
def distinct (items : List Value) : List Value := items.foldl addDistinct []

/-- A set of elements; of those that agree the first is kept. -/
def ofElements (id : Ident) (items : List Value) : Value := set id (distinct items)

end Value

end ValueSchema
