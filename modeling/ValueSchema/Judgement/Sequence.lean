/-
Arrays, tuples and sets.

The container comes first: its type, its depth, its size. Only one that is well formed has its
elements judged, all of them, each under its position. Elements of an array that agree as under
`sameValueZero` are repeats where an array has to be unique, and the same agreement thins out the
output of a set.
-/
import ValueSchema.Judgement.Basic
import ValueSchema.Guard.Object
import ValueSchema.Schema.Basic
import ValueSchema.Value.Equality

set_option autoImplicit false

namespace ValueSchema

/-! ## Sizes -/

/-- A bound that is set and broken. -/
def brokenBound? (broken : Nat → Bool) (bound : Option Nat) : Option Nat := bound.filter broken

/-- What is wrong with a container as a whole. -/
inductive SizeFault
  | fewer (bound : Nat)
  | more (bound : Nat)
  | other (length : Nat)
  | empty
  | repeated (index : Nat)
deriving DecidableEq, Repr

/-- The issue of a fault in an array or a tuple. -/
def SizeFault.issue (f : SizeFault) (noun : String) (c : Context) : Issue :=
  match f with
  | fewer bound =>
    (c.issue .arrayTooShort
      (noun ++ " must contain at least " ++ Nat.repr bound ++ " element(s)")).withDetail
      "minimum" (Value.ofCount bound)
  | more bound =>
    (c.issue .arrayTooLong
      (noun ++ " must contain at most " ++ Nat.repr bound ++ " element(s)")).withDetail
      "maximum" (Value.ofCount bound)
  | other length =>
    (c.issue .arrayInvalidLength
      (noun ++ " must contain exactly " ++ Nat.repr length ++ " element(s)")).withDetail
      "length" (Value.ofCount length)
  | empty => c.issue .arrayTooShort (noun ++ " must not be empty")
  | repeated index =>
    (c.issue .arrayNotUnique (noun ++ " elements must be unique")).withDetail
      "index" (Value.ofCount index)

/-- The elements of an array within the depth limit. -/
def guardedItems (limits : Limits) (c : Context) (v : Value) : Except Issue (List Value) :=
  match v with
  | .array _ items =>
    match Guard.checkDepth c.depth limits with
    | .ok () => .ok items
    | .error r => .error (r.issue c)
  | v => .error (c.typeMismatch .notArray "array" v)

/-- The elements of an array within the depth limit at a depth. -/
def guardedItems? (limits : Limits) (depth : Nat) (v : Value) : Option (List Value) :=
  match v with
  | .array _ items => if (Guard.checkDepth depth limits).isOk then some items else none
  | _ => none

/-! ## Arrays -/

namespace ArrayBounds

/-- The first fault of the elements: least size, greatest size, exact size, emptiness, repeats. -/
def fault? (b : ArrayBounds) (items : List Value) : Option SizeFault :=
  match brokenBound? (fun n => items.length < n) b.min with
  | some n => some (.fewer n)
  | none =>
    match brokenBound? (fun n => n < items.length) b.max with
    | some n => some (.more n)
    | none =>
      match brokenBound? (fun n => items.length != n) b.length with
      | some n => some (.other n)
      | none =>
        if b.nonempty && items.isEmpty then some .empty
        else if b.unique then (Value.firstRepeat? items).map .repeated
        else none

/-- Judges an array element by element. -/
def judge (b : ArrayBounds) (element : Judge) : Judge := fun s v c =>
  match guardedItems b.limits c v with
  | .error i => some (Verdict.reject i)
  | .ok items =>
    match b.fault? items with
    | some fault => some (Verdict.reject (fault.issue "Array" c))
    | none => do
      let verdicts ← judgeAll (fun _ => element) s c items
      some (Verdict.finish (Verdict.allIssues verdicts)
        (.array s.ident (Verdict.outputs verdicts)))

/-- Tests an array element by element. -/
def test (b : ArrayBounds) (element : Test) : Test := fun s v depth =>
  match guardedItems? b.limits depth v with
  | none => some false
  | some items =>
    if (b.fault? items).isNone then testAll (fun _ => element) s depth items else some false

end ArrayBounds

/-! ## Tuples -/

namespace Tuple

/-- What is wrong with the size of a tuple of so many places. -/
def fault? (places : Nat) (open_ : Bool) (size : Nat) : Option SizeFault :=
  if size < places then some (.fewer places)
  else if places < size && !open_ then some (.more places)
  else none

/-- The child that is in charge of a position: the one at its place, or the rest. -/
def childAt {σ : Type} (items : List σ) (rest : Option σ) (n : Nat) : Option σ :=
  match items[n]? with
  | some x => some x
  | none => rest

/-- Judges an array place by place. -/
def judge (items : List Judge) (rest : Option Judge) (limits : Limits) : Judge := fun s v c =>
  match guardedItems limits c v with
  | .error i => some (Verdict.reject i)
  | .ok elements =>
    match fault? items.length rest.isSome elements.length with
    | some fault => some (Verdict.reject (fault.issue "Tuple" c))
    | none => do
      let judgeAt (n : Nat) : Judge :=
        match childAt items rest n with
        | some judge => judge
        | none => fun _ v _ => some (.ok v)
      let verdicts ← judgeAll judgeAt s c elements
      some (Verdict.finish (Verdict.allIssues verdicts)
        (.array s.ident (Verdict.outputs verdicts)))

/-- Tests an array place by place. -/
def test (items : List Test) (rest : Option Test) (limits : Limits) : Test := fun s v depth =>
  match guardedItems? limits depth v with
  | none => some false
  | some elements =>
    if (fault? items.length rest.isSome elements.length).isNone then
      let testAt (n : Nat) : Test :=
        match childAt items rest n with
        | some test => test
        | none => fun _ _ _ => some false
      testAll testAt s depth elements
    else some false

end Tuple

/-! ## Sets -/

namespace SetBounds

/-- The issue of a set of the wrong size. -/
def fault? (b : SetBounds) (c : Context) (size : Nat) : Option Issue :=
  match brokenBound? (fun n => size < n) b.min with
  | some n =>
    some ((c.issue .setTooSmall
      ("Set must contain at least " ++ Nat.repr n ++ " element(s)")).withDetail
      "minimum" (Value.ofCount n))
  | none =>
    match brokenBound? (fun n => n < size) b.max with
    | some n =>
      some ((c.issue .setTooBig
        ("Set must contain at most " ++ Nat.repr n ++ " element(s)")).withDetail
        "maximum" (Value.ofCount n))
    | none => none

/-- A size is within the bounds. -/
def allows (b : SetBounds) (size : Nat) : Bool :=
  (brokenBound? (fun n => size < n) b.min).isNone
    && (brokenBound? (fun n => n < size) b.max).isNone

/-- Judges a set element by element. -/
def judge (b : SetBounds) (element : Judge) : Judge := fun s v c =>
  match v with
  | .set _ items =>
    match Guard.checkDepth c.depth b.limits with
    | .error r => some (Verdict.reject (r.issue c))
    | .ok () =>
      match b.fault? c items.length with
      | some i => some (Verdict.reject i)
      | none => do
        let verdicts ← judgeAll (fun _ => element) s c items
        some (Verdict.finish (Verdict.allIssues verdicts)
          (Value.ofElements s.ident (Verdict.outputs verdicts)))
  | v => some (Verdict.reject (c.typeMismatch .notSet "set" v))

/-- Tests a set element by element. -/
def test (b : SetBounds) (element : Test) : Test := fun s v depth =>
  match v with
  | .set _ items =>
    if (Guard.checkDepth depth b.limits).isOk && b.allows items.length then
      testAll (fun _ => element) s depth items
    else some false
  | _ => some false

end SetBounds

end ValueSchema
