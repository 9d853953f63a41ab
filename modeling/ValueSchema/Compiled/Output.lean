/-
Outputs of accepted inputs.

Once a test has accepted an input, its output can be put together without paths, contexts and
issues. Often the output is the input itself, which is then shared. What is built is built at the
sites at which judging builds it, so the two differ in nothing but what is shared.
-/
import ValueSchema.Judgement.Object
import ValueSchema.Judgement.Entry
import ValueSchema.Judgement.Sequence
import ValueSchema.Judgement.Union
import ValueSchema.Judgement.Modified

set_option autoImplicit false

namespace ValueSchema

/-- The output of an accepted input: the input itself, or what is built from it at a site and a
depth. -/
inductive Output
  | same
  | build (f : Site → Value → Nat → Option Value)

namespace Output

/-- The output for an input. -/
def apply (o : Output) (s : Site) (v : Value) (depth : Nat) : Option Value :=
  match o with
  | same => some v
  | build f => f s v depth

def isSame : Output → Bool
  | same => true
  | build _ => false

/-- The outputs of all, if every one has its output. -/
def all? : List (Option Output) → Option (List Output)
  | [] => some []
  | none :: _ => none
  | some o :: rest => (all? rest).map (o :: ·)

/-! ## Objects and records -/

/-- The outputs of the declared fields from a position on. -/
def fieldsFrom (s : Site) (depth : Nat) (input : List (String × Value)) :
    Nat → List (String × Output) → Option (List (String × Value))
  | _, [] => some []
  | n, (key, o) :: rest => do
    let v ← o.apply (s.child n) (fieldOr key input) (depth + 1)
    let others ← fieldsFrom s depth input (n + 1) rest
    some (if v.isUndefined then others else (key, v) :: others)

/-- The output of an object. -/
def object (shape : Shape Output) : Output :=
  build fun s v depth =>
    match v with
    | .object _ input => do
      let fields ← fieldsFrom s depth input 0 shape.fields
      some (.object s.ident (fields ++ shape.unknown.kept (undeclared shape.keys input)))
    | v => some v

/-- The output of a record's entries from a position on. -/
def entriesFrom (keyOutput : Option Output) (valueOutput : Output) (s : Site) (depth : Nat) :
    Nat → List (String × Value) → Option (List (String × Value))
  | _, [] => some []
  | n, (key, v) :: rest => do
    let renamed ←
      match keyOutput with
      | some o => o.apply ((s.child n).child 0) (.string key) (depth + 1)
      | none => some (.string key)
    let output ← valueOutput.apply ((s.child n).child 1) v (depth + 1)
    let others ← entriesFrom keyOutput valueOutput s depth (n + 1) rest
    some (if output.isUndefined then others else (Record.outputKey key renamed, output) :: others)

/-- The output of a record. -/
def record (keyOutput : Option Output) (valueOutput : Output) : Output :=
  build fun s v depth =>
    match v with
    | .object _ input =>
      (entriesFrom keyOutput valueOutput s depth 0 input).map (Value.ofEntries s.ident)
    | v => some v

/-! ## Sequences, sets and maps -/

/-- The outputs of elements from a position on. -/
def itemsFrom (outputAt : Nat → Output) (s : Site) (depth : Nat) :
    Nat → List Value → Option (List Value)
  | _, [] => some []
  | n, v :: rest => do
    let output ← (outputAt n).apply (s.child n) v (depth + 1)
    let others ← itemsFrom outputAt s depth (n + 1) rest
    some (output :: others)

/-- The output of an array whose elements are built. -/
def items (outputAt : Nat → Output) : Output :=
  build fun s v depth =>
    match v with
    | .array _ elements => (itemsFrom outputAt s depth 0 elements).map (.array s.ident)
    | v => some v

/-- The output of an array: shared if its elements are. -/
def array (element : Output) : Output := if element.isSame then same else items fun _ => element

/-- The output of a tuple: shared if all its elements are. -/
def tuple (positional : List Output) (rest : Option Output) : Output :=
  if positional.all isSame && rest.all isSame then same
  else items fun n => (Tuple.childAt positional rest n).getD same

/-- The output of a set, built even from elements that are shared, as it is thinned out. -/
def set (element : Output) : Output :=
  build fun s v depth =>
    match v with
    | .set _ elements =>
      (itemsFrom (fun _ => element) s depth 0 elements).map (Value.ofElements s.ident)
    | v => some v

/-- The outputs of a map's entries from a position on. -/
def pairsFrom (keyOutput valueOutput : Output) (s : Site) (depth : Nat) :
    Nat → List (Value × Value) → Option (List (Value × Value))
  | _, [] => some []
  | n, (k, v) :: rest => do
    let key ← keyOutput.apply ((s.child n).child 0) k (depth + 1)
    let output ← valueOutput.apply ((s.child n).child 1) v (depth + 1)
    let others ← pairsFrom keyOutput valueOutput s depth (n + 1) rest
    some ((key, output) :: others)

/-- The output of a map: shared if its keys and values are. -/
def map (keyOutput valueOutput : Output) : Output :=
  if keyOutput.isSame && valueOutput.isSame then same
  else
    build fun s v depth =>
      match v with
      | .map _ entries =>
        (pairsFrom keyOutput valueOutput s depth 0 entries).map (.map s.ident)
      | v => some v

/-! ## Unions -/

/-- The output of the first option that passes. -/
def union (tests : List Test) (outputs : List Output) : Output :=
  build fun s v depth => do
    match ← Union.firstPassing? s v depth 0 tests with
    | some n => (outputs[n]?.getD same).apply (s.child n) v depth
    | none => some v

/-- The output of the option that the tag selects. -/
def tagged (discriminator : String) (literals : List (Option Value)) (outputs : List Output) :
    Output :=
  build fun s v depth =>
    match v with
    | .object _ fields =>
      match Tagged.select? discriminator literals fields with
      | some n => (outputs[n]?.getD same).apply (s.child n) v depth
      | none => some v
    | v => some v

/-! ## Modifiers -/

/-- The output where some values pass by a modifier. -/
def passing (passes : Value → Bool) (inner : Output) : Output :=
  if inner.isSame then same
  else build fun s v depth => if passes v then some v else inner.apply s v depth

/-- The output under a modifier; one that depends on the output of the schema inside has none. -/
def modified (m : Modifier) (innerTest : Test) (inner : Output) : Option Output :=
  match m with
  | .optional => some (inner.passing Value.isUndefined)
  | .nullable => some (inner.passing Value.isNull)
  | .nullish => some (inner.passing fun v => v.isUndefined || v.isNull)
  | .default standard =>
    some (build fun s v depth => inner.apply s (if v.isUndefined then standard else v) depth)
  | .fallback replacement =>
    some (build fun s v depth => do
      if ← innerTest s v depth then inner.apply s v depth else some replacement)
  | .refine _ _ => none
  | .superRefine _ => none
  | .transform _ => none
  | .preprocess _ => none
  | _ => some inner

end Output

end ValueSchema
