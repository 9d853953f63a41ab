/-
A vocabulary of caller's code.

Small predicates, mappers and statements of refiners that combine into the code a schema is
usually given. A mapper leaves a value that is not of its kind as it is.
-/
import ValueSchema.UserCode.Basic
import ValueSchema.Value.Equality
import ValueSchema.Decimal.Reading
import ValueSchema.Text.Occurrence

set_option autoImplicit false

namespace ValueSchema

/-- The characters of a text, or the elements or entries of a container. -/
def Value.length : Value → Nat
  | string s => s.length
  | array _ items => items.length
  | set _ items => items.length
  | object _ fields => fields.length
  | map _ entries => entries.length
  | _ => 0

/-- A text holds a text. -/
def Value.includes (part : String) : Value → Bool
  | string s => Text.occursIn part.toList s.toList
  | _ => false

/-! ## Predicates -/

namespace Predicate

/-- Decides without fail. -/
def ofBool (f : Value → Bool) : Predicate := fun v => .ok (f v)

def always (b : Bool) : Predicate := ofBool fun _ => b

def equals (expected : Value) : Predicate := ofBool fun v => v.equal expected

def hasType (name : String) : Predicate := ofBool fun v => v.typeName == name

def minLength (n : Nat) : Predicate := ofBool fun v => n ≤ v.length

def includes (part : String) : Predicate := ofBool (Value.includes part)

/-- A number above a bound. -/
def above (bound : Double) : Predicate :=
  ofBool fun v =>
    match v with
    | .number n => bound.lt n
    | _ => false

def hasField (key : String) : Predicate := ofBool fun v => (v.get? key).isSome

def negate (p : Predicate) : Predicate := fun v => (p v).map not

def crash (c : Crash) : Predicate := fun _ => .error c

/-- The same code, awaited. -/
def deferred (p : Predicate) : DeferredPredicate := fun v => .ok (p v)

/-- Code that crashes before there is anything to await. -/
def crashAtStart (c : Crash) : DeferredPredicate := fun _ => .error c

end Predicate

/-! ## Mappers -/

namespace Mapper

/-- Maps without fail and builds nothing. -/
def ofFunction (f : Value → Value) : Mapper := fun _ v => .ok (.ok (f v))

def keep : Mapper := ofFunction id

def constant (v : Value) : Mapper := ofFunction fun _ => v

def count : Mapper := ofFunction fun v => Value.ofCount v.length

def onNumber (f : Double → Double) : Mapper :=
  ofFunction fun v =>
    match v with
    | .number n => .number (f n)
    | v => v

def add (x : Double) : Mapper := onNumber fun n => n.add x

def reciprocal : Mapper := onNumber fun n => (Double.ofNat 1).div n

def append (suffix : String) : Mapper :=
  ofFunction fun v =>
    match v with
    | .string s => .string (s ++ suffix)
    | v => v

/-- Reads one to fifteen ASCII digits. -/
def digits : Mapper :=
  ofFunction fun v =>
    match v with
    | .string s =>
      if 1 ≤ s.length && s.length ≤ 15 && s.toList.all Char.isDigit then
        .number (Double.ofNat (Decimal.valueOfDigits s.toList))
      else v
    | v => v

/-- A field of an object, or undefined. -/
def field (key : String) : Mapper := ofFunction fun v => (v.get? key).getD .undefined

/-- A new array around the value. -/
def wrap : Mapper := fun site v => .ok (.ok (.array site.ident [v]))

def fail (message : String) : Mapper := fun _ _ => .ok (.error message)

def crash (c : Crash) : Mapper := fun _ _ => .error c

/-- The same code, awaited. -/
def deferred (m : Mapper) : DeferredMapper := fun site v => .ok (m site v)

end Mapper

/-! ## Refiners -/

/-- A statement of a refiner. -/
inductive Statement
  | report (r : Report)
  | reportPath
  | reportCount
  | when (condition : Predicate) (body : List Statement)
  | answer (b : Bool)
  | crash (c : Crash)
deriving Inhabited

namespace Statement

/-- How far a refiner has come: its reports, and its answer once it has ended. -/
structure Progress where
  reports : List Report
  ended : Option (Except Crash Bool)

namespace Progress

def start : Progress := ⟨[], none⟩

def report (p : Progress) (r : Report) : Progress := ⟨p.reports ++ [r], p.ended⟩

def finish (p : Progress) (answer : Except Crash Bool) : Progress := ⟨p.reports, some answer⟩

end Progress

mutual

/-- Runs one statement. -/
def run (path : String) (v : Value) (p : Progress) : Statement → Progress
  | report r => p.report r
  | reportPath => p.report (.here ("at <" ++ path ++ ">"))
  | reportCount => p.report (.here ("count " ++ Nat.repr p.reports.length))
  | when condition body =>
    match condition v with
    | .ok true => runAll path v p body
    | .ok false => p
    | .error c => p.finish (.error c)
  | answer b => p.finish (.ok b)
  | crash c => p.finish (.error c)

/-- Runs statements until one ends the refiner. -/
def runAll (path : String) (v : Value) (p : Progress) : List Statement → Progress
  | [] => p
  | s :: rest =>
    let next := run path v p s
    if next.ended.isSome then next else runAll path v next rest

end

/-- The refiner that runs statements; without an answer it accepts. -/
def refiner (body : List Statement) : Refiner := fun path v =>
  let p := runAll path v Progress.start body
  (p.reports, p.ended.getD (.ok true))

end Statement

end ValueSchema
