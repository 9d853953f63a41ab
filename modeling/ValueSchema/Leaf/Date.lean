/-
Schemas of dates.

An invalid date is a date of the wrong kind of content, not of the wrong type. Of the two bounds
the earlier one is looked at first.
-/
import ValueSchema.Context

set_option autoImplicit false

namespace ValueSchema

/-- A schema of dates: the earliest and the latest one allowed. -/
structure DateSchema where
  min : Option Timestamp
  max : Option Timestamp
deriving DecidableEq, Repr

namespace DateSchema

/-- Any valid date. -/
def any : DateSchema := ⟨none, none⟩

def withMin (s : DateSchema) (t : Timestamp) : DateSchema := ⟨some t, s.max⟩

def withMax (s : DateSchema) (t : Timestamp) : DateSchema := ⟨s.min, some t⟩

/-- A bound that may be absent, if a date is on the wrong side of it. -/
def violated? (wrong : Timestamp → Bool) (bound : Option Timestamp) : Option Timestamp :=
  bound.filter wrong

/-- The issue of a value that fails. -/
def failure? (s : DateSchema) (c : Context) (v : Value) : Option Issue :=
  match v with
  | .date (some t) =>
    match violated? (fun b => t.lt b) s.min with
    | some b =>
      some (((c.issue .dateTooEarly ("Date must be on or after " ++ b.text)).withDetail
        "minimum" (.date (some b))).withReceived v)
    | none =>
      match violated? (fun b => b.lt t) s.max with
      | some b =>
        some (((c.issue .dateTooLate ("Date must be on or before " ++ b.text)).withDetail
          "maximum" (.date (some b))).withReceived v)
      | none => none
  | .date none => some (c.issue .invalidDate "Invalid date")
  | v => some (c.typeMismatch .notDate "date" v)

def run (s : DateSchema) (c : Context) (v : Value) : Verdict :=
  match s.failure? c v with
  | none => .ok v
  | some i => Verdict.reject i

/-- A bound that may be absent is kept. -/
def kept (right : Timestamp → Bool) (bound : Option Timestamp) : Bool :=
  match bound with
  | none => true
  | some b => right b

def accepts (s : DateSchema) (v : Value) : Bool :=
  match v with
  | .date (some t) => kept (fun b => b.le t) s.min && kept (fun b => t.le b) s.max
  | _ => false

end DateSchema

end ValueSchema
