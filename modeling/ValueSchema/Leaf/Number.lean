/-
Schemas of numbers and of big integers.

NaN is no number. The checks of a number schema run in a fixed order: finite, integer, safe,
lower bounds, upper bounds, sign, multiples; the first one that fails is reported. Big integers
are checked in the order in which their constraints were given.

The plan of a number schema folds all bounds into one interval.
-/
import ValueSchema.Context
import ValueSchema.Leaf.Ranked

set_option autoImplicit false

namespace ValueSchema

/-! ## Checks on numbers -/

/-- A constraint on a number. -/
inductive NumberCheck
  | finite
  | int
  | safe
  | min (bound : Double) (inclusive : Bool)
  | max (bound : Double) (inclusive : Bool)
  | positive
  | negative
  | multipleOf (step : Double)
deriving DecidableEq, Repr

namespace NumberCheck

/-- The order in which checks run. -/
def rank : NumberCheck → Nat
  | finite => 0
  | int => 1
  | safe => 2
  | min _ _ => 3
  | max _ _ => 4
  | positive => 5
  | negative => 5
  | multipleOf _ => 6

def holds (c : NumberCheck) (n : Double) : Bool :=
  match c with
  | finite => n.isFinite
  | int => n.isFinite && n.isIntegral
  | safe => Double.minSafeInteger.le n && n.le Double.maxSafeInteger
  | min bound inclusive => if inclusive then bound.le n else bound.lt n
  | max bound inclusive => if inclusive then n.le bound else n.lt bound
  | positive => Double.zero.lt n
  | negative => n.lt Double.zero
  | multipleOf step => n.isMultipleOf step

/-- The issue of a number that fails. -/
def issue (c : NumberCheck) (at_ : Context) (n : Double) : Issue :=
  let failed : Issue :=
    match c with
    | finite => at_.issue .numberNotFinite "Number must be finite"
    | int => at_.issue .numberNotInteger "Expected integer, received float"
    | safe => at_.issue .numberNotSafe "Number must be a safe integer magnitude"
    | min bound inclusive =>
      ((at_.issue .numberTooSmall
        ((if inclusive then "Number must be greater than or equal to "
          else "Number must be greater than ") ++ Decimal.plainText bound)).withDetail
        "minimum" (.number bound)).withDetail "inclusive" (.bool inclusive)
    | max bound inclusive =>
      ((at_.issue .numberTooBig
        ((if inclusive then "Number must be less than or equal to "
          else "Number must be less than ") ++ Decimal.plainText bound)).withDetail
        "maximum" (.number bound)).withDetail "inclusive" (.bool inclusive)
    | positive => at_.issue .numberNotPositive "Number must be positive"
    | negative => at_.issue .numberNotNegative "Number must be negative"
    | multipleOf step =>
      (at_.issue .numberNotMultiple
        ("Number must be a multiple of " ++ Decimal.plainText step)).withDetail
        "multiple_of" (.number step)
  failed.withReceived (.number n)

end NumberCheck

/-- A schema of numbers: its checks in running order. -/
structure NumberSchema where
  checks : List NumberCheck
deriving DecidableEq, Repr

namespace NumberSchema

/-- Any number. -/
def any : NumberSchema := ⟨[]⟩

/-- Adds a check at its place. -/
def check (s : NumberSchema) (c : NumberCheck) : NumberSchema :=
  ⟨Ranked.insert NumberCheck.rank c s.checks⟩

/-- At least zero. -/
def nonnegative (s : NumberSchema) : NumberSchema := s.check (.min Double.zero true)

/-- At most zero. -/
def nonpositive (s : NumberSchema) : NumberSchema := s.check (.max Double.zero true)

def firstFailure? (s : NumberSchema) (n : Double) : Option NumberCheck :=
  s.checks.find? fun c => !c.holds n

def run (s : NumberSchema) (c : Context) (v : Value) : Verdict :=
  match v with
  | .number n =>
    if n.isNaN then Verdict.reject (c.typeMismatch .notNumber "number" v)
    else
      match s.firstFailure? n with
      | none => .ok v
      | some k => Verdict.reject (k.issue c n)
  | v => Verdict.reject (c.typeMismatch .notNumber "number" v)

def accepts (s : NumberSchema) (v : Value) : Bool :=
  match v with
  | .number n => !n.isNaN && (s.firstFailure? n).isNone
  | _ => false

end NumberSchema

/-! ## Plans -/

/-- One end of an interval. -/
structure Bound where
  value : Double
  inclusive : Bool
deriving DecidableEq, Repr

/-- A folded number schema: an interval, two switches and the steps. A bound that is NaN leaves
nothing to accept. -/
structure NumberPlan where
  lower : Bound
  upper : Bound
  finite : Bool
  int : Bool
  steps : List Double
  unsatisfiable : Bool
deriving DecidableEq, Repr

namespace NumberPlan

def start : NumberPlan :=
  ⟨⟨Double.negativeInfinity, true⟩, ⟨Double.infinity, true⟩, false, false, [], false⟩

/-- Raises the lower end; of two equal ends the exclusive one is the stricter. -/
def raise (p : NumberPlan) (b : Bound) : NumberPlan :=
  if b.value.isNaN then { p with unsatisfiable := true }
  else if p.lower.value.lt b.value then { p with lower := b }
  else if b.value.eq p.lower.value then
    { p with lower := ⟨p.lower.value, p.lower.inclusive && b.inclusive⟩ }
  else p

/-- Lowers the upper end. -/
def lowerTo (p : NumberPlan) (b : Bound) : NumberPlan :=
  if b.value.isNaN then { p with unsatisfiable := true }
  else if b.value.lt p.upper.value then { p with upper := b }
  else if b.value.eq p.upper.value then
    { p with upper := ⟨p.upper.value, p.upper.inclusive && b.inclusive⟩ }
  else p

/-- Folds one check into a plan. -/
def fold (p : NumberPlan) (c : NumberCheck) : NumberPlan :=
  match c with
  | .finite => { p with finite := true }
  | .int => { p with finite := true, int := true }
  | .safe =>
    (p.raise ⟨Double.minSafeInteger, true⟩).lowerTo ⟨Double.maxSafeInteger, true⟩
  | .min bound inclusive => p.raise ⟨bound, inclusive⟩
  | .max bound inclusive => p.lowerTo ⟨bound, inclusive⟩
  | .positive => p.raise ⟨Double.zero, false⟩
  | .negative => p.lowerTo ⟨Double.zero, false⟩
  | .multipleOf step => { p with steps := p.steps ++ [step] }

/-- A number fits the plan. -/
def accepts (p : NumberPlan) (n : Double) : Bool :=
  !n.isNaN && !p.unsatisfiable
    && (!p.finite || n.isFinite)
    && (!p.int || n.isIntegral)
    && (p.lower.value.lt n || (p.lower.inclusive && n.eq p.lower.value))
    && (n.lt p.upper.value || (p.upper.inclusive && n.eq p.upper.value))
    && p.steps.all fun step => n.isMultipleOf step

end NumberPlan

/-- The plan of a number schema. -/
def NumberSchema.plan (s : NumberSchema) : NumberPlan :=
  s.checks.foldl NumberPlan.fold NumberPlan.start

/-! ## Big integers -/

/-- A constraint on a big integer. -/
inductive IntegerCheck
  | min (bound : Int)
  | max (bound : Int)
  | positive
  | negative
deriving DecidableEq, Repr

namespace IntegerCheck

def holds (c : IntegerCheck) (n : Int) : Bool :=
  match c with
  | min bound => decide (bound ≤ n)
  | max bound => decide (n ≤ bound)
  | positive => decide (0 < n)
  | negative => decide (n < 0)

/-- The issue of a big integer that fails. -/
def issue (c : IntegerCheck) (at_ : Context) (n : Int) : Issue :=
  let failed : Issue :=
    match c with
    | min bound =>
      (at_.issue .bigIntTooSmall
        ("BigInt must be greater than or equal to " ++ Value.intText bound ++ "n")).withDetail
        "minimum" (.bigint bound)
    | max bound =>
      (at_.issue .bigIntTooBig
        ("BigInt must be less than or equal to " ++ Value.intText bound ++ "n")).withDetail
        "maximum" (.bigint bound)
    | positive => at_.issue .bigIntTooSmall "BigInt must be positive"
    | negative => at_.issue .bigIntTooBig "BigInt must be negative"
  failed.withReceived (.bigint n)

end IntegerCheck

/-- A schema of big integers: its checks as given. -/
structure IntegerSchema where
  checks : List IntegerCheck
deriving DecidableEq, Repr

namespace IntegerSchema

/-- Any big integer. -/
def any : IntegerSchema := ⟨[]⟩

/-- Adds a check behind the others. -/
def check (s : IntegerSchema) (c : IntegerCheck) : IntegerSchema := ⟨s.checks ++ [c]⟩

def firstFailure? (s : IntegerSchema) (n : Int) : Option IntegerCheck :=
  s.checks.find? fun c => !c.holds n

def run (s : IntegerSchema) (c : Context) (v : Value) : Verdict :=
  match v with
  | .bigint n =>
    match s.firstFailure? n with
    | none => .ok v
    | some k => Verdict.reject (k.issue c n)
  | v => Verdict.reject (c.typeMismatch .notBigInt "bigint" v)

def accepts (s : IntegerSchema) (v : Value) : Bool :=
  match v with
  | .bigint n => (s.firstFailure? n).isNone
  | _ => false

end IntegerSchema

end ValueSchema
