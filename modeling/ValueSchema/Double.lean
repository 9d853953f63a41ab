/-
Binary64 numbers as 64-bit words.

A number is its word, so equality of words is decidable and everything that only depends on
the order (comparison, zero, NaN, finiteness, integrality) is read off the word by integer
arithmetic: `Double.rank` sends every number that is not NaN to an integer so that the
numeric order is the integer order and both zeros share rank zero. Arithmetic proper goes
through the machine's `Float`.

Words of NaN are normalised on the way in, so there is one NaN.
-/

set_option autoImplicit false

namespace ValueSchema

/-- A binary64 number, given by its word. -/
structure Double where
  bits : UInt64
deriving DecidableEq, Repr, Inhabited

namespace Double

/-! ## Classes of words -/

/-- The eleven exponent bits. -/
def exponentField (d : Double) : Nat := (d.bits.toNat / Nat.pow 2 52) % 2048

/-- The fifty-two fraction bits. -/
def fractionField (d : Double) : Nat := d.bits.toNat % Nat.pow 2 52

/-- Exponent and fraction together: the word without its sign bit. -/
def magnitude (d : Double) : Nat := d.bits.toNat % Nat.pow 2 63

/-- The sign bit is set. -/
def signBit (d : Double) : Bool := Nat.pow 2 63 ≤ d.bits.toNat

/-- The word of positive infinity, above which magnitudes are NaN. -/
def infinityMagnitude : Nat := 2047 * Nat.pow 2 52

def isNaN (d : Double) : Bool := infinityMagnitude < d.magnitude

def isFinite (d : Double) : Bool := d.magnitude < infinityMagnitude

def isInfinite (d : Double) : Bool := d.magnitude = infinityMagnitude

/-- Either zero. -/
def isZero (d : Double) : Bool := d.magnitude = 0

/-! ## Constants -/

/-- The one NaN. -/
def nan : Double := ⟨0x7ff8000000000000⟩

def zero : Double := ⟨0⟩

def negativeZero : Double := ⟨0x8000000000000000⟩

def infinity : Double := ⟨0x7ff0000000000000⟩

def negativeInfinity : Double := ⟨0xfff0000000000000⟩

/-- The greatest integer below which every integer is a number of its own, `2^53 - 1`. -/
def maxSafeInteger : Double := ⟨0x433fffffffffffff⟩

/-- The opposite of `maxSafeInteger`. -/
def minSafeInteger : Double := ⟨0xc33fffffffffffff⟩

/-! ## Order -/

/-- The place of a number in the numeric order, none for NaN. Both zeros have rank zero,
negative numbers the opposite of their magnitude. -/
def rank (d : Double) : Option Int :=
  if d.isNaN then none
  else if d.signBit then some (-(d.magnitude : Int))
  else some (d.magnitude : Int)

/-- Numeric equality: NaN differs from everything, the zeros are equal. -/
def eq (a b : Double) : Bool :=
  match a.rank, b.rank with
  | some x, some y => x == y
  | _, _ => false

/-- Numeric strict order; false as soon as one side is NaN. -/
def lt (a b : Double) : Bool :=
  match a.rank, b.rank with
  | some x, some y => decide (x < y)
  | _, _ => false

/-- Numeric order; false as soon as one side is NaN. -/
def le (a b : Double) : Bool :=
  match a.rank, b.rank with
  | some x, some y => decide (x ≤ y)
  | _, _ => false

/-- The same number up to the payload of NaN; unlike `eq` it tells the zeros apart. -/
def sameWord (a b : Double) : Bool := (a.isNaN && b.isNaN) || a == b

/-- The word under which a number is looked up when zeros are one and NaN equals itself. -/
def keyWord (d : Double) : UInt64 :=
  if d.isNaN then nan.bits else if d.isZero then zero.bits else d.bits

/-- The word under which a number is looked up when only NaNs are identified. -/
def exactWord (d : Double) : UInt64 :=
  if d.isNaN then nan.bits else d.bits

/-! ## Value of a finite number

A finite number is `significand * 2 ^ exponent`, with the sign apart. -/

def significand (d : Double) : Nat :=
  if d.exponentField = 0 then d.fractionField else Nat.pow 2 52 + d.fractionField

def exponent (d : Double) : Int :=
  if d.exponentField = 0 then -1074 else (d.exponentField : Int) - 1075

/-- The number is finite and has no fractional part. -/
def isIntegral (d : Double) : Bool :=
  d.isFinite &&
    (d.exponent ≥ 0 || d.significand % Nat.pow 2 (-d.exponent).toNat == 0)

/-- The integer part, toward zero, of a finite number. -/
def truncate (d : Double) : Int :=
  let m : Nat :=
    if d.exponent ≥ 0 then d.significand * Nat.pow 2 d.exponent.toNat
    else d.significand / Nat.pow 2 (-d.exponent).toNat
  if d.signBit then -(m : Int) else (m : Int)

/-! ## Arithmetic -/

def toFloat (d : Double) : Float := Float.ofBits d.bits

def ofFloat (f : Float) : Double := if f.isNaN then nan else ⟨f.toBits⟩

def add (a b : Double) : Double := ofFloat (a.toFloat + b.toFloat)

def div (a b : Double) : Double := ofFloat (a.toFloat / b.toFloat)

/-- The nearest number to an integer, a tie going to the even one. -/
def ofNat (n : Nat) : Double := ofFloat (Float.ofNat n)

def ofInt (n : Int) : Double := ofFloat (Float.ofInt n)

/-- The spacing of numbers just above one, `2^-52`. -/
def epsilon : Float := Float.ofBits 0x3cb0000000000000

/-- A finite number is a multiple of a finite nonzero step when their quotient is within
sixteen spacings of an integer, relative to the quotient's size. -/
def isMultipleOf (n step : Double) : Bool :=
  if step.isZero || !step.isFinite || !n.isFinite then false
  else
    let ratio := n.toFloat / step.toFloat
    let size := if ratio.abs < 1.0 then 1.0 else ratio.abs
    decide ((ratio - ratio.round).abs ≤ epsilon * 16.0 * size)

end Double

end ValueSchema
