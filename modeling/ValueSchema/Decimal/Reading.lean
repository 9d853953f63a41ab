/-
Decimal text read as the nearest binary64 number.

The text is split into a sign, the digits before and after the point, and an exponent; the
rounding itself is that of `Float.ofScientific`, which rounds to nearest and a tie to even.
Exponents far outside the range are answered at once, so no huge power is ever computed.
-/
import ValueSchema.Double

set_option autoImplicit false

namespace ValueSchema.Decimal

/-- Digits of a numeral, most significant first, as a number. -/
def valueOfDigits (digits : List Char) : Nat :=
  digits.foldl (fun n c => n * 10 + (c.toNat - 48)) 0

/-- A text of ASCII digits, at least one. -/
def natural? (s : List Char) : Option Nat :=
  if s.isEmpty || !s.all Char.isDigit then none else some (valueOfDigits s)

/-- An integer with an optional sign. -/
def integer? : List Char → Option Int
  | '-' :: r => (natural? r).map fun n => -(n : Int)
  | '+' :: r => (natural? r).map fun n => (n : Int)
  | s => (natural? s).map fun n => (n : Int)

/-- An unsigned decimal: `digits * 10 ^ exponent`. -/
structure Numeral where
  digits : Nat
  exponent : Int
deriving DecidableEq, Repr

/-- Digits, an optional fraction and an optional exponent. At least one digit stands before
or after the point. -/
def numeral? (s : List Char) : Option Numeral := do
  let whole := s.takeWhile Char.isDigit
  let rest := s.dropWhile Char.isDigit
  let (fraction, rest) :=
    match rest with
    | '.' :: r => (r.takeWhile Char.isDigit, r.dropWhile Char.isDigit)
    | r => ([], r)
  if whole.isEmpty && fraction.isEmpty then none
  let exponent ←
    match rest with
    | [] => some 0
    | 'e' :: r => integer? r
    | 'E' :: r => integer? r
    | _ => none
  some ⟨valueOfDigits (whole ++ fraction), exponent - (fraction.length : Int)⟩

/-- The nearest binary64 number; zero and infinity take the far ends. -/
def Numeral.toFloat (n : Numeral) : Float :=
  let top := n.exponent + ((Nat.repr n.digits).length : Int)
  if n.digits = 0 ∨ top < -400 then 0.0
  else if 400 < top then Float.ofBits 0x7ff0000000000000
  else OfScientific.ofScientific n.digits (n.exponent < 0) n.exponent.natAbs

/-- The nearest binary32 number, widened. -/
def Numeral.toFloat32 (n : Numeral) : Float :=
  let top := n.exponent + ((Nat.repr n.digits).length : Int)
  if n.digits = 0 ∨ top < -400 then 0.0
  else if 400 < top then Float.ofBits 0x7ff0000000000000
  else
    let narrow : Float32 :=
      OfScientific.ofScientific n.digits (n.exponent < 0) n.exponent.natAbs
    narrow.toFloat

/-- Words that stand for a number that is not finite, in any case. -/
def special? (s : List Char) : Option Double :=
  match String.ofList (s.map Char.toLower) with
  | "inf" => some Double.infinity
  | "infinity" => some Double.infinity
  | "nan" => some Double.nan
  | _ => none

def negate (d : Double) : Double :=
  if d.isNaN then d
  else if d.signBit then ⟨d.bits - 0x8000000000000000⟩
  else ⟨d.bits + 0x8000000000000000⟩

/-- A number with an optional sign, rounded by `round`. -/
def signed? (round : Numeral → Float) (s : List Char) : Option Double :=
  let unsigned (r : List Char) : Option Double :=
    (special? r).orElse fun _ => (numeral? r).map fun n => Double.ofFloat (round n)
  match s with
  | '-' :: r => (unsigned r).map negate
  | '+' :: r => unsigned r
  | r => unsigned r

/-- Text of a binary64 number: optional sign, digits with optional point and exponent, or one
of the words for infinity and NaN. -/
def double? (s : String) : Option Double := signed? Numeral.toFloat s.toList

/-- Text rounded to binary32 first. -/
def single? (s : String) : Option Double := signed? Numeral.toFloat32 s.toList

end ValueSchema.Decimal
