/-
How shortest digits are laid out as text.

Two layouts are in use. The plain one never writes an exponent and writes an integer without a
point; it serves messages and value displays. The data one writes a point in every positional
number and turns to an exponent outside `1e-5 ≤ |n| < 1e16`; it serves JSON text, where a
number that is not finite is written `null`.
-/
import ValueSchema.Decimal.Shortest

set_option autoImplicit false

namespace ValueSchema.Decimal

def zeros (n : Nat) : String := String.ofList (List.replicate n '0')

/-- Digits with the decimal point after the first `point` of them; both parts are nonempty. -/
def splitAt (digits : List Char) (point : Nat) : String :=
  String.ofList (digits.take point) ++ "." ++ String.ofList (digits.drop point)

/-! ## Plain layout -/

/-- Positional notation of a scaled decimal, without a point when there is no fraction. -/
def Scaled.plain (s : Scaled) : String :=
  let digits := (Nat.repr s.digits).toList
  if 0 ≤ s.exponent then String.ofList digits ++ zeros s.exponent.toNat
  else
    let places := (-s.exponent).toNat
    if places < digits.length then splitAt digits (digits.length - places)
    else "0." ++ zeros (places - digits.length) ++ String.ofList digits

/-- The text of a number in messages: shortest digits, never an exponent, and words for what
is not finite. -/
def plainText (d : Double) : String :=
  if d.isNaN then "NaN"
  else if d.isInfinite then (if d.signBit then "-Infinity" else "Infinity")
  else (if d.signBit then "-" else "") ++ (shortest .up d).plain

/-! ## Data layout -/

/-- The sign and digits of a decimal exponent. -/
def exponentText (e : Int) : String :=
  (if e < 0 then "e-" else "e+") ++ Nat.repr e.natAbs

/-- Positional between `1e-5` and `1e16`, otherwise one digit, a fraction if any, and an
exponent. -/
def Scaled.data (s : Scaled) : String :=
  let digits := (Nat.repr s.digits).toList
  let point : Int := (digits.length : Int) + s.exponent
  if 0 ≤ s.exponent ∧ point ≤ 16 then
    String.ofList digits ++ zeros s.exponent.toNat ++ ".0"
  else if 0 < point ∧ point ≤ 16 then splitAt digits point.toNat
  else if -5 < point ∧ point ≤ 0 then
    "0." ++ zeros (-point).toNat ++ String.ofList digits
  else
    (if digits.length = 1 then String.ofList digits else splitAt digits 1)
      ++ exponentText (point - 1)

/-- The text of a number inside JSON. -/
def dataText (d : Double) : String :=
  if !d.isFinite then "null"
  else
    (if d.signBit then "-" else "")
      ++ (if d.isZero then "0.0" else (shortest .even d).data)

end ValueSchema.Decimal
