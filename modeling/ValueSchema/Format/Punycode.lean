/-
Punycode: labels of host names in ASCII.

A label is written as its ASCII characters, a hyphen, and a run of digits to the base thirty-six
that says which further characters stand where. Decoding inserts one character per number; how
many digits a number has depends on a bias that follows the sizes of the numbers before.
-/

set_option autoImplicit false

namespace ValueSchema.Format.Punycode

/-- The value of a digit: letters first, then decimal digits. -/
def digit? (c : Char) : Option Nat :=
  let n := c.toNat
  if 97 ≤ n ∧ n ≤ 122 then some (n - 97)
  else if 65 ≤ n ∧ n ≤ 90 then some (n - 65)
  else if 48 ≤ n ∧ n ≤ 57 then some (n - 22)
  else none

/-- The bias for a damped number: how often it can be divided before it is small. -/
def biasOf (fuel k delta : Nat) : Nat :=
  match fuel with
  | 0 => k
  | fuel + 1 =>
    if 455 < delta then biasOf fuel (k + 36) (delta / 35)
    else k + 36 * delta / (delta + 38)

/-- The bias after a number that brought a label to a size. -/
def adapt (delta size : Nat) (first : Bool) : Nat :=
  let damped := if first then delta / 700 else delta / 2
  biasOf 64 0 (damped + damped / size)

/-- The threshold of the digit whose weight grew by `k`. -/
def threshold (k bias : Nat) : Nat :=
  if k ≤ bias then 1 else if bias + 26 ≤ k then 26 else k - bias

/-- A decoding under way: the label so far, the character and the place reached, the bias, and
the number being read with its start, its weight and the position of its next digit. -/
structure State where
  label : List Char
  code : Nat
  place : Nat
  bias : Nat
  start : Nat
  weight : Nat
  k : Nat

/-- Inserts the character that a complete number stands for. -/
def State.insert? (s : State) : Option State :=
  let size := s.label.length + 1
  let code := s.code + s.place / size
  let place := s.place % size
  if code < 0x110000 && !(0xD800 ≤ code && code < 0xE000) then
    let label := s.label.take place ++ Char.ofNat code :: s.label.drop place
    some ⟨label, code, place + 1, adapt (s.place - s.start) size (s.start = 0), place + 1, 1, 36⟩
  else none

/-- Reads one digit. -/
def State.step? (s : State) (c : Char) : Option State := do
  let d ← digit? c
  let place := s.place + d * s.weight
  if place ≥ Nat.pow 2 32 then none
  let t := threshold s.k s.bias
  if d < t then State.insert? { s with place := place }
  else some { s with place := place, weight := s.weight * (36 - t), k := s.k + 36 }

/-- The label behind its written form. -/
def decode? (s : List Char) : Option (List Char) := do
  let reversed := s.reverse
  let digits := (reversed.takeWhile (· != '-')).reverse
  let plain := ((reversed.dropWhile (· != '-')).drop 1).reverse
  let last ← digits.foldlM State.step? ⟨plain, 128, 0, 72, 0, 1, 36⟩
  if last.k = 36 then some last.label else none

end ValueSchema.Format.Punycode
