/-
The fewest decimal digits that read back as a given binary64 number.

A finite number stands for the interval of reals that round to it, and any decimal inside the
interval reads back as the number. The search walks the decimal grids from coarse to fine. On
each grid only the two neighbours of the number itself need a test: if some grid point lies in
the interval, so does one of the neighbours, because the interval surrounds the number. The
first grid with a hit gives the digits; of two hits the nearer one wins and an exact tie is
settled by a parameter.

All comparisons are between natural numbers, so nothing is lost to rounding on the way.
-/
import ValueSchema.Double

set_option autoImplicit false

namespace ValueSchema.Decimal

/-- Which neighbour wins when the number lies exactly between two grid points. -/
inductive Tie
  | up
  | even
deriving DecidableEq, Repr

/-- The decimal `digits * 10 ^ exponent`. -/
structure Scaled where
  digits : Nat
  exponent : Int
deriving DecidableEq, Repr

/-- The reals that round to a number, as quarters of its spacing: `low`, `mid` and `high` all
count units of `2 ^ unit`. The ends belong to the interval when `closed` holds. -/
structure Interval where
  low : Nat
  mid : Nat
  high : Nat
  unit : Int
  closed : Bool
deriving Repr

/-- The interval of a finite nonzero number. Below a power of two the spacing halves, so the
lower end is nearer there. -/
def Interval.ofDouble (d : Double) : Interval :=
  let m := d.significand
  let narrow := d.fractionField = 0 ∧ 1 < d.exponentField
  { low := if narrow then 4 * m - 1 else 4 * m - 2
    mid := 4 * m
    high := 4 * m + 2
    unit := d.exponent - 2
    closed := m % 2 = 0 }

/-! ## One grid

On the grid of multiples of `10 ^ g`, both a grid point and an end of the interval become
natural numbers once the negative powers are multiplied out. -/

/-- An amount of interval units, brought to the common denominator of grid and interval. -/
def Interval.amount (i : Interval) (g : Int) (x : Nat) : Nat :=
  x * Nat.pow 2 i.unit.toNat * Nat.pow 10 (-g).toNat

/-- A multiple of `10 ^ g`, brought to the same denominator. -/
def Interval.gridPoint (i : Interval) (g : Int) (c : Nat) : Nat :=
  c * Nat.pow 10 g.toNat * Nat.pow 2 (-i.unit).toNat

/-- A grid point reads back as the number. -/
def Interval.holds (i : Interval) (g : Int) (c : Nat) : Bool :=
  let p := i.gridPoint g c
  let low := i.amount g i.low
  let high := i.amount g i.high
  if i.closed then low ≤ p && p ≤ high else low < p && p < high

/-- The neighbour of the number on a grid that reads back, if there is one. -/
def Interval.onGrid? (i : Interval) (tie : Tie) (g : Int) : Option Nat :=
  let step := i.gridPoint g 1
  let mid := i.amount g i.mid
  let below := mid / step
  let above := below + 1
  match i.holds g below && 0 < below, i.holds g above with
  | false, false => none
  | true, false => some below
  | false, true => some above
  | true, true =>
    let rest := 2 * (mid - below * step)
    if rest < step then some below
    else if step < rest then some above
    else
      match tie with
      | .up => some above
      | .even => some (if below % 2 = 0 then below else above)

/-! ## From coarse to fine -/

/-- The greatest power of ten not above `num / den`, both positive. -/
def leadingPower (num den : Nat) : Int :=
  let guess : Int := ((Nat.repr num).length : Int) - ((Nat.repr den).length : Int)
  if den * Nat.pow 10 guess.toNat ≤ num * Nat.pow 10 (-guess).toNat then guess else guess - 1

/-- Trailing zeros of the digits move into the exponent. -/
def Scaled.strip : Nat → Scaled → Scaled
  | 0, s => s
  | fuel + 1, s =>
    if s.digits ≠ 0 ∧ s.digits % 10 = 0 then
      Scaled.strip fuel ⟨s.digits / 10, s.exponent + 1⟩
    else s

/-- The shortest decimal that reads back as a finite number, without its sign. Seventeen
digits always suffice. -/
def shortest (tie : Tie) (d : Double) : Scaled :=
  if d.isZero then ⟨0, 0⟩
  else
    let i := Interval.ofDouble d
    let top := leadingPower (i.amount 0 i.mid) (i.gridPoint 0 1)
    let found := (List.range 17).findSome? fun (n : Nat) =>
      let g := top - (n : Int)
      (i.onGrid? tie g).map fun c => (⟨c, g⟩ : Scaled)
    (found.getD ⟨0, 0⟩).strip 18

end ValueSchema.Decimal
