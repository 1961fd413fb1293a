import Catalogue.Decimal.Binary

/-!
# The fewest digits that read back

A binary number `m · 2 ^ q` is the nearest of its width to every real in an interval around it.
Of the decimals in that interval `shortest` takes one with the fewest digits, and of those the
nearest; a rule decides between two that are equally near. It tests the two neighbours of the
number on ever finer decimal grids, in exact integer arithmetic: if any point of a grid lies in the
interval, one of the two neighbours does.
-/

namespace Catalogue.Decimal

/-- The number `digits · 10 ^ exponent`. -/
structure Scaled where
  digits : Nat
  exponent : Int
  deriving DecidableEq, Repr

/-- How many decimal digits a number has; zero has none. -/
def digitCount (n : Nat) : Nat := if n = 0 then 0 else (Nat.toDigits 10 n).length

/-- The quotient `numerator / denominator` with the ends of the interval that reads back as it,
all over the same denominator. -/
structure Interval where
  low : Nat
  value : Nat
  high : Nat
  denominator : Nat
  closed : Bool

/-- The interval of `m · 2 ^ q`: half a unit to each side, a quarter below a narrow significand.
Its ends belong to it when `m` is even. -/
def Interval.around (m : Nat) (q : Int) (narrow : Bool) : Interval :=
  let scale := Nat.pow 2 (q - 2).toNat
  ⟨(4 * m - if narrow then 1 else 2) * scale, 4 * m * scale, (4 * m + 2) * scale,
    Nat.pow 2 (2 - q).toNat, m % 2 == 0⟩

/-- The interval in units of `10 ^ k`. -/
def Interval.inUnits (i : Interval) (k : Int) : Interval :=
  let up := Nat.pow 10 (-k).toNat
  ⟨i.low * up, i.value * up, i.high * up, i.denominator * Nat.pow 10 k.toNat, i.closed⟩

/-- Whether a whole number of units lies in the interval. -/
def Interval.contains (i : Interval) (n : Nat) : Bool :=
  let x := n * i.denominator
  if i.closed then i.low ≤ x && x ≤ i.high else i.low < x && x < i.high

/-- Which of two decimals to take that are equally near: the greater, or the one whose last digit
is even. -/
inductive Tie where
  | up
  | even
  deriving DecidableEq, Repr

/-- Whether a tie between a whole number and the next one goes to the next one. -/
def Tie.goesUp : Tie → Nat → Bool
  | up, _ => true
  | even, n => n % 2 = 1

/-- The whole number of units in the interval nearest to its value, if there is one. -/
def Interval.nearest? (i : Interval) (tie : Tie) : Option Nat :=
  let below := i.value / i.denominator
  let rest := i.value % i.denominator
  let above := i.denominator < 2 * rest || (2 * rest = i.denominator && tie.goesUp below)
  match i.contains below, i.contains (below + 1) with
  | true, true => some (if above then below + 1 else below)
  | true, false => some below
  | false, true => some (below + 1)
  | false, false => none

/-- The power of ten of the leading digit of the interval's value. -/
def Interval.leading (i : Interval) : Int :=
  if i.denominator ≤ i.value then (digitCount (i.value / i.denominator) : Int) - 1
  else -(digitCount ((i.denominator + i.value - 1) / i.value - 1) : Int)

/-- Tries the grid of `10 ^ k` and, `more` times, the next finer one. -/
def Interval.search (i : Interval) (tie : Tie) (k : Int) : Nat → Scaled
  | 0 => ⟨(i.inUnits k).value / (i.inUnits k).denominator, k⟩
  | more + 1 =>
    match (i.inUnits k).nearest? tie with
    | some n => ⟨n, k⟩
    | none => i.search tie (k - 1) more

/-- Moves trailing zeros, at most `most` of them, into the exponent. -/
def Scaled.dropZeros (d : Scaled) : Nat → Scaled
  | 0 => d
  | most + 1 =>
    if d.digits % 10 == 0 then Scaled.dropZeros ⟨d.digits / 10, d.exponent + 1⟩ most else d

/-- The nearest of the shortest decimals that read back as `m · 2 ^ q`, for `m ≠ 0`. No width in
use needs more than 17 digits. -/
def shortest (tie : Tie) (m : Nat) (q : Int) (narrow : Bool) : Scaled :=
  let i := Interval.around m q narrow
  (i.search tie i.leading 20).dropZeros 20

end Catalogue.Decimal
