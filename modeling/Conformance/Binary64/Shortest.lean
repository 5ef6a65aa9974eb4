import Conformance.Binary64.Basic

/-!
# Shortest decimals

The decimal that stands for a binary64 number is the shortest one that reads back as it: of all
decimals that round to the number it has the fewest digits, and of those with as few digits it is
the nearest.

## Parts

* `Binary64.Interval` is the set of reals that round to a positive finite number.
* `Binary64.Interval.onGrid?` looks for a decimal with a given last place inside it.
* `Binary64.shortest` tries one digit, two digits and so on; seventeen always suffice.
-/

namespace Conformance.Binary64

/-! ## The reals that round to a number -/

/-- The reals that round to one number, with the number itself, all as numerators over one
denominator. -/
structure Interval where
  low : Nat
  value : Nat
  high : Nat
  den : Nat
  /-- Whether the two ends round to the number too. -/
  closed : Bool

/-- The interval of `coefficient · 2^exponent`.  It reaches halfway to both neighbours; the
neighbour below a power of two is only half as far away as the one above. -/
def Interval.around (coefficient : Nat) (exponent : Int) : Interval :=
  let scale := 1 <<< (exponent - 2).toNat
  let below := if coefficient = 1 <<< 52 ∧ exponent ≠ -1074 then 1 else 2
  { low := (4 * coefficient - below) * scale
    value := 4 * coefficient * scale
    high := (4 * coefficient + 2) * scale
    den := 1 <<< (2 - exponent).toNat
    closed := coefficient % 2 = 0 }

namespace Interval

/-- Whether the real `num / den` belongs to the interval. -/
def contains (i : Interval) (num den : Nat) : Bool :=
  let low := i.low * den
  let high := i.high * den
  let here := num * i.den
  if i.closed then low ≤ here && here ≤ high else low < here && here < high

/-! ## Decimals inside the interval -/

/-- The exponent of the first digit of the value. -/
def leadingPlace (i : Interval) : Int :=
  if i.den ≤ i.value then (Nat.toDigits 10 (i.value / i.den)).length - 1
  else
    let places := (Nat.toDigits 10 (i.den / i.value)).length
    if i.den ≤ i.value * Nat.pow 10 (places - 1) then 1 - (places : Int) else -(places : Int)

/-- The decimal in units of `10^place` that lies in the interval, if the value has a neighbour on
that grid which does: the nearer one, and of two equally near ones the even one. -/
def onGrid? (i : Interval) (place : Int) : Option Nat :=
  let num := i.value * Nat.pow 10 (-place).toNat
  let den := i.den * Nat.pow 10 place.toNat
  let below := num / den
  let above := below + 1
  let member (n : Nat) :=
    i.contains (n * Nat.pow 10 place.toNat) (Nat.pow 10 (-place).toNat)
  match member below, member above with
  | true, true => some (roundDiv num den)
  | true, false => some below
  | false, true => some above
  | false, false => none

/-- The first grid with a decimal in the interval, from the given number of digits on. -/
def search (i : Interval) : (digits tries : Nat) → Option (Nat × Int)
  | _, 0 => none
  | digits, tries + 1 =>
    let place := i.leadingPlace - ((digits : Int) - 1)
    match i.onGrid? place with
    | some n => some (n, place)
    | none => search i (digits + 1) tries

end Interval

/-! ## The shortest decimal -/

/-- Move the trailing zeros of a positive decimal into its exponent. -/
def stripZeros : (places n : Nat) → Int → Nat × Int
  | 0, n, place => (n, place)
  | places + 1, n, place =>
    if n % 10 = 0 then stripZeros places (n / 10) (place + 1) else (n, place)

/-- The shortest decimal of a positive finite number, as digits and the place of the last one. -/
def shortest (coefficient : Nat) (exponent : Int) : Nat × Int :=
  match (Interval.around coefficient exponent).search 1 17 with
  | some (n, place) => stripZeros 20 n place
  | none => (0, 0)

end Conformance.Binary64
