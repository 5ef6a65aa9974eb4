/-!
# Binary64 numbers

A floating-point number of a specification is the 64 bits of its binary64 form: a sign, eleven
bits of exponent and 52 of fraction.  Everything about it is done in exact arithmetic on natural
numbers, so that rounding, comparison and text can be reasoned about.

## Parts

* `Binary64.Datum` is what the bits stand for, and `Binary64.datum` reads it off.
* `Binary64.roundRatio` is the number nearest to a quotient; `ofDecimal` and `ofInt` are rounded
  through it.
* `Binary64.equal` compares numbers as numbers: a NaN equals nothing and the two zeros agree.
-/

namespace Conformance

/-- A binary64 number, held as its bits. -/
structure Binary64 where
  bits : UInt64
deriving DecidableEq

namespace Binary64

/-! ## What the bits stand for -/

/-- The number itself.  A finite one is `coefficient · 2^exponent` with its sign; the coefficient
is below 2^53, and at least 2^52 unless the exponent is the least one, -1074. -/
inductive Datum
  | nan
  | infinite (negative : Bool)
  | finite (negative : Bool) (coefficient : Nat) (exponent : Int)
deriving DecidableEq

/-- The bits below the sign. -/
def magnitude (x : Binary64) : Nat :=
  x.bits.toNat % (1 <<< 63)

def negative (x : Binary64) : Bool :=
  1 <<< 63 ≤ x.bits.toNat

/-- The magnitude at which the finite numbers end. -/
def infiniteMagnitude : Nat :=
  0x7FF <<< 52

def datum (x : Binary64) : Datum :=
  let field := x.magnitude >>> 52
  let fraction := x.magnitude % (1 <<< 52)
  if infiniteMagnitude < x.magnitude then .nan
  else if infiniteMagnitude = x.magnitude then .infinite x.negative
  else if field = 0 then .finite x.negative fraction (-1074)
  else .finite x.negative ((1 <<< 52) + fraction) ((field : Int) - 1075)

/-! ## Making numbers -/

/-- The number with the given sign and magnitude bits. -/
def ofMagnitude (negative : Bool) (magnitude : Nat) : Binary64 :=
  ⟨UInt64.ofNat (if negative then (1 <<< 63) + magnitude else magnitude)⟩

def nan : Binary64 :=
  ofMagnitude false (infiniteMagnitude + (1 <<< 51))

def infinite (negative : Bool) : Binary64 :=
  ofMagnitude negative infiniteMagnitude

def zero (negative : Bool) : Binary64 :=
  ofMagnitude negative 0

/-- The quotient rounded to a natural number: to the nearer neighbour, and at equal distance to the
even one. -/
def roundDiv (num den : Nat) : Nat :=
  let quotient := num / den
  let remainder := num % den
  if 2 * remainder < den then quotient
  else if 2 * remainder > den then quotient + 1
  else if quotient % 2 = 0 then quotient
  else quotient + 1

/-- The quotient times a power of two, rounded. -/
def roundScaled (num den : Nat) (exponent : Int) : Nat :=
  if 0 ≤ exponent then roundDiv (num <<< exponent.toNat) den
  else roundDiv num (den <<< (-exponent).toNat)

/-- The exponent of the last bit that is kept for a positive quotient: 53 bits are kept, and
fewer where the least exponent would be passed. -/
def unitExponent (num den : Nat) : Int :=
  let estimate : Int := (Nat.log2 num : Int) - (Nat.log2 den : Int)
  let atLeastTwo :=
    if 0 ≤ estimate then den <<< estimate.toNat ≤ num
    else den ≤ num <<< (-estimate).toNat
  max (if atLeastTwo then estimate - 52 else estimate - 53) (-1074)

/-- The number nearest to a quotient, ties going to the even coefficient.  Rounding up to a power
of two carries into the exponent field by itself, and past the last finite number it gives the
infinite one. -/
def roundRatio (negative : Bool) (num den : Nat) : Binary64 :=
  if num = 0 then zero negative
  else
    let exponent := unitExponent num den
    let coefficient := roundScaled num den (-exponent)
    let magnitude := coefficient + (exponent + 1074).toNat <<< 52
    ofMagnitude negative (min magnitude infiniteMagnitude)

/-- The number nearest to a decimal.  Far outside the range of the format the answer is known
without forming the power of ten. -/
def ofDecimal (negative : Bool) (coefficient : Nat) (exponent : Int) : Binary64 :=
  let top : Int := (Nat.toDigits 10 coefficient).length + exponent
  if coefficient = 0 || top < -330 then zero negative
  else if 310 < top then infinite negative
  else if 0 ≤ exponent then roundRatio negative (coefficient * Nat.pow 10 exponent.toNat) 1
  else roundRatio negative coefficient (Nat.pow 10 (-exponent).toNat)

/-- The number nearest to an integer. -/
def ofInt (i : Int) : Binary64 :=
  roundRatio (i < 0) i.natAbs 1

/-! ## Comparison -/

/-- Whether the number is not a number. -/
def isNan (x : Binary64) : Bool :=
  infiniteMagnitude < x.magnitude

/-- Equality of numbers: of equal bits unless they are a NaN, and of the two zeros. -/
def equal (x y : Binary64) : Bool :=
  !x.isNan && !y.isNan && (x.bits == y.bits || (x.magnitude == 0 && y.magnitude == 0))

theorem equal_comm (x y : Binary64) : x.equal y = y.equal x := by
  simp only [equal, BEq.comm (a := x.bits), Bool.and_comm]

theorem equal_self (x : Binary64) (h : x.isNan = false) : x.equal x := by
  simp [equal, h]

end Binary64

end Conformance
