import Conformance.Binary64.Shortest
import Conformance.Text.Decimal

/-!
# The text of binary64 numbers

Two texts of a floating-point number occur in a specification: the one inside a rendered value and
the one of a number that serves as a mapping key.  Both are the shortest decimal; they differ in
the sign of a positive exponent and in the names of what is not finite.

## Parts

* `Binary64.Layout` holds the decisions of one text.
* `Binary64.render` writes a number in a layout.
* `Binary64.read?` reads the decimal notation of documents, names of infinity and NaN aside.
-/

namespace Conformance.Binary64

open Conformance.Text

/-! ## Writing -/

/-- How numbers are laid out.  The exponent of the first digit decides between plain and scientific
notation; plain notation always shows a fraction. -/
structure Layout where
  /-- The least exponent written in plain notation. -/
  plainFrom : Int
  /-- The first exponent too large for plain notation. -/
  plainBelow : Int
  /-- What stands between `e` and a positive exponent. -/
  plus : List Char
  nan : List Char
  infinite : List Char
  negativeInfinite : List Char

/-- The notation of a decimal whose first digit has a small enough exponent. -/
def plainDecimal (digits : List Char) (place : Int) : List Char :=
  if 0 ≤ place then digits ++ List.replicate place.toNat '0' ++ ['.', '0']
  else
    let fraction := (-place).toNat
    if fraction < digits.length then
      digits.take (digits.length - fraction) ++ '.' :: digits.drop (digits.length - fraction)
    else '0' :: '.' :: List.replicate (fraction - digits.length) '0' ++ digits

/-- The notation with one digit before the point and an exponent. -/
def scientific (layout : Layout) (digits : List Char) (exponent : Int) : List Char :=
  let fraction := if digits.length ≤ 1 then [] else '.' :: digits.drop 1
  let sign := if 0 ≤ exponent then layout.plus else []
  digits.take 1 ++ fraction ++ 'e' :: sign ++ intDigits exponent

/-- The text of a positive decimal. -/
def decimalText (layout : Layout) (n : Nat) (place : Int) : List Char :=
  let digits := natDigits n
  let exponent := place + digits.length - 1
  if layout.plainFrom ≤ exponent && exponent < layout.plainBelow then plainDecimal digits place
  else scientific layout digits exponent

/-- The text of a number. -/
def render (layout : Layout) (x : Binary64) : List Char :=
  match x.datum with
  | .nan => layout.nan
  | .infinite false => layout.infinite
  | .infinite true => layout.negativeInfinite
  | .finite negative coefficient exponent =>
    let sign := if negative then ['-'] else []
    if coefficient = 0 then sign ++ ['0', '.', '0']
    else
      let (n, place) := shortest coefficient exponent
      sign ++ decimalText layout n place

/-! ## Reading -/

/-- The exponent part, which may be absent. -/
def readExponent? : List Char → Option Int
  | [] => some 0
  | c :: rest => if c = 'e' || c = 'E' then readInt? rest else none

/-- An unsigned decimal: digits, perhaps a point and digits, perhaps an exponent, with at least one
digit around the point. -/
def readUnsigned? (negative : Bool) (text : List Char) : Option Binary64 :=
  let whole := text.takeWhile Char.isDigit
  let afterWhole := text.dropWhile Char.isDigit
  let (fraction, rest) :=
    match afterWhole with
    | '.' :: more => (more.takeWhile Char.isDigit, more.dropWhile Char.isDigit)
    | more => ([], more)
  if whole.isEmpty && fraction.isEmpty then none
  else
    (readExponent? rest).map fun exponent =>
      ofDecimal negative (natOfDigits (whole ++ fraction)) (exponent - fraction.length)

/-- A decimal with at most one sign in front. -/
def read? : List Char → Option Binary64
  | '-' :: text => readUnsigned? true text
  | '+' :: text => readUnsigned? false text
  | text => readUnsigned? false text

end Conformance.Binary64
