/-!
# Decimal numerals

Writing a number in base ten and reading one back.  Sequence indices in paths, plain integers in
documents and the digits of floating-point text all go through here, so the digit class is ASCII
throughout.

## Parts

* `natDigits` and `intDigits` write, `natOfDigits` reads a run of digits by position.
* `readInt?` reads a whole text as an optionally signed numeral, and `readInt64?` refuses what does
  not fit into 64 bits.
-/

namespace Conformance.Text

/-! ## Writing -/

/-- The digits of a number, most significant first. -/
def natDigits (n : Nat) : List Char :=
  Nat.toDigits 10 n

/-- A minus sign if there is need of one, then the digits. -/
def intDigits : Int → List Char
  | .ofNat n => natDigits n
  | .negSucc n => '-' :: natDigits (n + 1)

/-! ## Reading -/

/-- The value of one digit; meaningful on the digit class only. -/
def digitValue (c : Char) : Nat :=
  c.toNat - '0'.toNat

/-- The number that a run of digits stands for. -/
def natOfDigits (digits : List Char) : Nat :=
  digits.foldl (fun total c => 10 * total + digitValue c) 0

/-- One or more digits and nothing else. -/
def readNat? (text : List Char) : Option Nat :=
  if text.isEmpty then none
  else if text.all Char.isDigit then some (natOfDigits text)
  else none

/-- A numeral with at most one sign in front; leading zeros are read over. -/
def readInt? : List Char → Option Int
  | '-' :: digits => (readNat? digits).map fun n => -(n : Int)
  | '+' :: digits => (readNat? digits).map Int.ofNat
  | digits => (readNat? digits).map Int.ofNat

/-- Whether a number is one of the 64-bit signed integers. -/
def fitsInt64 (i : Int) : Bool :=
  Int64.minValue.toInt ≤ i && i ≤ Int64.maxValue.toInt

/-- A numeral whose number is a 64-bit signed integer. -/
def readInt64? (text : List Char) : Option Int :=
  (readInt? text).filter fitsInt64

end Conformance.Text
