import Conformance.Error
import Conformance.Text.Blank
import Conformance.Text.Decimal

/-!
# Dotted paths

A path names something in a scope: its first segment an entry, every further one a property of what
the segments before it name.  Segments may be empty.  On a sequence a segment is an index, and a
negative index counts from the end.

## Parts

* `Path.ofString` splits the text of a path at its dots.
* `sequenceIndex` reads a segment as an index into a sequence of a given length.
-/

namespace Conformance

open Text

/-- A path: the entry it starts from and the segments below it. -/
structure Path where
  first : String
  rest : List String
deriving DecidableEq

namespace Path

def ofString (text : String) : Path :=
  let (first, rest) := cut '.' text.toList
  ⟨String.ofList first, rest.map String.ofList⟩

/-- A text without dots is the name of an entry. -/
theorem ofString_of_notMem {text : String} (dotFree : '.' ∉ text.toList) :
    ofString text = ⟨text, []⟩ := by
  simp [ofString, cut_of_notMem dotFree]

end Path

/-- The position that a segment names in a sequence.  An index counted from the end may lie before
the start, which names no position; one beyond the end is answered as it is. -/
def sequenceIndex (segment : String) (length : Nat) : Except Error (Option Nat) :=
  match readInt64? (trim segment.toList) with
  | none => .error (.invalidIndex segment)
  | some index =>
    if 0 ≤ index then .ok (some index.toNat)
    else if index.natAbs ≤ length then .ok (some (length - index.natAbs))
    else .ok none

end Conformance
