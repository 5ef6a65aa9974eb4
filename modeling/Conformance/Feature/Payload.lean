import Conformance.Value.Basic
import Conformance.Text.Blank

/-!
# Payloads of calls

The right side of a called test is a sequence that mixes positional arguments, keyword arguments and
the expected result.  A single-entry mapping states the expected result if its key is `==`, and a
keyword argument if its key ends in `=`; every other item is positional.

## Parts

* `PayloadItem.ofValue` tells the three kinds apart.
* `Payload.ofItems` sorts a sequence: positional items keep their order, a repeated keyword keeps
  its first place and its last value, and the last expected result counts.
-/

namespace Conformance

open Text

/-- The marker of equality in keys and at the end of properties. -/
def equalityMark : String :=
  "=="

/-- One item of the sequence. -/
inductive PayloadItem
  | positional (value : Value)
  | keyword (name : String) (value : Value)
  | expected (value : Value)

/-- The name that a key gives to a keyword argument: all before its final equals sign, trimmed. -/
def keywordName? (key : String) : Option String :=
  match key.toList.reverse with
  | '=' :: name => some (String.ofList (trim name.reverse))
  | _ => none

def PayloadItem.ofValue : Value → PayloadItem
  | .object [(key, value)] =>
    if key = equalityMark then .expected value
    else
      match keywordName? key with
      | some name => .keyword name value
      | none => .positional (.object [(key, value)])
  | value => .positional value

/-- Arguments and expected result of a call. -/
structure Payload where
  args : List Value
  kwargs : Mapping
  result : Value

namespace Payload

/-- The payload of an empty sequence: nothing is passed and anything may come out. -/
def empty : Payload :=
  ⟨[], [], .null⟩

/-- Add one more item behind the others. -/
def add (p : Payload) : PayloadItem → Payload
  | .positional value => { p with args := p.args ++ [value] }
  | .keyword name value => { p with kwargs := p.kwargs.insert name value }
  | .expected value => { p with result := value }

def ofItems (items : List Value) : Payload :=
  items.foldl (fun p item => p.add (.ofValue item)) empty

end Payload

end Conformance
