import Conformance.Value.Render
import Conformance.Yaml.Node.Basic

/-!
# Values from documents

The content of a document as a value.  Local tags are dropped.  Integers that do not fit into 64
signed bits become floating point.  The keys of a mapping become strings: scalars by their text, and
every other key by the text of its value.  Keys that become the same string share an entry, which
has the place of the first and the value of the last.

## Parts

* `Value.keyLayout` fixes how floating-point keys are laid out.
* `Value.ofNode` and `Value.keyText` are the conversion.
-/

namespace Conformance.Value

open Text Yaml

/-- As in rendered values, but without a plus, and with the names of documents for what is not
finite. -/
def keyLayout : Binary64.Layout where
  plainFrom := -5
  plainBelow := 16
  plus := []
  nan := ".nan".toList
  infinite := ".inf".toList
  negativeInfinite := "-.inf".toList

def ofNumber : Number → Value
  | .int i => if fitsInt64 i then .int (Int64.ofInt i) else .float (Binary64.ofInt i)
  | .float x => .float x

def numberText : Number → String
  | .int i => String.ofList (intDigits i)
  | .float x => String.ofList (x.render keyLayout)

/-- The text of a key, given the value that it is apart from being a key. -/
def keyText (key : Node) (value : Value) : String :=
  match key with
  | .string s => s
  | .number n => numberText n
  | .bool b => if b then "true" else "false"
  | .null => "null"
  | _ => value.render .none

mutual

/-- The value of a node. -/
def ofNode : Node → Value
  | .null => .null
  | .bool b => .bool b
  | .number n => ofNumber n
  | .string s => .string s
  | .sequence items => .array (ofItems items)
  | .mapping entries => .object (Assoc.ofList (ofEntries entries))
  | .tagged _ content => ofNode content

def ofItems : List Node → List Value
  | [] => []
  | item :: rest => ofNode item :: ofItems rest

/-- The entries with their keys as strings, before equal strings are merged. -/
def ofEntries : List (Node × Node) → List (String × Value)
  | [] => []
  | (key, value) :: rest => (keyText key (ofNode key), ofNode value) :: ofEntries rest

end

end Conformance.Value
