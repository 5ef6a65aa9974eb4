import Conformance.Assoc
import Conformance.Binary64.Basic

/-!
# Nodes

What a document says, apart from how it is written: null, booleans, numbers, strings, sequences and
mappings, and any of these under a local tag.  Keys may be nodes of every kind, and no mapping holds
two equal ones.

## Parts

* `Number` and `Node` are the content of documents.
* `Node.same` decides when two keys are equal: an integer never equals a floating-point number,
  and mappings are compared without regard to order.
* `Node.untagged` takes the local tags off.
-/

namespace Conformance.Yaml

/-- A number of a document.  Integers reach from the least 64-bit signed one to the greatest 64-bit
unsigned one. -/
inductive Number
  | int (i : Int)
  | float (x : Binary64)
deriving DecidableEq

/-- As keys, a NaN equals a NaN and the two zeros are equal. -/
def Number.same : Number → Number → Bool
  | .int a, .int b => a == b
  | .float a, .float b => (a.isNan && b.isNan) || a.equal b
  | _, _ => false

/-- The content of a part of a document. -/
inductive Node
  | null
  | bool (b : Bool)
  | number (n : Number)
  | string (s : String)
  | sequence (items : List Node)
  | mapping (entries : List (Node × Node))
  | tagged (tag : String) (content : Node)
deriving Inhabited

namespace Node

/-- Whether a list has an element for which a test holds, and the value beside it. -/
def findValue (test : Node → Bool) : List (Node × Node) → Option Node
  | [] => none
  | (key, value) :: rest => if test key then some value else findValue test rest

mutual

/-- Equality of content. -/
def same : Node → Node → Bool
  | .null, .null => true
  | .bool a, .bool b => a == b
  | .number a, .number b => a.same b
  | .string a, .string b => a == b
  | .sequence a, .sequence b => sameItems a b
  | .mapping a, .mapping b => a.length == b.length && entriesWithin a b
  | .tagged s a, .tagged t b => s == t && same a b
  | _, _ => false

def sameItems : List Node → List Node → Bool
  | [], [] => true
  | a :: as, b :: bs => same a b && sameItems as bs
  | _, _ => false

/-- Whether every entry has an equal one on the other side. -/
def entriesWithin : List (Node × Node) → List (Node × Node) → Bool
  | [], _ => true
  | (key, a) :: rest, other =>
    (match findValue (same key) other with
      | some b => same a b
      | none => false) && entriesWithin rest other

end

/-- The content under the local tags. -/
def untagged : Node → Node
  | .tagged _ content => content.untagged
  | node => node

def asString? : Node → Option String
  | .string s => some s
  | _ => none

end Node

end Conformance.Yaml
