import Conformance.Value.Basic

/-!
# Equality of values

Data is equal by content: numbers across integers and floating point, sequences item by item,
mappings without regard to the order of their entries.  Functions, classes and instances are equal
to themselves only.  An instance also equals the data that its view shows, whichever side it stands
on, so that a test can state an instance as a literal.

## Parts

* `Value.equalWith` compares values given a comparison of instances with data.
* `Value.equal` closes it: an instance is compared through its view, as deep as instances can stand
  inside one another.
-/

namespace Conformance.Value

mutual

/-- Equality with the comparison of an instance with data left open. -/
def equalWith (shows : InstanceRef → Value → Bool) : Value → Value → Bool
  | .null, .null => true
  | .bool a, .bool b => a == b
  | .int a, .int b => a == b
  | .float a, .float b => a.equal b
  | .int a, .float b => (Binary64.ofInt a.toInt).equal b
  | .float a, .int b => (Binary64.ofInt b.toInt).equal a
  | .string a, .string b => a == b
  | .array a, .array b => equalItems shows a b
  | .object a, .object b => a.length == b.length && entriesWithin shows a b
  | .function a, .function b => a.code == b.code
  | .cls a, .cls b => a.id == b.id
  | .inst a, .inst b => a.id == b.id
  | .inst a, data => shows a data
  | data, .inst b => shows b data
  | _, _ => false

/-- Equality item by item. -/
def equalItems (shows : InstanceRef → Value → Bool) : List Value → List Value → Bool
  | [], [] => true
  | a :: as, b :: bs => equalWith shows a b && equalItems shows as bs
  | _, _ => false

/-- Whether every entry has an equal one with its key on the other side. -/
def entriesWithin (shows : InstanceRef → Value → Bool) : List (String × Value) → Mapping → Bool
  | [], _ => true
  | (key, a) :: rest, other =>
    (match other.get? key with
      | some b => equalWith shows a b
      | none => false) && entriesWithin shows rest other

end

/-- Equality with instances seen through at most so many views. -/
def equalUpTo (data : InstanceRef → Option Value) : Nat → Value → Value → Bool
  | 0, a, b => equalWith (fun _ _ => false) a b
  | depth + 1, a, b =>
    equalWith (fun i other =>
      match data i with
      | some view => equalUpTo data depth view other
      | none => false) a b

/-- Equality of values.  Either side may nest instances, hence twice the depth. -/
def equal (views : Views) (a b : Value) : Bool :=
  equalUpTo views.data (2 * views.depth) a b

end Conformance.Value
