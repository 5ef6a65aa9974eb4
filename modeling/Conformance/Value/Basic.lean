import Conformance.Assoc
import Conformance.Binary64.Basic

/-!
# Values

A value is plain data, which is all that a document can hold, or a host object: a function, a class
or an instance that belongs to the code under test.  Host objects enter a value as references.  What
they do and what they hold is kept by the host, so copying a value copies its sequences and
mappings and shares its host objects.

## Parts

* `FunctionRef`, `ClassRef` and `InstanceRef` name a host object and carry its identity.
* `Value` and `Mapping` are the values.
* `Value.reference?` recognises a reference node, a mapping with one key and a null value that
  stands for what the key names in the scope.
* `Value.typeName` is the kind of a value as error messages word it.
-/

namespace Conformance

/-! ## Host objects as seen from values -/

/-- What runs when a function is called: the import function of a scope, told apart by the serial
number of the scope, or a function of the host. -/
inductive Code
  | importer (scope : Nat)
  | host (id : Nat)
deriving DecidableEq

/-- A function and the name it goes by. -/
structure FunctionRef where
  name : String
  code : Code
deriving DecidableEq

/-- A class and its name. -/
structure ClassRef where
  name : String
  id : Nat
deriving DecidableEq

/-- An instance and the name of its class. -/
structure InstanceRef where
  className : String
  id : Nat
deriving DecidableEq

/-! ## Values -/

/-- Plain data, and references to host objects. -/
inductive Value
  | null
  | bool (b : Bool)
  | int (i : Int64)
  | float (x : Binary64)
  | string (s : String)
  | array (items : List Value)
  | object (entries : List (String × Value))
  | function (f : FunctionRef)
  | cls (c : ClassRef)
  | inst (i : InstanceRef)
deriving Inhabited

/-- A mapping from keys to values, in the order in which the keys came in. -/
abbrev Mapping := Assoc String Value

namespace Value

/-- The reserved result: as an outcome it says that an exception was raised, as an expectation that
one should be. -/
def error : Value :=
  .string "ERROR"

def asString? : Value → Option String
  | .string s => some s
  | _ => none

def asInt? : Value → Option Int64
  | .int i => some i
  | _ => none

def isNull : Value → Bool
  | .null => true
  | _ => false

/-- Whether the value is the text of the reserved result. -/
def isError (v : Value) : Bool :=
  v.asString? == some "ERROR"

/-! ## Reference nodes -/

/-- The reference node of a path. -/
def reference (path : String) : Value :=
  .object [(path, .null)]

/-- The path of a reference node. -/
def reference? : Value → Option String
  | .object [(path, .null)] => some path
  | _ => none

@[simp] theorem reference?_reference (path : String) : (reference path).reference? = some path :=
  rfl

theorem eq_reference_of_reference? {v : Value} {path : String} (h : v.reference? = some path) :
    v = reference path := by
  unfold reference? at h
  split at h
  · cases h; rfl
  · cases h

/-! ## Kinds -/

/-- The kind of the value in error messages. -/
def typeName : Value → String
  | .null => "null"
  | .bool _ => "boolean"
  | .int _ | .float _ => "number"
  | .string _ => "string"
  | .array _ => "sequence"
  | .object _ => "mapping"
  | .function f => "function " ++ f.name
  | .cls c => "class " ++ c.name
  | .inst i => i.className ++ " instance"

end Value

/-! ## Data views -/

/-- How instances look as data: the view of an instance, if it has one, and a bound on the number of
instances that can stand inside one another. -/
structure Views where
  data : InstanceRef → Option Value
  depth : Nat

/-- Instances without data views. -/
def Views.none : Views :=
  ⟨fun _ => Option.none, 0⟩

end Conformance
