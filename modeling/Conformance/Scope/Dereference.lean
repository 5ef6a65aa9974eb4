import Conformance.Scope.Basic

/-!
# Dereferencing

Before a test is run, every reference node in its arguments and in its expected result is replaced
by what its path names in the scope.  The nodes are looked up in document order, a failing look-up
ends the walk, and what a look-up answers is not searched again.

## Parts

* `Scope.dereference` does this for a value, `Scope.dereferenceItems` and
  `Scope.dereferenceEntries` for the items of a sequence and the entries of a mapping.
-/

namespace Conformance.Scope

variable {σ : Type} (s : Scope) (h : Host σ)

mutual

/-- The value with its reference nodes replaced. -/
def dereference : Value → HostM σ Value
  | .object [(path, .null)] => s.lookup h path
  | .object entries => do
    return .object (← dereferenceEntries entries)
  | .array items => do
    return .array (← dereferenceItems items)
  | v => pure v

def dereferenceItems : List Value → HostM σ (List Value)
  | [] => pure []
  | item :: rest => do
    let item ← dereference item
    let rest ← dereferenceItems rest
    pure (item :: rest)

/-- Keys and their order stay as they are. -/
def dereferenceEntries : List (String × Value) → HostM σ (List (String × Value))
  | [] => pure []
  | (key, item) :: rest => do
    let item ← dereference item
    let rest ← dereferenceEntries rest
    pure ((key, item) :: rest)

end

end Conformance.Scope
