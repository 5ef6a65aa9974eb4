import Conformance.Scope.Basic

/-!
# Assignment

An assignment binds the last segment of a path on the owner that the other segments name.  Plain
data is rebuilt with the one place replaced.  Classes and instances are shared, so a write to them
goes into the world, and data taken out of one of their members is written back after the change.
A function that is met as an owner takes a write only if it hands out a class or an instance, since
anything else it hands out is a copy.

## Parts

* `maxItems` is the length that no sequence exceeds, and `putAt` writes at a position of a sequence.
* `Host.setProperty` binds one segment on an owner.
* `Host.place` reads on the way to a write, and `Host.putBack` writes on the way back from it.
* `Host.store` walks to the owner and binds the last segment there.
* `Scope.assign` is the assignment; the scope changes only if all of it succeeds.
-/

namespace Conformance

/-- Whether writing to the value is seen by everyone who holds it. -/
def Value.isShared : Value → Bool
  | .cls _ | .inst _ => true
  | _ => false

/-- Whether the value is a host object rather than data. -/
def Value.isHostObject : Value → Bool
  | .function _ | .cls _ | .inst _ => true
  | _ => false

/-- The bytes that a value takes in a sequence.  A mapping is the widest one: three words for its
entries, four for their index and two for the keys of its hash. -/
def Value.width : Nat :=
  9 * 8

/-- The greatest length that a sequence can be extended to.  All its items together take no more
bytes than the greatest signed 64-bit integer says. -/
def maxItems : Nat :=
  Int64.maxValue.toInt.toNat / Value.width

/-- Put a value at a position, filling the gap behind the end with nulls.  This is for positions
that the sequence reaches or can be extended to, which `Host.setProperty` makes sure of. -/
def putAt (items : List Value) (position : Nat) (value : Value) : List Value :=
  if position < items.length then items.set position value
  else items ++ List.replicate (position - items.length) .null ++ [value]

namespace Host

variable {σ : Type} (h : Host σ)

/-- Bind a segment on an owner and answer the owner as it is then.  An index behind the end extends
a sequence, and one that no sequence reaches is a crash. -/
def setProperty (owner : Value) (segment : String) (value : Value) : HostM σ Value :=
  match owner with
  | .object entries => pure (.object (Assoc.insert entries segment value))
  | .array items => do
    match ← HostM.ofExcept (sequenceIndex segment items.length) with
    | some position =>
      if position < max items.length maxItems then pure (.array (putAt items position value))
      else throw .capacityOverflow
    | none => throw (.indexOutOfRange segment)
  | .cls c => do
    modify (·.setClassMember c segment value)
    pure owner
  | .inst i => do
    h.setMember i segment value
    pure owner
  | _ => throw (.cannotSet segment owner.typeName)

/-- The owner that takes a write: what a function hands out, if that is shared, and else the owner
itself. -/
def writable (owner : Value) : HostM σ Value :=
  match owner with
  | .function f => do
    let result ← h.invoke f []
    if result.isShared then pure result else throw (.writeLost f.name result.typeName)
  | _ => pure owner

/-- Read a place that is written below.  Unlike in a plain read, a mapping or a sequence must have
it. -/
def place (owner : Value) (segment : String) : HostM σ Value :=
  match owner with
  | .object entries =>
    match Assoc.get? entries segment with
    | some child => pure child
    | none => throw (.notDefined segment)
  | .array items => do
    let position ← HostM.ofExcept (sequenceIndex segment items.length)
    match position.bind (items[·]?) with
    | some child => pure child
    | none => throw (.indexOutOfRange segment)
  | _ => h.readMember owner segment

/-- Put what stands at a place back after a write below it.  A host object that a class or an
instance holds is shared and stays where it is. -/
def putBack (owner : Value) (segment : String) (child : Value) : HostM σ Value :=
  if owner.isShared && child.isHostObject then pure owner
  else h.setProperty owner segment child

/-- Bind the last of the segments below an owner, and answer the owner as it is then.  The first
segment is given apart from the others. -/
def store (value : Value) : (segment : String) → (rest : List String) → (owner : Value) →
    HostM σ Value
  | segment, [], owner => do
    let target ← h.writable owner
    let updated ← h.setProperty target segment value
    pure (if owner.isHostObject then owner else updated)
  | segment, next :: rest, owner => do
    let target ← h.writable owner
    let child ← h.place target segment
    let child ← store value next rest child
    let updated ← h.putBack target segment child
    pure (if owner.isHostObject then owner else updated)

end Host

/-- Bind the last segment of a path on the owner that the other segments name. -/
def Scope.assign {σ : Type} (s : Scope) (h : Host σ) (text : String) (value : Value) :
    HostM σ Scope :=
  let path := Path.ofString text
  match path.rest with
  | [] => pure (s.insert path.first value)
  | segment :: rest =>
    HostM.mapError (.ofAssignment text) do
      match s.get? path.first with
      | none => throw (.notDefined path.first)
      | some owner => return s.insert path.first (← h.store value segment rest owner)

end Conformance
