import Conformance.Feature.Basic
import Conformance.Run.Session
import Conformance.Scope.Assign
import Conformance.Scope.Dereference

/-!
# Executing features

A comment is reported as a heading and a skipped test as skipped; both count as passed.  Any other
test goes through three stages.  The reference nodes in its arguments, its keyword arguments and its
expected result are replaced.  The property is called or read; if that raises, the outcome is the
reserved error value.  The outcome is bound to the target of the test, and then judged.

None of this needs the reporter.  What a feature comes to is the scope after it and one event, and
executing the feature takes over the one and reports the other.

## Parts

* `Outcome` is what a test produced; `Outcome.passes` and `Outcome.failure` judge it.
* `Host.useProperty` calls or reads a property, and `Host.outcome` turns a raised exception into an
  outcome.
* `Scope.resolve`, `Host.produce` and `Host.settle` are the stages of a test, and `Host.attempt` is
  what a feature comes to.
* `execute` runs one feature.
-/

namespace Conformance

/-! ## Outcomes -/

/-- What a test produced, with the message of the exception if one was raised. -/
structure Outcome where
  value : Value
  exception : Option String

namespace Outcome

/-- Whether the outcome is as expected.  If nothing is expected, anything but the reserved error
value will do. -/
def passes (equal : Value → Value → Bool) (expected : Value) (o : Outcome) : Bool :=
  if expected.isNull then !o.value.isError else equal o.value expected

/-- Why an outcome that does not pass fails. -/
def failure (render : Value → String) (expected : Value) (o : Outcome) : Failure :=
  match o.exception with
  | some message => .exception message
  | none => .mismatch (render o.value) (render expected)

end Outcome

/-! ## Using a property -/

namespace Host

variable {σ : Type} (h : Host σ)

/-- Call what a path names, or read it.  Reading a function calls it without arguments.  Keyword
arguments go along as one mapping behind the others. -/
def useProperty (s : Scope) (path : String) (call : Bool) (args : List Value) (kwargs : Mapping) :
    HostM σ Value := do
  let target ← s.lookup h path
  if call then
    let args := if kwargs.isEmpty then args else args ++ [.object kwargs]
    match target with
    | .cls c => h.construct c.id args
    | .function f => h.invoke f args
    | other => throw (.notCallable path other.typeName)
  else
    match target with
    | .function f => h.invoke f []
    | other => pure other

/-- The outcome of an action: its answer, or the reserved error value if it raised.  Other errors
stay errors. -/
def outcome (action : HostM σ Value) : HostM σ Outcome := fun w =>
  match action w with
  | .ok value w => .ok ⟨value, none⟩ w
  | .error e w => if e.isRaised then .ok ⟨.error, some e.message⟩ w else .error e w

end Host

/-! ## The stages of a test -/

variable {σ ρ : Type}

/-- A test with its reference nodes replaced. -/
structure Resolved where
  args : List Value
  kwargs : Mapping
  expected : Value

namespace Scope

/-- Replace the reference nodes of a test, in the order in which they are looked up. -/
def resolve (s : Scope) (h : Host σ) (t : Test) : HostM σ Resolved := do
  let args ← s.dereferenceItems h t.args
  let kwargs ← s.dereferenceEntries h t.kwargs
  let expected ← s.dereference h t.result
  return ⟨args, kwargs, expected⟩

/-- Bind the outcome of a test to its target, if it has one. -/
def bindTarget (s : Scope) (h : Host σ) (t : Test) (value : Value) : HostM σ Scope :=
  match t.assign with
  | some target => s.assign h target value
  | none => pure s

end Scope

namespace Host

variable (h : Host σ)

/-- What the property of a test produces; without a property it is what is expected. -/
def produce (s : Scope) (t : Test) (r : Resolved) : HostM σ Outcome :=
  match t.property with
  | some property => outcome (h.useProperty s property t.call r.args r.kwargs)
  | none => pure ⟨r.expected, none⟩

/-- The line of a test in the report, judged in the given world. -/
def verdict (w : World σ) (t : Test) (expected : Value) (o : Outcome) : Event :=
  if o.passes (h.equal w) expected then .pass t.text
  else .fail t.text (o.failure (h.render w) expected)

/-- Bind an outcome and judge it. -/
def settle (s : Scope) (t : Test) (expected : Value) (o : Outcome) : HostM σ (Scope × Event) := do
  let s ← s.bindTarget h t o.value
  return (s, h.verdict (← get) t expected o)

/-- What a feature comes to: the scope after it and the event that it is reported by. -/
def attempt (s : Scope) : Feature → HostM σ (Scope × Event)
  | .comment c => pure (s, .heading c.text)
  | .test t =>
    if t.skip then pure (s, .skipped t.text)
    else do
      let r ← s.resolve h t
      let o ← h.produce s t r
      h.settle s t r.expected o

end Host

/-! ## Executing -/

namespace RunM

/-- Report the event of a feature; true if the feature passed. -/
def announce (reporter : Reporter ρ) (event : Event) : RunM σ ρ Bool := do
  report reporter event
  return !event.isFail

/-- Take over what a feature comes to, its scope first, and report it. -/
def perform (reporter : Reporter ρ) (action : HostM σ (Scope × Event)) : RunM σ ρ Bool := do
  let (scope, event) ← ofHost action
  setScope scope
  announce reporter event

end RunM

/-- Run one feature; true if it passed. -/
def execute (h : Host σ) (reporter : Reporter ρ) (f : Feature) : RunM σ ρ Bool := do
  RunM.perform reporter (h.attempt (← RunM.scope) f)

end Conformance
