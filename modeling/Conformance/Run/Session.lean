import Conformance.Report.Event
import Conformance.Scope.Basic

/-!
# Sessions

While a specification runs, three things change: the scope that its features are resolved against,
the world of the host objects, and what the reporter has taken.  All three outlive an error.

## Parts

* `Session` holds the three, and `RunM` is an action on them.
* `RunM.ofHost`, `RunM.report`, `RunM.scope` and `RunM.setScope` reach each of them.
-/

namespace Conformance

/-- The state of a run. -/
structure Session (σ ρ : Type) where
  scope : Scope
  world : World σ
  taken : ρ

/-- An action of a run. -/
abbrev RunM (σ ρ : Type) := EStateM Error (Session σ ρ)

namespace RunM

variable {σ ρ α : Type}

/-- Act on the world. -/
def ofHost (action : HostM σ α) : RunM σ ρ α := fun s =>
  match action s.world with
  | .ok a w => .ok a { s with world := w }
  | .error e w => .error e { s with world := w }

/-- Hand an event to the reporter.  Its refusal ends the run. -/
def report (reporter : Reporter ρ) (event : Event) : RunM σ ρ Unit := fun s =>
  match reporter.report event s.taken with
  | .ok _ taken => .ok () { s with taken := taken }
  | .error reason taken => .error (.io reason) { s with taken := taken }

def scope : RunM σ ρ Scope := fun s =>
  .ok s.scope s

def setScope (scope : Scope) : RunM σ ρ Unit := fun s =>
  .ok () { s with scope := scope }

end RunM

end Conformance
