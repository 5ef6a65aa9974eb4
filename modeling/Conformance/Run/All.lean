import Conformance.Run.Execute
import Conformance.Settings.Basic
import Conformance.Specification.Basic

/-!
# Running specifications

The features of a specification run in order against its scope, and a summary follows them.
Specifications run one after the other, each from its own scope but all in one world.

## Parts

* `runFeatures` runs features and counts those that pass.
* `runSpecification` runs one specification and reports its summary.
* `runAll` runs a list of specifications; it succeeds if each of them does.
-/

namespace Conformance

variable {σ ρ : Type} (h : Host σ) (reporter : Reporter ρ) (settings : Settings)

/-- Run features in order, given how many have passed before, and answer how many have passed then.
With exit-first, a failing feature ends the run. -/
def runFeatures : List Feature → Nat → RunM σ ρ Nat
  | [], passed => pure passed
  | feature :: rest, passed => do
    if ← execute h reporter feature then
      runFeatures rest (passed + 1)
    else if settings.exitFirst then
      throw (.featureFailed feature.text)
    else
      runFeatures rest passed

/-- Run one specification; true if all its features pass.  Comments and skipped tests count as
passed while the features run, and are taken out of both numbers of the summary. -/
def runSpecification (spec : Specification) : RunM σ ρ Bool := do
  RunM.setScope spec.scope
  let passed ← runFeatures h reporter settings spec.features 0
  let reported := passed - (spec.stats.comments + spec.stats.skipped)
  let total := spec.stats.tests - spec.stats.skipped
  RunM.report reporter (.summary spec.package reported total)
  return passed == spec.stats.features

/-- The first line of a run. -/
def banner (runtime : String) : String :=
  " #  packspec (" ++ runtime ++ ")"

/-- Run specifications in order, given whether all before them succeeded. -/
def runEach : List Specification → Bool → RunM σ ρ Bool
  | [], success => pure success
  | spec :: rest, success => do
    RunM.report reporter (.comment "---")
    let passed ← runSpecification h reporter settings spec
    runEach rest (success && passed)

/-- Run a list of specifications; true if all of them succeed. -/
def runAll (specs : List Specification) : RunM σ ρ Bool := do
  RunM.report reporter (.comment (banner settings.runtimeTag))
  runEach h reporter settings specs true

end Conformance
