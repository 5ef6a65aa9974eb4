/-!
# Settings

What every specification of a run shares: the runtime that tag lists are read for, and whether the
run stops at the first failing feature.
-/

namespace Conformance

structure Settings where
  /-- Features with a tag list that does not name this runtime are skipped. -/
  runtimeTag : String
  /-- Whether the first failing feature ends the run. -/
  exitFirst : Bool
deriving DecidableEq

namespace Settings

/-- The runtime that specifications are read for unless another one is set. -/
def defaultRuntimeTag : String :=
  "rs"

/-- The settings of a run for which nothing is set. -/
def default : Settings :=
  ⟨defaultRuntimeTag, false⟩

end Settings

end Conformance
