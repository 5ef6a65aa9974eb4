import Conformance.CommandLine.Program
import Conformance.Proofs.Run.Prefix

/-!
# Raised errors and the run

An error that the code under test raises is meant to be the outcome of one test.  A test looks up
the references of its arguments, its keyword arguments and its expected result before it uses its
property, and only the use of the property is watched for raised errors.  So there are exactly two
fates.  A raise while a property is used becomes the reserved error value and the run goes on.  A
raise while a reference is looked up ends the run, at every level, and nothing else ends it in a
raised error: no comment or skipped test, no assignment, no reporter and no stop at the first
failure.

## Parts

* `execute_raised_iff` and `runSpecification_raised_iff` are the two lower levels.
* `Reaches` says that a run gets as far as a feature.
* `raised_ends_run_iff` puts both fates together.
-/

namespace Conformance

variable {σ ρ : Type}

section Levels

variable {h : Host σ} {reporter : Reporter ρ} {settings : Settings} {s s' : Session σ ρ}
  {e : Error}

/-- The references of a test that runs cannot be resolved in the session, and this is the error. -/
def Unresolved (h : Host σ) (f : Feature) (s : Session σ ρ) (e : Error) (s' : Session σ ρ) : Prop :=
  ∃ t w, f = .test t ∧ t.skip = false ∧ s.scope.resolve h t s.world = .error e w ∧
    s' = { s with world := w }

lemma execute_raised_iff {f : Feature} :
    (execute h reporter f s = .error e s' ∧ e.isRaised = true) ↔
      Unresolved h f s e s' ∧ e.isRaised = true := by
  constructor
  · rintro ⟨fails, raised⟩
    refine ⟨?_, raised⟩
    cases attempted : h.attempt s.scope f s.world with
    | ok answer w =>
      obtain ⟨scope, event⟩ := answer
      rw [execute_of_ok attempted, RunM.announce, bind_eq_error_iff] at fails
      rcases fails with refused | ⟨_, s₁, -, answered⟩
      · rw [RunM.not_isRaised_of_report refused] at raised
        cases raised
      · cases answered
    | error e₁ w =>
      rw [execute_of_error attempted] at fails
      cases fails
      obtain ⟨t, rfl, runs, unresolved, -⟩ := Host.attempt_raised_iff.mp ⟨attempted, raised⟩
      exact ⟨t, w, rfl, runs, unresolved, rfl⟩
  · rintro ⟨⟨t, w, rfl, runs, unresolved, rfl⟩, raised⟩
    have attempted := (Host.attempt_raised_iff.mpr ⟨t, rfl, runs, unresolved, raised⟩).1
    exact ⟨execute_of_error attempted, raised⟩

lemma runFeatures_raised_iff {fs : List Feature} {n : ℕ} :
    (runFeatures h reporter settings fs n s = .error e s' ∧ e.isRaised = true) ↔
      ∃ before f after n₁ s₁, fs = before ++ f :: after ∧
        runFeatures h reporter settings before n s = .ok n₁ s₁ ∧
        Unresolved h f s₁ e s' ∧ e.isRaised = true := by
  constructor
  · rintro ⟨fails, raised⟩
    obtain ⟨before, f, after, n₁, s₁, rfl, reached, met⟩ := runFeatures_eq_error_iff.mp fails
    rcases met with failed | ⟨-, -, rfl⟩
    · exact ⟨before, f, after, n₁, s₁, rfl, reached, execute_raised_iff.mp ⟨failed, raised⟩⟩
    · cases raised
  · rintro ⟨before, f, after, n₁, s₁, split, reached, unresolved⟩
    obtain ⟨failed, raised⟩ := execute_raised_iff.mpr unresolved
    exact ⟨runFeatures_eq_error_iff.mpr
      ⟨before, f, after, n₁, s₁, split, reached, Or.inl failed⟩, raised⟩

lemma runSpecification_raised_iff {spec : Specification} :
    (runSpecification h reporter settings spec s = .error e s' ∧ e.isRaised = true) ↔
      ∃ before f after n s₁, spec.features = before ++ f :: after ∧
        runFeatures h reporter settings before 0 { s with scope := spec.scope } = .ok n s₁ ∧
        Unresolved h f s₁ e s' ∧ e.isRaised = true := by
  rw [← runFeatures_raised_iff]
  constructor
  · rintro ⟨fails, raised⟩
    rcases runSpecification_eq_error_iff.mp fails with failed | ⟨n, s₁, -, refused⟩
    · exact ⟨failed, raised⟩
    · rw [RunM.not_isRaised_of_report refused] at raised
      cases raised
  · rintro ⟨failed, raised⟩
    exact ⟨runSpecification_eq_error_iff.mpr (Or.inl failed), raised⟩

/-- The run of specifications gets as far as a feature, and this is the session then: everything
before the feature has run without an error. -/
def Reaches (h : Host σ) (reporter : Reporter ρ) (settings : Settings) (specs : List Specification)
    (s : Session σ ρ) (f : Feature) (s' : Session σ ρ) : Prop :=
  ∃ before spec after success s₁ s₂, specs = before ++ spec :: after ∧
    runAll h reporter settings before s = .ok success s₁ ∧
    RunM.report reporter (.comment "---") s₁ = .ok () s₂ ∧
    ∃ ran rest n, spec.features = ran ++ f :: rest ∧
      runFeatures h reporter settings ran 0 { s₂ with scope := spec.scope } = .ok n s'

lemma runAll_raised_iff {specs : List Specification} :
    (runAll h reporter settings specs s = .error e s' ∧ e.isRaised = true) ↔
      ∃ f s₁, Reaches h reporter settings specs s f s₁ ∧ Unresolved h f s₁ e s' ∧
        e.isRaised = true := by
  constructor
  · rintro ⟨fails, raised⟩
    rcases bind_eq_error_iff.mp fails with refused | ⟨_, s₀, opened, fails⟩
    · rw [RunM.not_isRaised_of_report refused] at raised
      cases raised
    obtain ⟨before, spec, after, success, s₁, rfl, preceding, met⟩ :=
      runEach_eq_error_iff.mp fails
    rcases met with refused | ⟨s₂, marked, failed⟩
    · rw [RunM.not_isRaised_of_report refused] at raised
      cases raised
    obtain ⟨ran, f, rest, n, s₃, split, reached, unresolved⟩ :=
      runSpecification_raised_iff.mp ⟨failed, raised⟩
    refine ⟨f, s₃, ⟨before, spec, after, success, s₁, s₂, rfl, ?_, marked, ran, rest, n, split,
      reached⟩, unresolved⟩
    rw [runAll, bind_of_ok opened, preceding]
  · rintro ⟨f, s₃, ⟨before, spec, after, success, s₁, s₂, rfl, preceding, marked, ran, rest, n,
      split, reached⟩, unresolved⟩
    obtain ⟨failed, raised⟩ :=
      runSpecification_raised_iff.mpr ⟨ran, f, rest, n, s₃, split, reached, unresolved⟩
    obtain ⟨_, s₀, opened, preceding⟩ := bind_eq_ok_iff.mp preceding
    have fails := runEach_eq_error_iff.mpr
      ⟨before, spec, after, success, s₁, rfl, preceding, Or.inr ⟨s₂, marked, failed⟩⟩
    exact ⟨by rw [runAll, bind_of_ok opened, fails], raised⟩

end Levels

/-! ## The two fates of a raised error -/

/-- **Which raised errors end a run.**  Executing a feature, running a specification and running a
list of them end in a raised error exactly if the references of a test that was reached raise while
they are looked up.  A raise while the property of a test is used never gets out: the test is
settled with the reserved error value and the run goes on from there. -/
theorem raised_ends_run_iff (h : Host σ) (reporter : Reporter ρ) (settings : Settings)
    (s : Session σ ρ) :
    (∀ f e s', (execute h reporter f s = .error e s' ∧ e.isRaised = true) ↔
      Unresolved h f s e s' ∧ e.isRaised = true) ∧
    (∀ spec e s', (runSpecification h reporter settings spec s = .error e s' ∧
        e.isRaised = true) ↔
      ∃ before f after n s₁, spec.features = before ++ f :: after ∧
        runFeatures h reporter settings before 0 { s with scope := spec.scope } = .ok n s₁ ∧
        Unresolved h f s₁ e s' ∧ e.isRaised = true) ∧
    (∀ specs e s', (runAll h reporter settings specs s = .error e s' ∧ e.isRaised = true) ↔
      ∃ f s₁, Reaches h reporter settings specs s f s₁ ∧ Unresolved h f s₁ e s' ∧
        e.isRaised = true) ∧
    ∀ t r w₁ property e w₂, t.skip = false → s.scope.resolve h t s.world = .ok r w₁ →
      t.property = some property →
      h.useProperty s.scope property t.call r.args r.kwargs w₁ = .error e w₂ →
      e.isRaised = true →
      execute h reporter (.test t) s =
        RunM.perform reporter (h.settle s.scope t r.expected ⟨.error, some e.message⟩)
          { s with world := w₂ } := by
  refine ⟨fun f e s' => execute_raised_iff, fun spec e s' => runSpecification_raised_iff,
    fun specs e s' => runAll_raised_iff, ?_⟩
  intro t r w₁ property e w₂ runs resolved reads raises raised
  have attempted := Host.attempt_of_raised runs resolved reads raises raised
  rw [execute, bind_of_ok (RunM.scope_apply s), RunM.perform, RunM.perform, bind_apply, bind_apply,
    RunM.ofHost_apply, RunM.ofHost_apply, attempted]

/-! ### One test of each kind

Both look up a member of a number, which raises.  The first does so by its property and expects the
error; the second does so by an argument. -/

/-- A scope in which `n` is a number. -/
def scopeOfNumber : Scope :=
  ⟨[("n", .int 1)]⟩

/-- The start of a run without host objects, with nothing reported yet. -/
def startOf (s : Scope) : Session Unit (List Event) :=
  ⟨s, ⟨[], ()⟩, []⟩

/-- A test that reads a property and expects an error. -/
def readingTest (property : String) : Test where
  tags := none
  skip := false
  assign := none
  property := some property
  call := false
  args := []
  kwargs := []
  result := .error
  text := property ++ " == ERROR"

theorem raised_use_goes_on :
    (readingTest "n.size").skip = false ∧
    execute emptyHost .recorder (.test (readingTest "n.size")) (startOf scopeOfNumber) =
      RunM.perform .recorder
        (emptyHost.settle scopeOfNumber (readingTest "n.size") .error
          ⟨.error, some "undefined member 'size' for number"⟩)
        (startOf scopeOfNumber) := by
  have fates := raised_ends_run_iff emptyHost .recorder ⟨"rs", false⟩ (startOf scopeOfNumber)
  exact ⟨rfl, fates.2.2.2 (readingTest "n.size") ⟨[], [], .error⟩ ⟨[], ()⟩ "n.size"
    (.undefinedMember "size" "number") ⟨[], ()⟩ rfl rfl rfl rfl rfl⟩

/-- The text of a specification with a test that expects an error, but meets it in an argument. -/
def unresolvedText : String :=
  "- Pkg\n- \"n=\": 1\n- \"$import\": [\x7bn.size: null\x7d, \x7b\"==\": ERROR\x7d]\n"

/-- Whether a loaded specification, run on its own, ends in a raised error. -/
def endsRaised (loaded : Except Error (Option Specification)) : Bool :=
  match loaded with
  | .ok (some spec) =>
    match runAll emptyHost .recorder ⟨"rs", false⟩ [spec] (startOf (.new 0)) with
    | .error e _ => e.isRaised
    | .ok _ _ => false
  | _ => false

/-- It is not so that a loaded specification never ends a run in a raised error. -/
theorem runAll_raises_at_reference :
    ¬ ∀ (text : String) (spec : Specification) (e : Error) (s' : Session Unit (List Event)),
      Specification.load emptyHost "rs" 0 text = .ok (some spec) →
      runAll emptyHost .recorder ⟨"rs", false⟩ [spec] (startOf (.new 0)) = .error e s' →
      e.isRaised = false := by
  intro never
  have ends : endsRaised (Specification.load emptyHost "rs" 0 unresolvedText) = true := by
    decide +kernel
  unfold endsRaised at ends
  split at ends
  · rename_i spec loaded
    split at ends
    · rename_i e s' fails
      rw [never unresolvedText spec e s' loaded fails] at ends
      cases ends
    · cases ends
  · cases ends

end Conformance
