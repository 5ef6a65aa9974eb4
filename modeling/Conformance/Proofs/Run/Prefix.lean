import Conformance.Proofs.Run.Attempt
import Conformance.Run.All

/-!
# How far a run gets

A run goes through its features, and through its specifications, from first to last and ends at the
first one that does not let it go on.  So a run that ends in an error has a last place: everything
before it ran without an error, and the error was met there.  The lemmas name that place by
splitting the list, and give for each of the three levels the condition under which a run ends in a
given error.

## Parts

* `runFeatures_append` and `runEach_append` split a run in two.
* `runFeatures_eq_error_iff`, `runSpecification_eq_error_iff` and `runEach_eq_error_iff` name the
  place where an error was met.
-/

namespace Conformance

variable {σ ρ : Type} {h : Host σ} {reporter : Reporter ρ} {settings : Settings}
  {s s' s₁ : Session σ ρ} {e : Error}

/-! ## Features -/

section Features

variable {f : Feature} {rest : List Feature} {n n₁ : ℕ}

@[simp] lemma runFeatures_nil (n : ℕ) (s : Session σ ρ) :
    runFeatures h reporter settings [] n s = .ok n s := rfl

lemma runFeatures_cons (f : Feature) (rest : List Feature) (n : ℕ) :
    runFeatures h reporter settings (f :: rest) n = (do
      let passed ← execute h reporter f
      if passed then runFeatures h reporter settings rest (n + 1)
      else if settings.exitFirst then throw (.featureFailed f.text)
      else runFeatures h reporter settings rest n) := rfl

/-- Whether a run goes on behind a feature, given whether that passed. -/
lemma runFeatures_cons_of_ok {passed : Bool}
    (ok : execute h reporter f s = .ok passed s₁) (goes : passed || !settings.exitFirst) :
    runFeatures h reporter settings (f :: rest) n s =
      runFeatures h reporter settings rest (if passed then n + 1 else n) s₁ := by
  rw [runFeatures_cons, bind_of_ok ok]
  cases passed with
  | true => rfl
  | false =>
    have stays : settings.exitFirst = false := by simpa using goes
    simp only [stays, Bool.false_eq_true, if_false]

lemma runFeatures_cons_of_stop (ok : execute h reporter f s = .ok false s₁)
    (stops : settings.exitFirst = true) :
    runFeatures h reporter settings (f :: rest) n s = .error (.featureFailed f.text) s₁ := by
  rw [runFeatures_cons, bind_of_ok ok]
  simp only [stops, Bool.false_eq_true, if_false, if_true]
  rfl

lemma runFeatures_cons_of_error (fails : execute h reporter f s = .error e s₁) :
    runFeatures h reporter settings (f :: rest) n s = .error e s₁ := by
  rw [runFeatures_cons, bind_of_error fails]

/-- Running features is running the first of them and then the others. -/
theorem runFeatures_append (before after : List Feature) (n : ℕ) (s : Session σ ρ) :
    runFeatures h reporter settings (before ++ after) n s =
      (runFeatures h reporter settings before n >>=
        runFeatures h reporter settings after) s := by
  induction before generalizing n s with
  | nil => rfl
  | cons f before ih =>
    rw [List.cons_append]
    cases ran : execute h reporter f s with
    | error e s₁ =>
      rw [runFeatures_cons_of_error ran, bind_of_error (runFeatures_cons_of_error ran)]
    | ok passed s₁ =>
      by_cases goes : (passed || !settings.exitFirst) = true
      · rw [runFeatures_cons_of_ok ran goes, ih, bind_apply, bind_apply,
          runFeatures_cons_of_ok ran goes]
      · simp only [Bool.or_eq_true, Bool.not_eq_true', not_or, Bool.not_eq_false] at goes
        obtain ⟨failed, stops⟩ := goes
        rw [Bool.eq_false_iff.mpr failed] at ran
        rw [runFeatures_cons_of_stop ran stops, bind_of_error (runFeatures_cons_of_stop ran stops)]

/-- A run of features ends in an error at a feature that cannot be executed, or, if it stops at the
first failure, at one that fails. -/
theorem runFeatures_eq_error_iff {fs : List Feature} :
    runFeatures h reporter settings fs n s = .error e s' ↔
      ∃ before f after n₁ s₁, fs = before ++ f :: after ∧
        runFeatures h reporter settings before n s = .ok n₁ s₁ ∧
        (execute h reporter f s₁ = .error e s' ∨
          settings.exitFirst = true ∧ execute h reporter f s₁ = .ok false s' ∧
            e = .featureFailed f.text) := by
  constructor
  · intro fails
    induction fs generalizing n s with
    | nil => cases fails
    | cons f rest ih =>
      cases ran : execute h reporter f s with
      | error e₁ s₁ =>
        rw [runFeatures_cons_of_error ran] at fails
        cases fails
        exact ⟨[], f, rest, n, s, rfl, rfl, Or.inl ran⟩
      | ok passed s₁ =>
        by_cases goes : (passed || !settings.exitFirst) = true
        · rw [runFeatures_cons_of_ok ran goes] at fails
          obtain ⟨before, f', after, n₁, s₂, rfl, reached, met⟩ := ih fails
          refine ⟨f :: before, f', after, n₁, s₂, rfl, ?_, met⟩
          rw [runFeatures_cons_of_ok ran goes, reached]
        · simp only [Bool.or_eq_true, Bool.not_eq_true', not_or, Bool.not_eq_false] at goes
          obtain ⟨failed, stops⟩ := goes
          rw [Bool.eq_false_iff.mpr failed] at ran
          rw [runFeatures_cons_of_stop ran stops] at fails
          cases fails
          exact ⟨[], f, rest, n, s, rfl, rfl, Or.inr ⟨stops, ran, rfl⟩⟩
  · rintro ⟨before, f, after, n₁, s₁, rfl, reached, met⟩
    rw [runFeatures_append, bind_of_ok reached]
    rcases met with fails | ⟨stops, ran, rfl⟩
    · exact runFeatures_cons_of_error fails
    · exact runFeatures_cons_of_stop ran stops

end Features

/-! ## Specifications -/

section Specifications

variable {spec : Specification} {specs rest : List Specification} {success : Bool}

/-- The summary of a specification, given how many of its features have passed. -/
def Specification.summary (spec : Specification) (passed : ℕ) : Event :=
  .summary spec.package (passed - (spec.stats.comments + spec.stats.skipped))
    (spec.stats.tests - spec.stats.skipped)

lemma runSpecification_of_ok {n : ℕ}
    (ran : runFeatures h reporter settings spec.features 0 { s with scope := spec.scope } =
      .ok n s₁) :
    runSpecification h reporter settings spec s =
      (do
        RunM.report reporter (spec.summary n)
        return n == spec.stats.features : RunM σ ρ Bool) s₁ := by
  rw [runSpecification, bind_of_ok (RunM.setScope_apply _ s), bind_of_ok ran]
  rfl

/-- A run of one specification ends in an error among its features or at its summary. -/
lemma runSpecification_eq_error_iff :
    runSpecification h reporter settings spec s = .error e s' ↔
      runFeatures h reporter settings spec.features 0 { s with scope := spec.scope } =
          .error e s' ∨
        ∃ n s₁, runFeatures h reporter settings spec.features 0 { s with scope := spec.scope } =
            .ok n s₁ ∧
          RunM.report reporter (spec.summary n) s₁ = .error e s' := by
  cases ran : runFeatures h reporter settings spec.features 0 { s with scope := spec.scope } with
  | error e₁ s₁ =>
    have fails : runSpecification h reporter settings spec s = .error e₁ s₁ := by
      rw [runSpecification, bind_of_ok (RunM.setScope_apply _ s), bind_of_error ran]
    simp [fails]
  | ok n s₁ =>
    rw [runSpecification_of_ok ran, bind_eq_error_iff]
    simp

@[simp] lemma runEach_nil (success : Bool) (s : Session σ ρ) :
    runEach h reporter settings [] success s = .ok success s := rfl

lemma runEach_cons (spec : Specification) (rest : List Specification) (success : Bool) :
    runEach h reporter settings (spec :: rest) success = (do
      RunM.report reporter (.comment "---")
      let passed ← runSpecification h reporter settings spec
      runEach h reporter settings rest (success && passed)) := rfl

/-- Running specifications is running the first of them and then the others. -/
theorem runEach_append (before after : List Specification) (success : Bool) (s : Session σ ρ) :
    runEach h reporter settings (before ++ after) success s =
      (runEach h reporter settings before success >>= runEach h reporter settings after) s := by
  induction before generalizing success s with
  | nil => rfl
  | cons spec before ih =>
    rw [List.cons_append, runEach_cons, runEach_cons, bind_apply, bind_apply, bind_apply]
    cases RunM.report reporter (.comment "---") s with
    | error e s₁ => rfl
    | ok _ s₁ =>
      simp only
      rw [bind_apply, bind_apply]
      cases runSpecification h reporter settings spec s₁ with
      | error e s₂ => rfl
      | ok passed s₂ => exact ih (success && passed) s₂

/-- A run of specifications ends in an error at the mark before one of them or inside of one. -/
theorem runEach_eq_error_iff :
    runEach h reporter settings specs success s = .error e s' ↔
      ∃ before spec after success₁ s₁, specs = before ++ spec :: after ∧
        runEach h reporter settings before success s = .ok success₁ s₁ ∧
        (RunM.report reporter (.comment "---") s₁ = .error e s' ∨
          ∃ s₂, RunM.report reporter (.comment "---") s₁ = .ok () s₂ ∧
            runSpecification h reporter settings spec s₂ = .error e s') := by
  constructor
  · intro fails
    induction specs generalizing success s with
    | nil => cases fails
    | cons spec rest ih =>
      rw [runEach_cons] at fails
      rcases bind_eq_error_iff.mp fails with marked | ⟨_, s₁, marked, fails⟩
      · exact ⟨[], spec, rest, success, s, rfl, rfl, Or.inl marked⟩
      rcases bind_eq_error_iff.mp fails with fails | ⟨passed, s₂, ran, fails⟩
      · exact ⟨[], spec, rest, success, s, rfl, rfl, Or.inr ⟨s₁, marked, fails⟩⟩
      obtain ⟨before, spec', after, success₁, s₃, rfl, reached, met⟩ := ih fails
      refine ⟨spec :: before, spec', after, success₁, s₃, rfl, ?_, met⟩
      rw [runEach_cons, bind_of_ok marked, bind_of_ok ran, reached]
  · rintro ⟨before, spec, after, success₁, s₁, rfl, reached, met⟩
    rw [runEach_append, bind_of_ok reached, runEach_cons]
    rcases met with marked | ⟨s₂, marked, fails⟩
    · exact bind_of_error marked
    · rw [bind_of_ok marked, bind_of_error fails]

end Specifications

end Conformance
