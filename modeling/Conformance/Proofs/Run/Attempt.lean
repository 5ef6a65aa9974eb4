import Conformance.Proofs.Action
import Conformance.Run.Execute

/-!
# What a feature comes to

`Host.attempt` answers the scope after a feature and one event.  This module says which event that
may be and which errors may take its place.

A raised error belongs to the code under test, and the stages treat it differently.  Producing an
outcome turns it into the reserved value, and binding the outcome makes an assignment error of it,
so that neither stage ends in one.  Resolving the references lets it through.

## Parts

* `ReportedBy` relates a feature to the events that may be its line of the report, and
  `reportedBy_of_attempt` says that an attempt answers one of them.
* `attempt_of_raised` is the attempt of a test whose property raises.
* `attempt_raised_iff` says when an attempt ends in a raised error.
* `execute_of_ok` and `execute_of_error` run a feature whose attempt is known, and
  `attempt_of_execute` is the attempt of one that was executed.
-/

namespace Conformance

variable {σ ρ : Type}

/-! ## The line of a feature in the report -/

/-- The events that a feature may be reported by. -/
inductive ReportedBy : Feature → Event → Prop
  | heading (c : Comment) : ReportedBy (.comment c) (.heading c.text)
  | skipped (t : Test) (skipped : t.skip = true) : ReportedBy (.test t) (.skipped t.text)
  | pass (t : Test) (runs : t.skip = false) : ReportedBy (.test t) (.pass t.text)
  | fail (t : Test) (runs : t.skip = false) (failure : Failure) :
      ReportedBy (.test t) (.fail t.text failure)

/-- An outcome that is what was expected passes, if the value equals itself. -/
lemma Outcome.passes_of_eq {equal : Value → Value → Bool} {expected : Value} {o : Outcome}
    (same : o.value = expected) (self : equal expected expected = true) :
    o.passes equal expected = true := by
  rw [passes, same]
  split
  case isTrue null =>
    cases expected with
    | null => rfl
    | _ => cases null
  case isFalse => exact self

namespace Host

variable {h : Host σ} {s s' : Scope} {t : Test} {expected : Value} {o : Outcome} {w w' : World σ}
  {e : Error}

lemma reportedBy_verdict (runs : t.skip = false) :
    ReportedBy (.test t) (h.verdict w t expected o) := by
  unfold verdict
  split
  · exact .pass t runs
  · exact .fail t runs _

lemma settle_eq_ok_iff {event : Event} :
    h.settle s t expected o w = .ok (s', event) w' ↔
      s.bindTarget h t o.value w = .ok s' w' ∧ event = h.verdict w' t expected o := by
  unfold settle
  rw [bind_eq_ok_iff]
  constructor
  · rintro ⟨s₁, w₁, bound, settled⟩
    cases settled
    exact ⟨bound, rfl⟩
  · rintro ⟨bound, rfl⟩
    exact ⟨s', w', bound, rfl⟩

lemma settle_eq_error_iff :
    h.settle s t expected o w = .error e w' ↔ s.bindTarget h t o.value w = .error e w' := by
  unfold settle
  rw [bind_eq_error_iff]
  constructor
  · rintro (fails | ⟨s₁, w₁, -, settled⟩)
    · exact fails
    · cases settled
  · exact Or.inl

lemma attempt_of_skip (skipped : t.skip = true) :
    h.attempt s (.test t) = pure (s, .skipped t.text) := by
  rw [attempt, if_pos skipped]

lemma attempt_of_runs (runs : t.skip = false) :
    h.attempt s (.test t) = (do
      let r ← s.resolve h t
      let o ← h.produce s t r
      h.settle s t r.expected o) := by
  rw [attempt, if_neg (by simp [runs])]

/-- **One line for every feature.**  An attempt that ends without an error answers an event of its
feature, whatever the host does. -/
theorem reportedBy_of_attempt {f : Feature} {event : Event}
    (ok : h.attempt s f w = .ok (s', event) w') : ReportedBy f event := by
  cases f with
  | comment c =>
    cases ok
    exact .heading c
  | test t =>
    cases skip : t.skip with
    | true =>
      rw [attempt_of_skip skip] at ok
      cases ok
      exact .skipped t skip
    | false =>
      rw [attempt_of_runs skip] at ok
      obtain ⟨r, w₁, -, ok⟩ := bind_eq_ok_iff.mp ok
      obtain ⟨o, w₂, -, ok⟩ := bind_eq_ok_iff.mp ok
      obtain ⟨-, rfl⟩ := settle_eq_ok_iff.mp ok
      exact reportedBy_verdict skip

/-! ## Raised errors at each stage -/

lemma outcome_of_raised {action : HostM σ Value} (raises : action w = .error e w')
    (raised : e.isRaised = true) :
    outcome action w = .ok ⟨.error, some e.message⟩ w' := by
  unfold outcome
  simp only [raises, raised, if_true]

lemma isRaised_eq_false_of_outcome {action : HostM σ Value}
    (fails : outcome action w = .error e w') : e.isRaised = false := by
  unfold outcome at fails
  split at fails
  · cases fails
  · rename_i e₁ w₁ _
    cases raised : e₁.isRaised with
    | true =>
      rw [raised, if_pos rfl] at fails
      cases fails
    | false =>
      rw [raised, if_neg (by simp)] at fails
      cases fails
      exact raised

lemma produce_of_property {r : Resolved} {property : String} (reads : t.property = some property) :
    h.produce s t r = outcome (h.useProperty s property t.call r.args r.kwargs) := by
  rw [produce, reads]

lemma produce_of_no_property {r : Resolved} (reads : t.property = none) :
    h.produce s t r = pure ⟨r.expected, none⟩ := by
  rw [produce, reads]

/-- Producing an outcome never ends in a raised error. -/
lemma isRaised_eq_false_of_produce {r : Resolved} (fails : h.produce s t r w = .error e w') :
    e.isRaised = false := by
  cases reads : t.property with
  | none =>
    rw [produce_of_no_property reads] at fails
    cases fails
  | some property =>
    rw [produce_of_property reads] at fails
    exact isRaised_eq_false_of_outcome fails

/-- What keeps a target from taking a value is not raised. -/
lemma isRaised_eq_false_of_assign {text : String} {value : Value}
    (fails : s.assign h text value w = .error e w') : e.isRaised = false := by
  unfold Scope.assign at fails
  cases rest : (Path.ofString text).rest with
  | nil =>
    simp only [rest] at fails
    cases fails
  | cons segment rest' =>
    simp only [rest] at fails
    obtain ⟨e₀, -, rfl⟩ := HostM.mapError_eq_error_iff.mp fails
    exact Error.isRaised_ofAssignment text e₀

lemma isRaised_eq_false_of_bindTarget {value : Value}
    (fails : s.bindTarget h t value w = .error e w') : e.isRaised = false := by
  cases target : t.assign with
  | none =>
    rw [Scope.bindTarget, target] at fails
    cases fails
  | some path =>
    rw [Scope.bindTarget, target] at fails
    exact isRaised_eq_false_of_assign fails

/-- A raise during the use of the property is the outcome of the test, which is settled like any
other. -/
lemma attempt_of_raised {r : Resolved} {property : String} {w₁ w₂ : World σ}
    (runs : t.skip = false) (resolved : s.resolve h t w = .ok r w₁)
    (reads : t.property = some property)
    (raises : h.useProperty s property t.call r.args r.kwargs w₁ = .error e w₂)
    (raised : e.isRaised = true) :
    h.attempt s (.test t) w = h.settle s t r.expected ⟨.error, some e.message⟩ w₂ := by
  have produced : h.produce s t r w₁ = .ok ⟨.error, some e.message⟩ w₂ := by
    rw [produce_of_property reads]
    exact outcome_of_raised raises raised
  rw [attempt_of_runs runs, bind_of_ok resolved, bind_of_ok produced]

/-- An attempt ends in a raised error exactly if a reference of a test that runs raises when it is
looked up. -/
theorem attempt_raised_iff {f : Feature} :
    (h.attempt s f w = .error e w' ∧ e.isRaised = true) ↔
      ∃ t, f = .test t ∧ t.skip = false ∧ s.resolve h t w = .error e w' ∧ e.isRaised = true := by
  constructor
  · rintro ⟨fails, raised⟩
    cases f with
    | comment c => cases fails
    | test t =>
      cases skip : t.skip with
      | true =>
        rw [attempt_of_skip skip] at fails
        cases fails
      | false =>
        rw [attempt_of_runs skip] at fails
        rcases bind_eq_error_iff.mp fails with fails | ⟨r, w₁, -, fails⟩
        · exact ⟨t, rfl, skip, fails, raised⟩
        rcases bind_eq_error_iff.mp fails with fails | ⟨o, w₂, -, fails⟩
        · rw [isRaised_eq_false_of_produce fails] at raised
          cases raised
        · rw [isRaised_eq_false_of_bindTarget (settle_eq_error_iff.mp fails)] at raised
          cases raised
  · rintro ⟨t, rfl, runs, fails, raised⟩
    rw [attempt_of_runs runs]
    exact ⟨bind_of_error fails, raised⟩

end Host

/-! ## Executing a feature whose attempt is known -/

section Execute

variable {h : Host σ} {reporter : Reporter ρ} {f : Feature} {session session' : Session σ ρ}
  {e : Error} {w : World σ}

lemma execute_of_ok {s : Scope} {event : Event}
    (ok : h.attempt session.scope f session.world = .ok (s, event) w) :
    execute h reporter f session =
      RunM.announce reporter event { session with scope := s, world := w } := by
  rw [execute, bind_of_ok (RunM.scope_apply session), RunM.perform,
    bind_of_ok (RunM.ofHost_of_ok ok)]
  rfl

lemma execute_of_error (fails : h.attempt session.scope f session.world = .error e w) :
    execute h reporter f session = .error e { session with world := w } := by
  rw [execute, bind_of_ok (RunM.scope_apply session), RunM.perform,
    bind_of_error (RunM.ofHost_of_error fails)]

/-- A feature that is executed without an error is attempted without one, and the scope, the world
and the line of the report are those of the attempt. -/
lemma attempt_of_execute {passed : Bool}
    (ended : execute h reporter f session = .ok passed session') :
    ∃ event, h.attempt session.scope f session.world = .ok (session'.scope, event) session'.world ∧
      reporter.report event session.taken = .ok () session'.taken ∧ passed = !event.isFail := by
  cases attempted : h.attempt session.scope f session.world with
  | error e w =>
    rw [execute_of_error attempted] at ended
    cases ended
  | ok answer w =>
    obtain ⟨scope, event⟩ := answer
    rw [execute_of_ok attempted, RunM.announce, bind_apply, RunM.report_apply] at ended
    dsimp only at ended
    cases reported : reporter.report event session.taken with
    | error reason taken =>
      rw [reported] at ended
      cases ended
    | ok _ taken =>
      rw [reported] at ended
      cases ended
      exact ⟨event, rfl, reported, rfl⟩

end Execute

end Conformance
