import Conformance.CommandLine.Program
import Conformance.Proofs.Run.Visibility
import Conformance.Proofs.Value.Equality

/-!
# How tests are judged

A test is judged by one comparison.  What its property gave, or the reserved error value if the use
of the property raised, or without a property what is expected, is compared with what is expected,
and if null is expected, only with the reserved error value.  This module says what the comparison
decides, case by case: whether something should have been raised and whether it was.

One thing can hide a raise from the comparison.  A property may give the reserved error value
itself, and then nothing distinguishes what it gave from a raise.  What passes is therefore said of
tests in which this does not happen.  An instance that shows the reserved error value as its data
counts as that value, on both sides.

Values are compared and shown as they are when the outcome has been bound, since an assignment may
change what instances show.

## Parts

* `Use` is what the use of a property came to, and `Host.Uses` says when it came to that.
* `Use.passes_iff` is the judgement of a use, and `Use.verdict_eq_exception_iff` and
  `Use.verdict_of_gave` are the lines of tests that fail.
* `judged_of_execute` takes a test that was executed apart.
* `judgement_is_sound` is the result.
-/

namespace Conformance

variable {σ ρ : Type}

/-! ## Uses of properties -/

/-- What the use of a property came to: it gave a value, or it raised an exception. -/
inductive Use
  | gave (v : Value)
  | raised (message : String)

/-- The outcome that a test has from the use of its property. -/
def Use.outcome : Use → Outcome
  | gave v => ⟨v, none⟩
  | raised message => ⟨.error, some message⟩

/-- Resolving the property of a test and calling or reading what it names came to this. -/
inductive Host.Uses (h : Host σ) (s : Scope) (property : String) (t : Test) (r : Resolved)
    (w : World σ) : Use → World σ → Prop
  | gave {v : Value} {w' : World σ}
      (gives : h.useProperty s property t.call r.args r.kwargs w = .ok v w') :
      Uses h s property t r w (.gave v) w'
  | raised {e : Error} {w' : World σ}
      (raises : h.useProperty s property t.call r.args r.kwargs w = .error e w')
      (raised : e.isRaised = true) : Uses h s property t r w (.raised e.message) w'

lemma Host.uses_of_produce {h : Host σ} {s : Scope} {t : Test} {r : Resolved} {property : String}
    {o : Outcome} {w w' : World σ} (reads : t.property = some property)
    (produced : h.produce s t r w = .ok o w') :
    ∃ use, h.Uses s property t r w use w' ∧ o = use.outcome := by
  rw [produce_of_property reads, outcome] at produced
  split at produced
  case h_1 v w₁ gives =>
    cases produced
    exact ⟨.gave v, .gave gives, rfl⟩
  case h_2 e w₁ raises =>
    split at produced
    case isTrue raised =>
      cases produced
      exact ⟨.raised e.message, .raised raises raised, rfl⟩
    case isFalse => cases produced

/-! ## The judgement -/

namespace Use

variable {h : Host σ} {w : World σ} {t : Test} {expected : Value} {use : Use}

lemma equal_error_of_isError {v : Value} (is_error : v.isError = true) :
    h.equal w v .error = true := by
  cases v with
  | string s =>
    have text : s = "ERROR" := by simpa [Value.isError, Value.asString?] using is_error
    subst text
    obtain ⟨shows, eq⟩ := Value.exists_equalWith (h.views w)
    rw [Host.equal, eq]
    exact Value.equalWith_string_iff.mpr (Or.inl rfl)
  | _ => cases is_error

lemma not_equal_null_error : h.equal w .null .error = false := by
  obtain ⟨shows, eq⟩ := Value.exists_equalWith (h.views w)
  rw [Host.equal, eq]
  rfl

/-- If null is expected, what raises nothing passes. -/
lemma passes_null_iff (no_error : ∀ v, use = .gave v → h.equal w v .error = false) :
    use.outcome.passes (h.equal w) .null = true ↔ ∃ v, use = .gave v := by
  cases use with
  | gave v =>
    have not_error : v.isError = false := by
      cases is_error : v.isError with
      | false => rfl
      | true => exact (equal_error_of_isError is_error).symm.trans (no_error v rfl)
    simp [outcome, Outcome.passes, Value.isNull, not_error]
  | raised message =>
    have is_error : Value.error.isError = true := rfl
    simp [outcome, Outcome.passes, Value.isNull, is_error]

/-- If anything but null is expected, what was given, or the reserved error value in place of a
raise, must equal it. -/
lemma passes_of_ne_null (not_null : expected ≠ .null) :
    use.outcome.passes (h.equal w) expected = h.equal w use.outcome.value expected := by
  have is_not_null : expected.isNull = false := by
    cases expected with
    | null => exact absurd rfl not_null
    | _ => rfl
  rw [Outcome.passes, is_not_null, if_neg Bool.false_ne_true]

/-- **What passes.**  If null is expected, what raises nothing passes.  If the reserved error value
is expected, what raises passes.  If anything else is expected, what raises nothing and gives that
passes. -/
theorem passes_iff (one_view : (h.views w).ByIdentity)
    (no_error : ∀ v, use = .gave v → h.equal w v .error = false) :
    use.outcome.passes (h.equal w) expected = true ↔
      (expected = .null ∧ ∃ v, use = .gave v) ∨
      (h.equal w expected .error = true ∧ ∃ message, use = .raised message) ∨
      (expected ≠ .null ∧ h.equal w expected .error = false ∧
        ∃ v, use = .gave v ∧ h.equal w v expected = true) := by
  by_cases null : expected = .null
  · subst null
    simp [passes_null_iff no_error, not_equal_null_error]
  · rw [passes_of_ne_null null]
    cases use with
    | gave v =>
      -- What equals the reserved error value would be equal to a given value only if that were too.
      have expects_no_error (same : h.equal w v expected = true) :
          h.equal w expected .error = false := by
        cases error : h.equal w expected .error with
        | false => rfl
        | true =>
          have given_error := Value.equal_string_of_equal one_view same error
          exact given_error.symm.trans (no_error v rfl)
      constructor
      · intro same
        exact Or.inr (Or.inr ⟨null, expects_no_error same, v, rfl, same⟩)
      · rintro (⟨is_null, -⟩ | ⟨-, message, raised⟩ | ⟨-, -, v', gave, same⟩)
        · exact absurd is_null null
        · cases raised
        · cases gave
          exact same
    | raised message =>
      have turned : h.equal w .error expected = h.equal w expected .error :=
        Value.equal_string_comm (h.views w) expected
      simp [outcome, turned, null]

/-- A test fails with an exception exactly if it fails and its use raised that. -/
lemma verdict_eq_exception_iff {message : String} :
    h.verdict w t expected use.outcome = .fail t.text (.exception message) ↔
      use.outcome.passes (h.equal w) expected = false ∧ use = .raised message := by
  unfold Host.verdict
  split
  case isTrue passes => simp [passes]
  case isFalse failing =>
    rw [Bool.not_eq_true] at failing
    rw [failing]
    cases use <;> simp [outcome, Outcome.failure]

/-- A test whose use raised nothing fails with the two texts. -/
lemma verdict_of_gave {v : Value}
    (failing : (gave v).outcome.passes (h.equal w) expected = false) :
    h.verdict w t expected (gave v).outcome =
      .fail t.text (.mismatch (h.render w v) (h.render w expected)) := by
  rw [Host.verdict, failing, if_neg Bool.false_ne_true]
  rfl

end Use

/-! ## Executed tests -/

section Executed

variable {h : Host σ} {reporter : Reporter ρ} {t : Test} {session session' : Session σ ρ}
  {passed : Bool}

lemma Host.isFail_verdict {w : World σ} {expected : Value} {o : Outcome} :
    (h.verdict w t expected o).isFail = !o.passes (h.equal w) expected := by
  rw [verdict]
  cases o.passes (h.equal w) expected <;> rfl

lemma Host.verdict_eq_pass_iff {w : World σ} {expected : Value} {o : Outcome} :
    h.verdict w t expected o = .pass t.text ↔ o.passes (h.equal w) expected = true := by
  rw [verdict]
  cases o.passes (h.equal w) expected <;> simp

/-- What happens to a test that runs, one stage after the other. -/
lemma judged_of_execute (runs : t.skip = false)
    (ended : execute h reporter (.test t) session = .ok passed session') :
    ∃ r w₁ o w₂, session.scope.resolve h t session.world = .ok r w₁ ∧
      h.produce session.scope t r w₁ = .ok o w₂ ∧
      session.scope.bindTarget h t o.value w₂ = .ok session'.scope session'.world ∧
      reporter.report (h.verdict session'.world t r.expected o) session.taken =
        .ok () session'.taken ∧
      passed = o.passes (h.equal session'.world) r.expected := by
  obtain ⟨event, attempted, reported, passed_eq⟩ := attempt_of_execute ended
  rw [Host.attempt_of_runs runs] at attempted
  obtain ⟨r, w₁, resolved, attempted⟩ := bind_eq_ok_iff.mp attempted
  obtain ⟨o, w₂, produced, settled⟩ := bind_eq_ok_iff.mp attempted
  obtain ⟨bound, rfl⟩ := Host.settle_eq_ok_iff.mp settled
  rw [Host.isFail_verdict, Bool.not_not] at passed_eq
  exact ⟨r, w₁, o, w₂, resolved, produced, bound, reported, passed_eq⟩

end Executed

/-- **Soundness of the judgement.**  Let a test that is not skipped be executed without an error.
Its references are replaced, one event is reported, and the test passes exactly if this is the line
of a test that passed.

A test with a property passes if null is expected and the use of the property raised nothing, or if
the reserved error value is expected and it raised, or if something else is expected, it raised
nothing and gave this; otherwise it fails.  This holds unless the property gave the reserved error
value itself, and in worlds whose instances show their data by identity, as instances do.  When the
test fails, the reason is the exception that the use raised, with its message, and the texts of the
two values if it raised nothing.

A test without a property passes, unless a NaN stands in what it states, and a name without dots
that it assigns to holds the stated value.  What it states must have each key of a mapping once, as
mappings do. -/
theorem judgement_is_sound (h : Host σ) (reporter : Reporter ρ) (t : Test)
    (session session' : Session σ ρ) (passed : Bool) (runs : t.skip = false)
    (ended : execute h reporter (.test t) session = .ok passed session') :
    ∃ r w₁ event, session.scope.resolve h t session.world = .ok r w₁ ∧
      reporter.report event session.taken = .ok () session'.taken ∧
      (passed = true ↔ event = .pass t.text) ∧
      (∀ property, t.property = some property →
        ∃ use w₂, h.Uses session.scope property t r w₁ use w₂ ∧
          ((h.views session'.world).ByIdentity →
            (∀ v, use = .gave v → h.equal session'.world v .error = false) →
            (passed = true ↔
              (r.expected = .null ∧ ∃ v, use = .gave v) ∨
              (h.equal session'.world r.expected .error = true ∧
                ∃ message, use = .raised message) ∨
              (r.expected ≠ .null ∧ h.equal session'.world r.expected .error = false ∧
                ∃ v, use = .gave v ∧ h.equal session'.world v r.expected = true))) ∧
          (∀ message, event = .fail t.text (.exception message) ↔
            passed = false ∧ use = .raised message) ∧
          ∀ v, use = .gave v → passed = false →
            event = .fail t.text (.mismatch (h.render session'.world v)
              (h.render session'.world r.expected))) ∧
      (t.property = none → r.expected.KeysDistinct → r.expected.NanFree →
        passed = true ∧ ∀ target, t.assign = some target → '.' ∉ target.toList →
          session'.scope.get? target = some r.expected) := by
  obtain ⟨r, w₁, o, w₂, resolved, produced, bound, reported, rfl⟩ := judged_of_execute runs ended
  refine ⟨r, w₁, _, resolved, reported, Host.verdict_eq_pass_iff.symm, ?_, ?_⟩
  · intro property reads
    obtain ⟨use, used, rfl⟩ := Host.uses_of_produce reads produced
    refine ⟨use, w₂, used, Use.passes_iff, fun _ => Use.verdict_eq_exception_iff, ?_⟩
    rintro v rfl failing
    exact Use.verdict_of_gave failing
  · intro reads distinct free
    rw [Host.produce_of_no_property reads] at produced
    cases produced
    have self := Value.equal_self (h.views session'.world) r.expected distinct free
    refine ⟨Outcome.passes_of_eq rfl self, fun target assigns dotFree => ?_⟩
    rw [Scope.bindTarget_of_dotFree assigns dotFree] at bound
    obtain ⟨scope_eq, -⟩ := EStateM.Result.ok.inj bound
    rw [← scope_eq]
    exact Scope.get?_insert_self session.scope target r.expected

/-! ### An instance that shows the reserved error value -/

/-- A host whose functions raise and whose first instance shows the reserved error value. -/
def showingHost : Host Unit :=
  { emptyHost with
    call := fun _ _ => throw (.raised "out of order")
    views := fun _ => ⟨fun i => if i.id = 0 then some .error else none, 1⟩ }

/-- A session whose scope has such a function and this instance. -/
def showingSession : Session Unit (List Event) :=
  ⟨⟨[("f", .function ⟨"f", .host 0⟩), ("e", .inst ⟨"Fault", 0⟩)]⟩, ⟨[], ()⟩, []⟩

/-- A call of the function that expects the instance. -/
def raisingTest : Test where
  tags := none
  skip := false
  assign := none
  property := some "f"
  call := true
  args := []
  kwargs := []
  result := .reference "e"
  text := "f() == e"

theorem shown_error_expects_raise :
    execute showingHost .recorder (.test raisingTest) showingSession =
      .ok true { showingSession with taken := [.pass "f() == e"] } ∧
    (∃ message w, showingHost.Uses showingSession.scope "f" raisingTest
      ⟨[], [], .inst ⟨"Fault", 0⟩⟩ ⟨[], ()⟩ (.raised message) w) ∧
    execute showingHost .recorder (.test (statingTest "x" (.int 5))) showingSession =
      .ok true ⟨showingSession.scope.insert "x" (.int 5), ⟨[], ()⟩, [.pass "x ="]⟩ ∧
    (showingSession.scope.insert "x" (.int 5)).get? "x" = some (.int 5) := by
  have raises : execute showingHost .recorder (.test raisingTest) showingSession =
      .ok true { showingSession with taken := [.pass "f() == e"] } := rfl
  have states : execute showingHost .recorder (.test (statingTest "x" (.int 5))) showingSession =
      .ok true ⟨showingSession.scope.insert "x" (.int 5), ⟨[], ()⟩, [.pass "x ="]⟩ := rfl
  refine ⟨raises, ?_, states, ?_⟩
  · obtain ⟨r, w₁, event, resolved, -, -, judged, -⟩ := judgement_is_sound showingHost .recorder
      raisingTest showingSession _ true rfl raises
    have is_instance : (EStateM.Result.ok ⟨[], [], .inst ⟨"Fault", 0⟩⟩ ⟨[], ()⟩ :
        EStateM.Result Error (World Unit) Resolved) = .ok r w₁ := resolved
    cases is_instance
    obtain ⟨use, w₂, used, passes, -⟩ := judged "f" rfl
    have one_view : (showingHost.views ⟨[], ()⟩).ByIdentity := by
      intro i j same
      simp only [showingHost, same]
    have no_error : ∀ v, use = .gave v → showingHost.equal ⟨[], ()⟩ v .error = false := by
      rintro v rfl
      cases used with
      | gave gives => cases gives
    have shows_error : showingHost.equal ⟨[], ()⟩ (.inst ⟨"Fault", 0⟩) .error = true := by decide
    rcases (passes one_view no_error).mp rfl with ⟨is_null, -⟩ | ⟨-, message, rfl⟩ | ⟨-, other, -⟩
    · cases is_null
    · exact ⟨message, w₂, used⟩
    · exact absurd (shows_error.symm.trans other) (by decide)
  · obtain ⟨r, w₁, event, resolved, -, -, -, stated⟩ := judgement_is_sound showingHost .recorder
      (statingTest "x" (.int 5)) showingSession _ true rfl states
    have is_number : (EStateM.Result.ok ⟨[], [], .int 5⟩ ⟨[], ()⟩ :
        EStateM.Result Error (World Unit) Resolved) = .ok r w₁ := resolved
    cases is_number
    have distinct : (Value.int 5).KeysDistinct := by
      rintro (_ | _) entries there <;> cases there
    have free : (Value.int 5).NanFree := by
      rintro (_ | _) x there <;> cases there
    exact (stated rfl distinct free).2 "x" rfl (by decide)

end Conformance
