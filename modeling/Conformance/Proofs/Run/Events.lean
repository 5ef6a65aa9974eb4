import Conformance.CommandLine.Program
import Conformance.Proofs.Run.Course

/-!
# What a run reports

The events of a run without a stop at the first failure have a fixed shape: the banner, and for
each specification a mark, one line for every feature in order, and a summary.  The numbers of the
summary are taken from three counters that are kept in different places.  The statistics are counted
when the specification is loaded, the run counts what passes, comments and skipped tests included,
and the summary subtracts these again.  That the numbers are right in the end rests on the laws of
the statistics and on the weight of a single line.

## Parts

* `SpecificationRun` is what one specification has reported, and `SpecificationRun.block` its
  stretch of the report.
* `Completed` and `CompletedAll` say that specifications have run to their ends.
* `BreaksOff` says that a run met an error, and how far it got.
* `runEach_completes_or_breaksOff` is the run without the banner, and `runAll_events` the whole.
-/

namespace Conformance

variable {σ ρ : Type}

/-! ## The report of one specification -/

/-- A specification and the lines of its features in the report. -/
structure SpecificationRun where
  spec : Specification
  lines : List Event

namespace SpecificationRun

/-- How many tests have passed. -/
def passes (r : SpecificationRun) : ℕ :=
  r.lines.countP Event.isPass

/-- How many tests are not skipped. -/
def tests (r : SpecificationRun) : ℕ :=
  r.spec.features.countP Feature.runs

/-- The mark, one line for each feature, and the summary. -/
def block (r : SpecificationRun) : List Event :=
  .comment "---" :: (r.lines ++ [.summary r.spec.package r.passes r.tests])

/-- Only lines of features can be failures. -/
lemma forall_block_iff (r : SpecificationRun) :
    (∀ event ∈ r.block, event.isFail = false) ↔ ∀ event ∈ r.lines, event.isFail = false := by
  constructor
  · intro passed event found
    exact passed event (by simp [block, found])
  · intro passed event found
    rcases List.mem_cons.mp found with rfl | found
    · rfl
    rcases List.mem_append.mp found with found | found
    · exact passed event found
    · rw [List.mem_singleton.mp found]
      rfl

end SpecificationRun

section Runs

variable (h : Host σ) (reporter : Reporter ρ) (settings : Settings)

/-- A specification has run to its end.  The counter of the run and the statistics are large enough
for what the summary subtracts from them, and what is left are the tests that passed and those that
ran. -/
structure Completed (r : SpecificationRun) (s s' : Session σ ρ) : Prop where
  /-- Every feature has exactly one line, in order. -/
  lines : List.Forall₂ ReportedBy r.spec.features r.lines
  counted : ∃ passed s₁,
    runFeatures h reporter settings r.spec.features 0 { s with scope := r.spec.scope } =
        .ok passed s₁ ∧
      r.spec.stats.comments + r.spec.stats.skipped ≤ passed ∧
      passed - (r.spec.stats.comments + r.spec.stats.skipped) = r.passes
  skipped_le : r.spec.stats.skipped ≤ r.spec.stats.tests
  tests_eq : r.spec.stats.tests - r.spec.stats.skipped = r.tests
  passes_le : r.passes ≤ r.tests
  answers : runSpecification h reporter settings r.spec s = .ok (decide (r.passes = r.tests)) s'

/-- Specifications have run to their ends, one after the other. -/
inductive CompletedAll : Session σ ρ → List SpecificationRun → Session σ ρ → Prop
  | nil (s : Session σ ρ) : CompletedAll s [] s
  | cons {s s₁ s₂ s' : Session σ ρ} {r : SpecificationRun} {rs : List SpecificationRun}
      (marked : RunM.report reporter (.comment "---") s = .ok () s₁)
      (completed : Completed h reporter settings r s₁ s₂) (rest : CompletedAll s₂ rs s') :
      CompletedAll s (r :: rs) s'

/-- How far a run got that met an error: some specifications ran to their ends, and of the next one
some features have their lines, but the feature behind them could not be executed. -/
structure Breakage where
  runs : List SpecificationRun
  spec : Specification
  later : List Specification
  ran : List Feature
  lines : List Event
  stuck : Feature
  rest : List Feature

/-- What has been reported before the error was met. -/
def Breakage.events (b : Breakage) : List Event :=
  b.runs.flatMap SpecificationRun.block ++ .comment "---" :: b.lines

/-- A run of specifications meets an error at the place described. -/
structure BreaksOff (specs : List Specification) (s : Session σ ρ) (b : Breakage) (e : Error)
    (s' : Session σ ρ) : Prop where
  specs_eq : specs = b.runs.map SpecificationRun.spec ++ b.spec :: b.later
  features_eq : b.spec.features = b.ran ++ b.stuck :: b.rest
  lines : List.Forall₂ ReportedBy b.ran b.lines
  stuck : ∃ s₁ s₂ passed s₃, CompletedAll h reporter settings s b.runs s₁ ∧
    RunM.report reporter (.comment "---") s₁ = .ok () s₂ ∧
    runFeatures h reporter settings b.ran 0 { s₂ with scope := b.spec.scope } = .ok passed s₃ ∧
    execute h reporter b.stuck s₃ = .error e s'

end Runs

variable {h : Host σ} {reporter : Reporter ρ} {settings : Settings}

/-! ## Running one specification -/

section Single

variable {spec : Specification} {lines : List Event} {s : Session σ ρ} {scope : Scope} {w : World σ}

/-- **The counters balance.**  For a loaded specification with one line for each feature, neither
subtraction of the summary falls below zero, the first gives the tests that passed and the second
those that ran, and the counter of the run reaches all features exactly if these agree. -/
theorem counters_balance (loaded : spec.Loaded h)
    (reported : List.Forall₂ ReportedBy spec.features lines) :
    spec.stats.comments + spec.stats.skipped ≤ lines.countP (!·.isFail) ∧
      lines.countP (!·.isFail) - (spec.stats.comments + spec.stats.skipped) =
        lines.countP Event.isPass ∧
      spec.stats.skipped ≤ spec.stats.tests ∧
      spec.stats.tests - spec.stats.skipped = spec.features.countP Feature.runs ∧
      (lines.countP (!·.isFail) = spec.stats.features ↔
        lines.countP Event.isPass = spec.features.countP Feature.runs) := by
  have features := Stats.features_count spec.features
  have tests := Stats.tests_count spec.features
  have split := Stats.comments_add_tests spec.features
  rw [← Specification.stats_of_loaded loaded] at features tests split
  have tally := tally reported
  have le := countP_isPass_le reported
  omega

/-- A loaded specification whose features have a course to their end runs to its end. -/
lemma completed_of_course (goesOn : settings.exitFirst = false) (accepts : reporter.Accepts)
    (loaded : spec.Loaded h)
    (course : Course h spec.scope s.world spec.features lines scope w) :
    ∃ s', Completed h reporter settings ⟨spec, lines⟩ s s' ∧
      s'.taken = reporter.takeAll s.taken
        (lines ++ [.summary spec.package (lines.countP Event.isPass)
          (spec.features.countP Feature.runs)]) := by
  obtain ⟨enough, left, skipped_le, tests_eq, all_iff⟩ := counters_balance loaded course.lines
  have ran : runFeatures h reporter settings spec.features 0 { s with scope := spec.scope } =
      .ok (lines.countP (!·.isFail)) ⟨scope, w, reporter.takeAll s.taken lines⟩ :=
    runFeatures_of_whole_course goesOn accepts course s.taken
  have summary : spec.summary (lines.countP (!·.isFail)) =
      .summary spec.package (lines.countP Event.isPass) (spec.features.countP Feature.runs) := by
    rw [Specification.summary, left, tests_eq]
  have answers : runSpecification h reporter settings spec s =
      .ok (decide (lines.countP Event.isPass = spec.features.countP Feature.runs))
        ⟨scope, w, reporter.take (reporter.takeAll s.taken lines)
          (.summary spec.package (lines.countP Event.isPass)
            (spec.features.countP Feature.runs))⟩ := by
    rw [runSpecification_of_ok ran, bind_of_ok (RunM.report_of_accepts accepts _ _), summary,
      pure_apply, beq_eq_decide, decide_eq_decide.mpr all_iff]
  refine ⟨_, ⟨course.lines, ⟨_, _, ran, enough, left⟩, skipped_le, tests_eq,
    countP_isPass_le course.lines, answers⟩, ?_⟩
  rw [Reporter.takeAll_append]
  rfl

/-- A specification with a feature that cannot be executed ends there, without a summary. -/
lemma runSpecification_of_stuck (goesOn : settings.exitFirst = false) (accepts : reporter.Accepts)
    {ran rest : List Feature} {f : Feature} {e : Error} {w' : World σ}
    (features_eq : spec.features = ran ++ f :: rest)
    (course : Course h spec.scope s.world ran lines scope w)
    (stuck : h.attempt scope f w = .error e w') :
    ∃ passed s₁ s', runFeatures h reporter settings ran 0 { s with scope := spec.scope } =
        .ok passed s₁ ∧ execute h reporter f s₁ = .error e s' ∧
      runSpecification h reporter settings spec s = .error e s' ∧
      s'.taken = reporter.takeAll s.taken lines := by
  set s₁ : Session σ ρ := ⟨scope, w, reporter.takeAll s.taken lines⟩ with s₁_eq
  have reached : runFeatures h reporter settings ran 0 { s with scope := spec.scope } =
      .ok (lines.countP (!·.isFail)) s₁ :=
    runFeatures_of_whole_course goesOn accepts course s.taken
  have fails : execute h reporter f s₁ = .error e { s₁ with world := w' } :=
    execute_of_error stuck
  have ends : runFeatures h reporter settings spec.features 0 { s with scope := spec.scope } =
      .error e { s₁ with world := w' } :=
    runFeatures_eq_error_iff.mpr ⟨ran, f, rest, _, s₁, features_eq, reached, Or.inl fails⟩
  exact ⟨_, s₁, { s₁ with world := w' }, reached, fails,
    runSpecification_eq_error_iff.mpr (Or.inl ends), rfl⟩

end Single

/-! ## Running specifications -/

/-- Loaded specifications run to their ends or break off, whatever the host does, and the reporter
has taken all their blocks or those before the place of the error. -/
theorem runEach_completes_or_breaksOff (goesOn : settings.exitFirst = false)
    (accepts : reporter.Accepts) (specs : List Specification)
    (loaded : ∀ spec ∈ specs, spec.Loaded h) (success : Bool) (s : Session σ ρ) :
    (∃ runs s', runs.map SpecificationRun.spec = specs ∧
        CompletedAll h reporter settings s runs s' ∧
        runEach h reporter settings specs success s =
          .ok (success && decide (∀ r ∈ runs, r.passes = r.tests)) s' ∧
        s'.taken = reporter.takeAll s.taken (runs.flatMap SpecificationRun.block)) ∨
      ∃ b e s', BreaksOff h reporter settings specs s b e s' ∧
        runEach h reporter settings specs success s = .error e s' ∧
        s'.taken = reporter.takeAll s.taken b.events := by
  induction specs generalizing success s with
  | nil => exact Or.inl ⟨[], s, rfl, .nil s, by simp, rfl⟩
  | cons spec specs ih =>
    have loaded_spec : spec.Loaded h := loaded spec (List.mem_cons_self ..)
    have loaded_rest : ∀ spec ∈ specs, spec.Loaded h :=
      fun spec found => loaded spec (List.mem_cons_of_mem _ found)
    set s₁ : Session σ ρ := { s with taken := reporter.take s.taken (.comment "---") } with s₁_eq
    have marked : RunM.report reporter (.comment "---") s = .ok () s₁ :=
      RunM.report_of_accepts accepts _ s
    rcases course_or_stuck h spec.features spec.scope s₁.world with
      ⟨lines, scope, w, course⟩ | ⟨ran, f, rest, lines, scope, w, e, w', features_eq, course, stuck⟩
    · obtain ⟨s₂, completed, taken⟩ := completed_of_course goesOn accepts loaded_spec course
      have taken_block : s₂.taken =
          reporter.takeAll s.taken (SpecificationRun.block ⟨spec, lines⟩) := taken
      rcases ih loaded_rest (success && decide (lines.countP Event.isPass =
        spec.features.countP Feature.runs)) s₂ with
        ⟨runs, s', specs_eq, all, ran, rest_taken⟩ | ⟨b, e, s', breaks, fails, rest_taken⟩
      · refine Or.inl ⟨⟨spec, lines⟩ :: runs, s', by rw [List.map_cons, specs_eq],
          .cons marked completed all, ?_, ?_⟩
        · have both : (∀ r ∈ (⟨spec, lines⟩ : SpecificationRun) :: runs, r.passes = r.tests) ↔
              lines.countP Event.isPass = spec.features.countP Feature.runs ∧
                ∀ r ∈ runs, r.passes = r.tests := List.forall_mem_cons
          rw [runEach_cons, bind_of_ok marked, bind_of_ok completed.answers,
            decide_eq_decide.mpr both, Bool.decide_and, ← Bool.and_assoc]
          exact ran
        · rw [rest_taken, taken_block, List.flatMap_cons, Reporter.takeAll_append]
      · refine Or.inr ⟨{ b with runs := ⟨spec, lines⟩ :: b.runs }, e, s', ?_, ?_, ?_⟩
        · obtain ⟨s₃, s₄, passed, s₅, all, marked', reached, stuck⟩ := breaks.stuck
          refine ⟨by rw [List.map_cons, List.cons_append, ← breaks.specs_eq],
            breaks.features_eq, breaks.lines, s₃, s₄, passed, s₅, .cons marked completed all,
            marked', reached, stuck⟩
        · rw [runEach_cons, bind_of_ok marked, bind_of_ok completed.answers]
          exact fails
        · rw [rest_taken, taken_block, Breakage.events, Breakage.events, List.flatMap_cons,
            List.append_assoc, ← Reporter.takeAll_append]
    · obtain ⟨passed, s₂, s', reached, fails, ends, taken⟩ :=
        runSpecification_of_stuck goesOn accepts (s := s₁) features_eq course stuck
      refine Or.inr ⟨⟨[], spec, specs, ran, lines, f, rest⟩, e, s',
        ⟨rfl, features_eq, course.lines, s, s₁, passed, s₂, .nil s, marked, reached, fails⟩, ?_, ?_⟩
      · rw [runEach_cons, bind_of_ok marked, bind_of_error ends]
      · rw [taken]
        rfl

/-! ## The whole run -/

/-- What a run reports whose specifications have all run to their ends. -/
def eventsOf (settings : Settings) (runs : List SpecificationRun) : List Event :=
  .comment (banner settings.runtimeTag) :: runs.flatMap SpecificationRun.block

/-- Every specification has as many tests that passed as tests that ran exactly if no event of the
report is a failure. -/
lemma CompletedAll.forall_passes_eq_iff {s s' : Session σ ρ} {runs : List SpecificationRun}
    (all : CompletedAll h reporter settings s runs s') :
    (∀ r ∈ runs, r.passes = r.tests) ↔
      ∀ event ∈ eventsOf settings runs, event.isFail = false := by
  have blocks : (∀ r ∈ runs, r.passes = r.tests) ↔
      ∀ event ∈ runs.flatMap SpecificationRun.block, event.isFail = false := by
    induction all with
    | nil => simp
    | @cons s s₁ s₂ s' r rs marked completed rest ih =>
      have head : r.passes = r.tests ↔ ∀ event ∈ r.block, event.isFail = false :=
        (countP_isPass_eq_iff completed.lines).trans r.forall_block_iff.symm
      rw [List.forall_mem_cons, List.flatMap_cons, List.forall_mem_append]
      exact and_congr head ih
  rw [blocks, eventsOf, List.forall_mem_cons]
  exact (and_iff_right rfl).symm

/-- **What a run reports.**  Let loaded specifications run without a stop at the first failure, with
a reporter that takes every event.  If the run ends with an answer, the events are the banner and
then, for each specification in order, a mark, one line for each feature in order, and a summary
with the tests that passed and those that ran; the answer is true exactly if none of the events is a
failure.  If the run ends with an error, the events stop just before the line of the feature that
could not be executed. -/
theorem runAll_events (h : Host σ) (reporter : Reporter ρ) (settings : Settings)
    (goesOn : settings.exitFirst = false) (accepts : reporter.Accepts)
    (specs : List Specification) (loaded : ∀ spec ∈ specs, spec.Loaded h) (s s' : Session σ ρ) :
    (∀ success, runAll h reporter settings specs s = .ok success s' →
      ∃ runs opened, runs.map SpecificationRun.spec = specs ∧
        RunM.report reporter (.comment (banner settings.runtimeTag)) s = .ok () opened ∧
        CompletedAll h reporter settings opened runs s' ∧
        s'.taken = reporter.takeAll s.taken (eventsOf settings runs) ∧
        (success = true ↔ ∀ event ∈ eventsOf settings runs, event.isFail = false)) ∧
    (∀ e, runAll h reporter settings specs s = .error e s' →
      ∃ b opened, RunM.report reporter (.comment (banner settings.runtimeTag)) s = .ok () opened ∧
        BreaksOff h reporter settings specs opened b e s' ∧
        s'.taken = reporter.takeAll s.taken
          (eventsOf settings b.runs ++ .comment "---" :: b.lines)) := by
  have opens := RunM.report_of_accepts accepts (.comment (banner settings.runtimeTag)) s
  set opened : Session σ ρ :=
    { s with taken := reporter.take s.taken (.comment (banner settings.runtimeTag)) }
  have runs_on : runAll h reporter settings specs s =
      runEach h reporter settings specs true opened := by
    rw [runAll, bind_of_ok opens]
  rcases runEach_completes_or_breaksOff goesOn accepts specs loaded true opened with
    ⟨runs, s₁, specs_eq, all, ran, taken⟩ | ⟨b, e, s₁, breaks, fails, taken⟩
  · rw [runs_on, ran]
    constructor
    · intro success ended
      cases ended
      refine ⟨runs, opened, specs_eq, opens, all, taken, ?_⟩
      rw [Bool.true_and, decide_eq_true_iff]
      exact all.forall_passes_eq_iff
    · intro e ended
      cases ended
  · rw [runs_on, fails]
    constructor
    · intro success ended
      cases ended
    · intro e' ended
      cases ended
      exact ⟨b, opened, opens, breaks, taken⟩

/-! ### A run with a line of every kind -/

/-- A document with a comment, a test that passes, one that fails and one that is skipped. -/
def mixedNodes : List Yaml.Node :=
  [.sequence [.string "Pkg", .mapping [(.string "n=", .number (.int 1))],
    .mapping [(.string "n ==", .number (.int 2))], .mapping [(.string "(js) n ==", .null)]]]

/-- The features of that document. -/
def mixedFeatures : List Feature :=
  [.comment ⟨"Pkg", none, false⟩,
    .test ⟨none, false, some "n", none, false, [], [], .int 1, "n = 1"⟩,
    .test ⟨none, false, none, some "n", false, [], [], .int 2, "n == 2"⟩,
    .test ⟨some ["js"], true, none, some "n", false, [], [], .null, "n"⟩]

def mixedSpecification : Specification :=
  ⟨"Pkg", mixedFeatures, .new 0, .count mixedFeatures⟩

/-- The answer of an action, if it ends with one. -/
def answer? {τ α : Type} : EStateM.Result Error τ α → Option α
  | .ok a _ => some a
  | .error _ _ => none

lemma exists_of_answer? {τ α : Type} {r : EStateM.Result Error τ α} {a : α}
    (answers : answer? r = some a) : ∃ t, r = .ok a t := by
  cases r with
  | ok b t =>
    cases answers
    exact ⟨t, rfl⟩
  | error e t => cases answers

theorem mixedSpecification_events :
    mixedSpecification.Loaded emptyHost ∧
    ∃ s', runAll emptyHost .recorder ⟨"rs", false⟩ [mixedSpecification]
        ⟨.new 0, ⟨[], ()⟩, []⟩ = .ok false s' ∧
      ∃ runs, runs.map SpecificationRun.spec = [mixedSpecification] ∧
        s'.taken = eventsOf ⟨"rs", false⟩ runs ∧
        ¬ ∀ event ∈ eventsOf ⟨"rs", false⟩ runs, event.isFail = false := by
  have loaded : mixedSpecification.Loaded emptyHost := ⟨"rs", 0, mixedNodes, rfl⟩
  have fails : answer? (runAll emptyHost .recorder ⟨"rs", false⟩ [mixedSpecification]
      ⟨.new 0, ⟨[], ()⟩, []⟩) = some false := by
    decide +kernel
  refine ⟨loaded, ?_⟩
  cases ran : runAll emptyHost .recorder ⟨"rs", false⟩ [mixedSpecification]
      ⟨.new 0, ⟨[], ()⟩, []⟩ with
  | error e s' =>
    rw [ran] at fails
    cases fails
  | ok success s' =>
    rw [ran] at fails
    cases fails
    obtain ⟨runs, opened, specs_eq, -, -, taken, success_iff⟩ :=
      (runAll_events emptyHost .recorder ⟨"rs", false⟩ rfl Reporter.recorder_accepts
        [mixedSpecification] (by simpa using loaded) _ s').1 false ran
    rw [Reporter.takeAll_recorder, List.nil_append] at taken
    exact ⟨s', rfl, runs, specs_eq, taken, fun none_fails => by
      cases success_iff.mpr none_fails⟩

end Conformance
