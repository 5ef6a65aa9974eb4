import Mathlib.Data.List.Forall2
import Conformance.Proofs.Run.Prefix
import Conformance.Proofs.Specification.Statistics

/-!
# The course of a run

With a reporter that takes every event and no stop at the first failure, nothing that is reported
has any influence on the run.  The course of a list of features is then the same for all reporters:
each feature is attempted in the scope and the world that the one before has left, and answers one
event.

## Parts

* `Reporter.Accepts` says that a reporter takes everything, and `Reporter.takeAll` is its state
  after some events.
* `Course` relates features to the events they answer.  `course_or_stuck` says that every list of
  features has a course up to its end or up to a feature whose attempt fails.
* `runFeatures_of_course` runs features along their course.
* `Course.tally` and its companions count the events of a course.
-/

namespace Conformance

variable {σ ρ : Type}

/-! ## Reporters that take everything -/

namespace Reporter

/-- The reporter takes every event, in every state. -/
def Accepts (reporter : Reporter ρ) : Prop :=
  ∀ event taken, ∃ taken', reporter.report event taken = .ok () taken'

/-- The state of the reporter after an event, whether it takes it or not. -/
def take (reporter : Reporter ρ) (taken : ρ) (event : Event) : ρ :=
  match reporter.report event taken with
  | .ok _ taken => taken
  | .error _ taken => taken

/-- The state of the reporter after events. -/
def takeAll (reporter : Reporter ρ) (taken : ρ) (events : List Event) : ρ :=
  events.foldl reporter.take taken

variable {reporter : Reporter ρ}

@[simp] lemma takeAll_nil (taken : ρ) : reporter.takeAll taken [] = taken := rfl

@[simp] lemma takeAll_cons (taken : ρ) (event : Event) (events : List Event) :
    reporter.takeAll taken (event :: events) =
      reporter.takeAll (reporter.take taken event) events := rfl

lemma takeAll_append (taken : ρ) (before after : List Event) :
    reporter.takeAll taken (before ++ after) =
      reporter.takeAll (reporter.takeAll taken before) after :=
  List.foldl_append

lemma recorder_accepts : recorder.Accepts :=
  fun event taken => ⟨taken ++ [event], rfl⟩

/-- A recorder holds exactly the events that it was handed, in order. -/
lemma takeAll_recorder (taken events : List Event) :
    recorder.takeAll taken events = taken ++ events := by
  induction events generalizing taken with
  | nil => simp
  | cons event events ih =>
    have taken_event : recorder.take taken event = taken ++ [event] := rfl
    rw [takeAll_cons, taken_event, ih, List.append_assoc, List.singleton_append]

end Reporter

variable {h : Host σ} {reporter : Reporter ρ} {settings : Settings}

lemma RunM.report_of_accepts (accepts : reporter.Accepts) (event : Event) (s : Session σ ρ) :
    RunM.report reporter event s = .ok () { s with taken := reporter.take s.taken event } := by
  obtain ⟨taken, ok⟩ := accepts event s.taken
  rw [RunM.report, Reporter.take, ok]

lemma RunM.announce_of_accepts (accepts : reporter.Accepts) (event : Event) (s : Session σ ρ) :
    RunM.announce reporter event s =
      .ok (!event.isFail) { s with taken := reporter.take s.taken event } := by
  rw [RunM.announce, bind_of_ok (RunM.report_of_accepts accepts event s)]
  rfl

/-! ## Courses -/

/-- The features are attempted one after the other, and these are the events they answer and the
scope and the world they lead to. -/
inductive Course (h : Host σ) :
    Scope → World σ → List Feature → List Event → Scope → World σ → Prop
  | nil (s : Scope) (w : World σ) : Course h s w [] [] s w
  | cons {s s₁ s' : Scope} {w w₁ w' : World σ} {f : Feature} {fs : List Feature} {event : Event}
      {events : List Event} (attempted : h.attempt s f w = .ok (s₁, event) w₁)
      (rest : Course h s₁ w₁ fs events s' w') : Course h s w (f :: fs) (event :: events) s' w'

/-- Features have a course up to their end, or up to one that cannot be executed. -/
theorem course_or_stuck (h : Host σ) (fs : List Feature) (s : Scope) (w : World σ) :
    (∃ events s' w', Course h s w fs events s' w') ∨
      ∃ ran f rest events s₁ w₁ e w', fs = ran ++ f :: rest ∧ Course h s w ran events s₁ w₁ ∧
        h.attempt s₁ f w₁ = .error e w' := by
  induction fs generalizing s w with
  | nil => exact Or.inl ⟨[], s, w, .nil s w⟩
  | cons f fs ih =>
    cases attempted : h.attempt s f w with
    | error e w' => exact Or.inr ⟨[], f, fs, [], s, w, e, w', rfl, .nil s w, attempted⟩
    | ok answer w₁ =>
      obtain ⟨s₁, event⟩ := answer
      rcases ih s₁ w₁ with ⟨events, s', w', course⟩ | ⟨ran, f', rest, events, s₂, w₂, e, w', rfl,
        course, stuck⟩
      · exact Or.inl ⟨event :: events, s', w', .cons attempted course⟩
      · exact Or.inr ⟨f :: ran, f', rest, event :: events, s₂, w₂, e, w', rfl,
          .cons attempted course, stuck⟩

namespace Course

variable {s s' : Scope} {w w' : World σ} {fs : List Feature} {events : List Event}

/-- Every feature of a course has exactly one line, in order. -/
lemma lines (course : Course h s w fs events s' w') : List.Forall₂ ReportedBy fs events := by
  induction course with
  | nil => exact .nil
  | cons attempted _ ih => exact .cons (Host.reportedBy_of_attempt attempted) ih

end Course

/-- Running features along their course counts the events that are not failures and hands all of
them to the reporter.  What is behind these features runs from there. -/
theorem runFeatures_of_course (goesOn : settings.exitFirst = false) (accepts : reporter.Accepts)
    {s s' : Scope} {w w' : World σ} {fs : List Feature} {events : List Event}
    (course : Course h s w fs events s' w') (rest : List Feature) (n : ℕ) (taken : ρ) :
    runFeatures h reporter settings (fs ++ rest) n ⟨s, w, taken⟩ =
      runFeatures h reporter settings rest (n + events.countP (!·.isFail))
        ⟨s', w', reporter.takeAll taken events⟩ := by
  induction course generalizing n taken with
  | nil => rfl
  | @cons s s₁ s' w w₁ w' f fs event events attempted course ih =>
    have executed : execute h reporter f ⟨s, w, taken⟩ =
        .ok (!event.isFail) ⟨s₁, w₁, reporter.take taken event⟩ := by
      have ok : h.attempt (⟨s, w, taken⟩ : Session σ ρ).scope f
          (⟨s, w, taken⟩ : Session σ ρ).world = .ok (s₁, event) w₁ := attempted
      rw [execute_of_ok ok, RunM.announce_of_accepts accepts]
    rw [List.cons_append, runFeatures_cons_of_ok executed (by simp [goesOn]), ih,
      Reporter.takeAll_cons]
    congr 1
    cases failed : event.isFail with
    | true => simp [failed]
    | false => simp [failed]; omega

/-- Nothing is left behind features that have a course to their end. -/
lemma runFeatures_of_whole_course (goesOn : settings.exitFirst = false)
    (accepts : reporter.Accepts) {s s' : Scope} {w w' : World σ} {fs : List Feature}
    {events : List Event} (course : Course h s w fs events s' w') (taken : ρ) :
    runFeatures h reporter settings fs 0 ⟨s, w, taken⟩ =
      .ok (events.countP (!·.isFail)) ⟨s', w', reporter.takeAll taken events⟩ := by
  have along := runFeatures_of_course goesOn accepts course [] 0 taken
  rwa [List.append_nil, runFeatures_nil, Nat.zero_add] at along

/-! ## Counting lines -/

namespace ReportedBy

variable {f : Feature} {event : Event}

/-- What one feature adds to the counts: all but a failure add to the counter of the run, and a test
that runs adds to the tests on one side and, if it passes, to the other. -/
lemma weight (line : ReportedBy f event) :
    (if (!event.isFail) = true then 1 else 0) + (if f.runs = true then 1 else 0) =
      1 + (if event.isPass = true then 1 else 0) := by
  cases line with
  | heading c => rfl
  | skipped t skipped => simp [Event.isFail, Event.isPass, Feature.runs, skipped]
  | pass t runs => simp [Event.isFail, Event.isPass, Feature.runs, runs]
  | fail t runs failure => simp [Event.isFail, Event.isPass, Feature.runs, runs]

/-- A test that runs passes or fails, and nothing else does either. -/
lemma runs_iff (line : ReportedBy f event) :
    f.runs = true ↔ event.isPass = true ∨ event.isFail = true := by
  cases line with
  | heading c => simp [Event.isFail, Event.isPass, Feature.runs]
  | skipped t skipped => simp [Event.isFail, Event.isPass, Feature.runs, skipped]
  | pass t runs => simp [Event.isPass, Feature.runs, runs]
  | fail t runs failure => simp [Event.isFail, Feature.runs, runs]

lemma not_isPass_of_isFail (line : ReportedBy f event) (failed : event.isFail = true) :
    event.isPass = false := by
  cases line <;> simp_all [Event.isFail, Event.isPass]

end ReportedBy

section Counting

variable {fs : List Feature} {events : List Event}

/-- The counter of a run and the tests that run are together as many as the features and the tests
that pass. -/
lemma tally (lines : List.Forall₂ ReportedBy fs events) :
    events.countP (!·.isFail) + fs.countP Feature.runs =
      fs.length + events.countP Event.isPass := by
  induction lines with
  | nil => rfl
  | cons line _ ih =>
    have weight := line.weight
    rw [List.countP_cons, List.countP_cons, List.countP_cons, List.length_cons]
    omega

/-- Only tests that run can pass. -/
lemma countP_isPass_le (lines : List.Forall₂ ReportedBy fs events) :
    events.countP Event.isPass ≤ fs.countP Feature.runs := by
  induction lines with
  | nil => exact Nat.le_refl _
  | @cons f event fs events line _ ih =>
    have le : (if event.isPass = true then 1 else 0) ≤ if f.runs = true then 1 else 0 := by
      have runs_iff := line.runs_iff
      split_ifs <;> simp_all
    rw [List.countP_cons, List.countP_cons]
    omega

/-- All tests that run pass exactly if no line is a failure. -/
lemma countP_isPass_eq_iff (lines : List.Forall₂ ReportedBy fs events) :
    events.countP Event.isPass = fs.countP Feature.runs ↔
      ∀ event ∈ events, event.isFail = false := by
  induction lines with
  | nil => simp
  | @cons f event fs events line lines ih =>
    have le := countP_isPass_le lines
    have runs_iff := line.runs_iff
    rw [List.forall_mem_cons, ← ih, List.countP_cons, List.countP_cons]
    cases failed : event.isFail with
    | true =>
      rw [if_neg (by simp [line.not_isPass_of_isFail failed]), if_pos (runs_iff.mpr (.inr failed))]
      simp
      omega
    | false =>
      have same : event.isPass = f.runs := by
        rw [Bool.eq_iff_iff, runs_iff]
        simp [failed]
      rw [same]
      simp

end Counting

end Conformance
