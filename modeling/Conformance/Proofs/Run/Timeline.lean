import Conformance.Proofs.Run.Course
import Conformance.Proofs.Run.Visibility

/-!
# The timeline of a run

A reporter can answer an event in two ways.  It takes the event, and the run goes on as if it had
not asked; or it refuses, and the run ends on the spot.  So nothing that a run does depends on what
its reporter has taken before.  With the reporter left out, a run is a list of events, each with the
scope and the world in which it is handed over, and an ending that is reached behind the last one.

Whatever is said about runs with different reporters, or about a run that is cut short, is said
about one timeline and different ways of handing it over.

## Parts

* `Place` is what a run sees of its session.
* `Timeline` is a run without its reporter, and `Timeline.replay` hands it to one.
* `Timeline.ofFeatures`, `Timeline.ofSpecification`, `Timeline.ofEach` and `Timeline.ofAll` are the
  timelines of the four levels of a run.
* `Timeline.replay_of_takes` and `Timeline.replay_of_refuses` are the two ways in which a replay
  ends.
* `runAll_eq_replay` is the result: a run is the replay of its timeline.
* `Timeline.course_of_ending`, `Timeline.course_of_moment` and `Timeline.course_of_ofSpecification`
  read the course of features off their timeline.
-/

namespace Conformance

variable {σ ρ α β : Type}

/-! ## Sessions without their reporter -/

/-- The scope and the world of a run. -/
structure Place (σ : Type) where
  scope : Scope
  world : World σ

/-- The session at a place, given what the reporter has taken. -/
def Place.session (p : Place σ) (taken : ρ) : Session σ ρ :=
  ⟨p.scope, p.world, taken⟩

def Session.place (s : Session σ ρ) : Place σ :=
  ⟨s.scope, s.world⟩

@[simp] lemma Session.place_session (s : Session σ ρ) : s.place.session s.taken = s := rfl

@[simp] lemma Place.place_session (p : Place σ) (taken : ρ) : (p.session taken).place = p := rfl

@[simp] lemma Place.taken_session (p : Place σ) (taken : ρ) : (p.session taken).taken = taken := rfl

/-- How an action ends, with what the reporter has taken put beside it. -/
def withTaken (taken : ρ) :
    EStateM.Result Error (Place σ) α → EStateM.Result Error (Session σ ρ) α
  | .ok a p => .ok a (p.session taken)
  | .error e p => .error e (p.session taken)

/-! ## Timelines -/

/-- A run without its reporter: events to be handed over, each with the place at which that happens,
and an ending behind the last of them. -/
inductive Timeline (σ α : Type)
  | done (ending : EStateM.Result Error (Place σ) α)
  | report (event : Event) (place : Place σ) (rest : Timeline σ α)

namespace Timeline

/-- The events with the places at which they are handed over. -/
def moments : Timeline σ α → List (Event × Place σ)
  | done _ => []
  | report event place rest => (event, place) :: rest.moments

def events (t : Timeline σ α) : List Event :=
  t.moments.map Prod.fst

def ending : Timeline σ α → EStateM.Result Error (Place σ) α
  | done ending => ending
  | report _ _ rest => rest.ending

/-- One timeline behind another, if that ends with an answer. -/
def andThen (next : α → Place σ → Timeline σ β) : Timeline σ α → Timeline σ β
  | done (.ok a p) => next a p
  | done (.error e p) => done (.error e p)
  | report event place rest => report event place (rest.andThen next)

/-- Hand a timeline to a reporter.  A refusal ends it. -/
def replay (reporter : Reporter ρ) : Timeline σ α → ρ → EStateM.Result Error (Session σ ρ) α
  | done ending, taken => withTaken taken ending
  | report event place rest, taken =>
    match reporter.report event taken with
    | .ok _ taken => rest.replay reporter taken
    | .error reason taken => .error (.io reason) (place.session taken)

@[simp] lemma moments_done (ending : EStateM.Result Error (Place σ) α) :
    (done ending).moments = [] := rfl

@[simp] lemma moments_report (event : Event) (place : Place σ) (rest : Timeline σ α) :
    (report event place rest).moments = (event, place) :: rest.moments := rfl

@[simp] lemma events_done (ending : EStateM.Result Error (Place σ) α) :
    (done ending).events = [] := rfl

@[simp] lemma events_report (event : Event) (place : Place σ) (rest : Timeline σ α) :
    (report event place rest).events = event :: rest.events := rfl

@[simp] lemma ending_report (event : Event) (place : Place σ) (rest : Timeline σ α) :
    (report event place rest).ending = rest.ending := rfl

lemma moments_andThen (t : Timeline σ α) (next : α → Place σ → Timeline σ β) :
    (t.andThen next).moments = t.moments ++ match t.ending with
      | .ok a p => (next a p).moments
      | .error _ _ => [] := by
  induction t with
  | done ending =>
    cases ending with
    | ok a p => rfl
    | error e p => rfl
  | report event place rest ih => rw [andThen, moments_report, ih]; rfl

lemma events_andThen (t : Timeline σ α) (next : α → Place σ → Timeline σ β) :
    (t.andThen next).events = t.events ++ match t.ending with
      | .ok a p => (next a p).events
      | .error _ _ => [] := by
  rw [events, moments_andThen, List.map_append]
  cases t.ending with
  | ok a p => rfl
  | error e p => rfl

lemma ending_andThen (t : Timeline σ α) (next : α → Place σ → Timeline σ β) :
    (t.andThen next).ending = match t.ending with
      | .ok a p => (next a p).ending
      | .error e p => .error e p := by
  induction t with
  | done ending =>
    cases ending with
    | ok a p => rfl
    | error e p => rfl
  | report event place rest ih => exact ih

end Timeline

/-! ## Handing a timeline over -/

section Handing

variable {reporter : Reporter ρ}

namespace Reporter

/-- The reporter takes these events, one after the other. -/
def Takes (reporter : Reporter ρ) : ρ → List Event → Prop
  | _, [] => True
  | taken, event :: events =>
    reporter.report event taken = .ok () (reporter.take taken event) ∧
      reporter.Takes (reporter.take taken event) events

lemma take_of_ok {event : Event} {taken taken' : ρ}
    (takes : reporter.report event taken = .ok () taken') :
    reporter.take taken event = taken' := by
  rw [take, takes]

lemma takes_of_accepts (accepts : reporter.Accepts) (taken : ρ) (events : List Event) :
    reporter.Takes taken events := by
  induction events generalizing taken with
  | nil => trivial
  | cons event events ih =>
    obtain ⟨taken', takes⟩ := accepts event taken
    refine ⟨?_, ih _⟩
    rw [take_of_ok takes, takes]

end Reporter

namespace Timeline

/-- A reporter that takes all events brings a timeline to its ending. -/
lemma replay_of_takes {t : Timeline σ α} {taken : ρ} (takes : reporter.Takes taken t.events) :
    t.replay reporter taken = withTaken (reporter.takeAll taken t.events) t.ending := by
  induction t generalizing taken with
  | done ending => rfl
  | report event place rest ih =>
    rw [events_report] at takes
    rw [replay, takes.1]
    exact ih takes.2

/-- A reporter that refuses an event ends the timeline where that event is handed over. -/
lemma replay_of_refuses {t : Timeline σ α} {taken last : ρ} {before after : List (Event × Place σ)}
    {event : Event} {place : Place σ} {reason : String}
    (split : t.moments = before ++ (event, place) :: after)
    (takes : reporter.Takes taken (before.map Prod.fst))
    (refuses : reporter.report event (reporter.takeAll taken (before.map Prod.fst)) =
      .error reason last) :
    t.replay reporter taken = .error (.io reason) (place.session last) := by
  induction t generalizing taken before with
  | done ending =>
    rw [moments_done] at split
    cases before <;> cases split
  | report event' place' rest ih =>
    rw [moments_report] at split
    cases before with
    | nil =>
      cases split
      have refuses_first : reporter.report event taken = .error reason last := refuses
      rw [replay, refuses_first]
    | cons moment before =>
      obtain ⟨rfl, rest_split⟩ := List.cons.inj split
      rw [replay, takes.1]
      exact ih rest_split takes.2 refuses

/-- A replay that ends with an answer has handed over everything. -/
lemma takes_of_replay {t : Timeline σ α} {taken : ρ} {a : α} {s : Session σ ρ}
    (answers : t.replay reporter taken = .ok a s) : reporter.Takes taken t.events := by
  induction t generalizing taken with
  | done ending => trivial
  | report event place rest ih =>
    rw [replay] at answers
    cases asked : reporter.report event taken with
    | error reason taken' =>
      rw [asked] at answers
      cases answers
    | ok _ taken' =>
      rw [asked] at answers
      rw [events_report]
      refine ⟨?_, ?_⟩
      · rw [Reporter.take_of_ok asked, asked]
      · rw [Reporter.take_of_ok asked]
        exact ih answers

/-- Handing over two timelines in a row is handing over the first and then the second. -/
lemma replay_andThen (reporter : Reporter ρ) (t : Timeline σ α) (next : α → Place σ → Timeline σ β)
    (taken : ρ) :
    (t.andThen next).replay reporter taken = match t.replay reporter taken with
      | .ok a s => (next a s.place).replay reporter s.taken
      | .error e s => .error e s := by
  induction t generalizing taken with
  | done ending =>
    cases ending with
    | ok a p => rfl
    | error e p => rfl
  | report event place rest ih =>
    rw [andThen, replay, replay]
    cases reporter.report event taken with
    | ok _ taken => exact ih taken
    | error reason taken => rfl

end Timeline

end Handing

/-! ## The timelines of a run -/

namespace Timeline

section Runs

variable (h : Host σ) (settings : Settings)

/-- Features are attempted one after the other, given how many have passed before.  With exit-first,
a failure is the last event. -/
def ofFeatures : List Feature → ℕ → Place σ → Timeline σ ℕ
  | [], passed, p => done (.ok passed p)
  | f :: rest, passed, p =>
    match h.attempt p.scope f p.world with
    | .ok (scope, event) w =>
      report event ⟨scope, w⟩ <|
        if event.isFail && settings.exitFirst then
          done (.error (.featureFailed f.text) ⟨scope, w⟩)
        else ofFeatures rest (if event.isFail then passed else passed + 1) ⟨scope, w⟩
    | .error e w => done (.error e ⟨p.scope, w⟩)

/-- The features of a specification run from its own scope, and a summary follows them. -/
def ofSpecification (spec : Specification) (w : World σ) : Timeline σ Bool :=
  (ofFeatures h settings spec.features 0 ⟨spec.scope, w⟩).andThen fun passed p =>
    report (spec.summary passed) p (done (.ok (passed == spec.stats.features) p))

/-- Specifications run one after the other, each behind a mark. -/
def ofEach : List Specification → Bool → Place σ → Timeline σ Bool
  | [], success, p => done (.ok success p)
  | spec :: rest, success, p =>
    report (.comment "---") p <|
      (ofSpecification h settings spec p.world).andThen fun passed p =>
        ofEach rest (success && passed) p

/-- The banner comes first. -/
def ofAll (specs : List Specification) (p : Place σ) : Timeline σ Bool :=
  report (.comment (banner settings.runtimeTag)) p (ofEach h settings specs true p)

end Runs

end Timeline

/-! ## A run is the replay of its timeline -/

section Replay

variable {h : Host σ} {reporter : Reporter ρ} {settings : Settings}

/-- The reporter is asked once, and only its refusal matters. -/
lemma announce_apply (event : Event) (p : Place σ) (taken : ρ) :
    RunM.announce reporter event (p.session taken) = match reporter.report event taken with
      | .ok _ taken => .ok (!event.isFail) (p.session taken)
      | .error reason taken => .error (.io reason) (p.session taken) := by
  rw [RunM.announce, bind_apply, RunM.report_apply, Place.taken_session]
  cases reporter.report event taken with
  | ok _ taken => rfl
  | error reason taken => rfl

lemma runFeatures_eq_replay (fs : List Feature) (n : ℕ) (s : Session σ ρ) :
    runFeatures h reporter settings fs n s =
      (Timeline.ofFeatures h settings fs n s.place).replay reporter s.taken := by
  induction fs generalizing n s with
  | nil => rfl
  | cons f rest ih =>
    have at_place : h.attempt s.place.scope f s.place.world = h.attempt s.scope f s.world := rfl
    rw [Timeline.ofFeatures, at_place]
    cases attempted : h.attempt s.scope f s.world with
    | error e w => exact runFeatures_cons_of_error (execute_of_error attempted)
    | ok answer w =>
      obtain ⟨scope, event⟩ := answer
      have executed : execute h reporter f s = match reporter.report event s.taken with
          | .ok _ taken => .ok (!event.isFail) ⟨scope, w, taken⟩
          | .error reason taken => .error (.io reason) ⟨scope, w, taken⟩ := by
        rw [execute_of_ok attempted]
        exact announce_apply event ⟨scope, w⟩ s.taken
      simp only [Timeline.replay]
      cases asked : reporter.report event s.taken with
      | error reason taken =>
        rw [asked] at executed
        exact runFeatures_cons_of_error executed
      | ok _ taken =>
        rw [asked] at executed
        cases failed : event.isFail with
        | false =>
          rw [failed] at executed
          rw [runFeatures_cons_of_ok executed (by simp), ih]
          rfl
        | true =>
          rw [failed] at executed
          cases stops : settings.exitFirst with
          | true => exact runFeatures_cons_of_stop executed stops
          | false =>
            rw [runFeatures_cons_of_ok executed (by simp [stops]), ih]
            rfl

lemma runSpecification_eq_replay (spec : Specification) (s : Session σ ρ) :
    runSpecification h reporter settings spec s =
      (Timeline.ofSpecification h settings spec s.world).replay reporter s.taken := by
  have features : runFeatures h reporter settings spec.features 0 { s with scope := spec.scope } =
      (Timeline.ofFeatures h settings spec.features 0 ⟨spec.scope, s.world⟩).replay reporter
        s.taken :=
    runFeatures_eq_replay spec.features 0 { s with scope := spec.scope }
  rw [runSpecification, bind_of_ok (RunM.setScope_apply _ s), bind_apply, features,
    Timeline.ofSpecification, Timeline.replay_andThen]
  cases (Timeline.ofFeatures h settings spec.features 0 ⟨spec.scope, s.world⟩).replay reporter
    s.taken with
  | error e s₁ => rfl
  | ok passed s₁ =>
    simp only [Timeline.replay]
    rw [bind_apply, RunM.report_apply]
    have summary : spec.summary passed = .summary spec.package
      (passed - (spec.stats.comments + spec.stats.skipped))
      (spec.stats.tests - spec.stats.skipped) := rfl
    rw [← summary]
    cases reporter.report (spec.summary passed) s₁.taken with
    | ok _ taken => rfl
    | error reason taken => rfl

lemma runEach_eq_replay (specs : List Specification) (success : Bool) (s : Session σ ρ) :
    runEach h reporter settings specs success s =
      (Timeline.ofEach h settings specs success s.place).replay reporter s.taken := by
  induction specs generalizing success s with
  | nil => rfl
  | cons spec rest ih =>
    rw [runEach_cons, bind_apply, RunM.report_apply, Timeline.ofEach, Timeline.replay]
    cases reporter.report (.comment "---") s.taken with
    | error reason taken => rfl
    | ok _ taken =>
      simp only
      rw [bind_apply, runSpecification_eq_replay, Timeline.replay_andThen]
      have at_place : s.place.world = ({ s with taken := taken } : Session σ ρ).world := rfl
      rw [at_place]
      cases (Timeline.ofSpecification h settings spec
        ({ s with taken := taken } : Session σ ρ).world).replay reporter taken with
      | error e s₁ => rfl
      | ok passed s₁ => exact ih (success && passed) s₁

/-- **A run is the replay of its timeline.**  The timeline depends on the scope and the world from
which the run starts and not on the reporter. -/
theorem runAll_eq_replay (h : Host σ) (reporter : Reporter ρ) (settings : Settings)
    (specs : List Specification) (s : Session σ ρ) :
    runAll h reporter settings specs s =
      (Timeline.ofAll h settings specs s.place).replay reporter s.taken := by
  rw [runAll, bind_apply, RunM.report_apply, Timeline.ofAll, Timeline.replay]
  cases reporter.report (.comment (banner settings.runtimeTag)) s.taken with
  | error reason taken => rfl
  | ok _ taken => exact runEach_eq_replay specs true { s with taken := taken }

/-- A reporter that takes all events has a part in nothing but what is taken. -/
lemma runAll_of_takes {specs : List Specification} {p : Place σ} {taken : ρ}
    (takes : reporter.Takes taken (Timeline.ofAll h settings specs p).events) :
    runAll h reporter settings specs (p.session taken) =
      withTaken (reporter.takeAll taken (Timeline.ofAll h settings specs p).events)
        (Timeline.ofAll h settings specs p).ending := by
  rw [runAll_eq_replay, Place.place_session, Place.taken_session, Timeline.replay_of_takes takes]

/-- A run that ends with an answer has come to the ending of its timeline, and its reporter has
taken everything. -/
lemma Timeline.ending_of_runAll {specs : List Specification} {s s' : Session σ ρ} {success : Bool}
    (ran : runAll h reporter settings specs s = .ok success s') :
    ∃ q, (Timeline.ofAll h settings specs s.place).ending = .ok success q ∧
      s'.taken = reporter.takeAll s.taken (Timeline.ofAll h settings specs s.place).events := by
  -- A refusal would have been the end, and it is not an answer.
  have replayed := ran
  rw [runAll_eq_replay] at replayed
  have takes := Timeline.takes_of_replay replayed
  rw [Timeline.replay_of_takes takes] at replayed
  cases ends : (Timeline.ofAll h settings specs s.place).ending with
  | error e q =>
    rw [ends] at replayed
    cases replayed
  | ok success q =>
    rw [ends] at replayed
    cases replayed
    exact ⟨q, rfl, rfl⟩

end Replay

/-! ## The course of features -/

namespace Timeline

variable {h : Host σ} {settings : Settings} {fs : List Feature} {n : ℕ} {p q : Place σ}

/-- Features that are run to their end have a course, and all lines but failures are counted. -/
lemma course_of_ending {m : ℕ} (ends : (ofFeatures h settings fs n p).ending = .ok m q) :
    Course h p.scope p.world fs (ofFeatures h settings fs n p).events q.scope q.world ∧
      m = n + (ofFeatures h settings fs n p).events.countP (!·.isFail) := by
  induction fs generalizing n p with
  | nil =>
    cases ends
    exact ⟨.nil _ _, rfl⟩
  | cons f rest ih =>
    rw [ofFeatures] at ends ⊢
    cases attempted : h.attempt p.scope f p.world with
    | error e w =>
      rw [attempted] at ends
      cases ends
    | ok answer w =>
      obtain ⟨scope, event⟩ := answer
      simp only [attempted, ending_report, events_report] at ends ⊢
      split at ends
      · cases ends
      · rename_i goes
        obtain ⟨course, counted⟩ := ih ends
        rw [if_neg goes]
        refine ⟨.cons attempted course, ?_⟩
        rw [counted, List.countP_cons]
        cases event.isFail <;> simp
        omega

/-- Up to an event that is handed over, exactly the features are attempted whose lines are the
events before it and the event itself. -/
lemma course_of_moment {before after : List (Event × Place σ)} {event : Event}
    (split : (ofFeatures h settings fs n p).moments = before ++ (event, q) :: after) :
    ∃ ran f rest, fs = ran ++ f :: rest ∧
      Course h p.scope p.world (ran ++ [f]) (before.map Prod.fst ++ [event]) q.scope q.world := by
  induction fs generalizing n p before with
  | nil =>
    rw [ofFeatures, moments_done] at split
    cases before <;> cases split
  | cons f rest ih =>
    rw [ofFeatures] at split
    cases attempted : h.attempt p.scope f p.world with
    | error e w =>
      simp only [attempted, moments_done] at split
      cases before <;> cases split
    | ok answer w =>
      obtain ⟨scope, event'⟩ := answer
      simp only [attempted, moments_report] at split
      cases before with
      | nil =>
        obtain ⟨same, -⟩ := List.cons.inj split
        cases same
        exact ⟨[], f, rest, rfl, .cons attempted (.nil _ _)⟩
      | cons moment before =>
        obtain ⟨rfl, rest_split⟩ := List.cons.inj split
        by_cases stops : (event'.isFail && settings.exitFirst) = true
        · rw [if_pos stops, moments_done] at rest_split
          cases before <;> cases rest_split
        · rw [if_neg stops] at rest_split
          obtain ⟨ran, f', rest', rfl, course⟩ := ih rest_split
          exact ⟨f :: ran, f', rest', rfl, .cons attempted course⟩

/-- A specification that is run to its end has a line for every feature and a summary, and succeeds
if all its features are counted. -/
lemma course_of_ofSpecification {spec : Specification} {w : World σ} {success : Bool} {q : Place σ}
    (ends : (ofSpecification h settings spec w).ending = .ok success q) :
    ∃ lines, Course h spec.scope w spec.features lines q.scope q.world ∧
      (ofSpecification h settings spec w).events =
        lines ++ [spec.summary (lines.countP (!·.isFail))] ∧
      success = (lines.countP (!·.isFail) == spec.stats.features) := by
  rw [ofSpecification, ending_andThen] at ends
  cases lines_end : (ofFeatures h settings spec.features 0 ⟨spec.scope, w⟩).ending with
  | error e p =>
    rw [lines_end] at ends
    cases ends
  | ok n p =>
    rw [lines_end] at ends
    obtain ⟨course, counted⟩ := course_of_ending lines_end
    rw [Nat.zero_add] at counted
    cases ends
    refine ⟨_, course, ?_, by rw [counted]⟩
    rw [ofSpecification, events_andThen, lines_end, ← counted]
    rfl

end Timeline

end Conformance
