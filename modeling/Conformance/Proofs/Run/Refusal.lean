import Conformance.Proofs.Run.Events
import Conformance.Proofs.Run.Timeline

/-!
# Runs whose reporter refuses

A reporter that refuses an event ends the run.  It must not matter for anything before that, and
nothing behind it may still be done: neither is an event handed over nor a feature attempted,
whether the refused event is the banner, the mark before a specification, the line of a feature or a
summary.

The yardstick is the run with a reporter that takes everything.  What is refused is then the event
with the number of those that were taken, and what the refusing run leaves is the world just after
the feature that the event belongs to.

## Parts

* `Reporter.TakesFirst` says that a reporter takes so many events and refuses the next.
* `reported` are the events of a run that meets no refusal.
* `HandedOver` says what has been reported and executed when an event is handed over.
* `refused_run_is_prefix` is the result.
-/

namespace Conformance

variable {σ ρ ρ' α : Type}

/-! ## Reporters that take some events -/

namespace Reporter

/-- The reporter takes so many more events, whatever they are, and refuses the one behind them. -/
def TakesFirst (reporter : Reporter ρ) : ℕ → ρ → Prop
  | 0, taken => ∀ event, ∃ reason last, reporter.report event taken = .error reason last
  | n + 1, taken =>
    ∀ event, ∃ taken', reporter.report event taken = .ok () taken' ∧ reporter.TakesFirst n taken'

variable {reporter : Reporter ρ}

/-- As many events as the reporter takes are taken, and no more are left to it. -/
lemma TakesFirst.takes {n : ℕ} {taken : ρ} (first : reporter.TakesFirst n taken)
    {events : List Event} (few : events.length ≤ n) :
    reporter.Takes taken events ∧
      reporter.TakesFirst (n - events.length) (reporter.takeAll taken events) := by
  induction events generalizing n taken with
  | nil => exact ⟨trivial, first⟩
  | cons event events ih =>
    obtain ⟨n, rfl⟩ : ∃ m, n = m + 1 := by
      rw [List.length_cons] at few
      exact ⟨n - 1, by omega⟩
    obtain ⟨taken', takes, later⟩ := first event
    rw [← take_of_ok takes] at later
    obtain ⟨takes_rest, left⟩ := ih later (by simpa using few)
    refine ⟨⟨?_, takes_rest⟩, ?_⟩
    · rw [take_of_ok takes, takes]
    · rw [List.length_cons, Nat.add_sub_add_right]
      exact left

lemma limited_refuses {n : ℕ} {taken : List Event} (event : Event) (full : ¬ taken.length < n) :
    (limited n).report event taken = .error "report limit reached" taken := by
  simp only [limited, bind_of_ok (get_apply taken), if_neg full, throw_apply]

lemma limited_takesFirst (n : ℕ) (taken : List Event) :
    (limited (taken.length + n)).TakesFirst n taken := by
  induction n generalizing taken with
  | zero =>
    intro event
    exact ⟨_, taken, limited_refuses event (by omega)⟩
  | succ n ih =>
    intro event
    have room : taken.length < taken.length + (n + 1) := by omega
    refine ⟨taken ++ [event], ?_, ?_⟩
    · simp only [limited, bind_of_ok (get_apply taken), if_pos room]
      rfl
    · have later := ih (taken ++ [event])
      rwa [List.length_append, List.length_singleton, Nat.add_assoc, Nat.add_comm 1 n] at later

end Reporter

/-! ## The run that meets no refusal -/

/-- What is reported if nothing is refused. -/
def reported (h : Host σ) (settings : Settings) (specs : List Specification) (p : Place σ) :
    List Event :=
  ((runAll h .recorder settings specs).leaves (p.session [])).taken

/-- The same end of a run, with something else taken. -/
def retaken (taken : ρ') :
    EStateM.Result Error (Session σ ρ) α → EStateM.Result Error (Session σ ρ') α
  | .ok a s => .ok a (s.place.session taken)
  | .error e s => .error e (s.place.session taken)

lemma retaken_withTaken (taken : ρ) (taken' : ρ') (ending : EStateM.Result Error (Place σ) α) :
    retaken taken' (withTaken taken ending) = withTaken taken' ending := by
  cases ending with
  | ok a p => rfl
  | error e p => rfl

lemma answer?_retaken (taken : ρ') (r : EStateM.Result Error (Session σ ρ) α) :
    answer? (retaken taken r) = answer? r := by
  cases r with
  | ok a s => rfl
  | error e s => rfl

section Accepting

variable (h : Host σ) (settings : Settings) (specs : List Specification) (p : Place σ)

lemma runAll_recorder :
    runAll h .recorder settings specs (p.session []) =
      withTaken (Timeline.ofAll h settings specs p).events
        (Timeline.ofAll h settings specs p).ending := by
  rw [runAll_of_takes (Reporter.takes_of_accepts Reporter.recorder_accepts [] _),
    Reporter.takeAll_recorder, List.nil_append]

lemma reported_eq_events :
    reported h settings specs p = (Timeline.ofAll h settings specs p).events := by
  rw [reported, RunM.leaves, runAll_recorder]
  cases (Timeline.ofAll h settings specs p).ending with
  | ok success q => rfl
  | error e q => rfl

/-- A reporter that takes all that is reported changes nothing but what is taken. -/
lemma runAll_eq_retaken {reporter : Reporter ρ} {taken : ρ}
    (takes : reporter.Takes taken (reported h settings specs p)) :
    runAll h reporter settings specs (p.session taken) =
      retaken (reporter.takeAll taken (reported h settings specs p))
        (runAll h .recorder settings specs (p.session [])) := by
  rw [reported_eq_events] at takes
  rw [runAll_recorder, retaken_withTaken, reported_eq_events, runAll_of_takes takes]

end Accepting

/-! ## Where an event is handed over -/

/-- Specifications are run from a world, and an event is handed over behind others, at which point
the features up to that event have been attempted and no others, and have left a world. -/
inductive HandedOver (h : Host σ) :
    List Specification → World σ → List Event → Event → World σ → Prop
  | mark (spec : Specification) (later : List Specification) (w : World σ) :
      HandedOver h (spec :: later) w [] (.comment "---") w
  | line {spec : Specification} {ran rest : List Feature} {f : Feature} {lines : List Event}
      {event : Event} {scope : Scope} {w w' : World σ} (later : List Specification)
      (features : spec.features = ran ++ f :: rest)
      (course : Course h spec.scope w (ran ++ [f]) (lines ++ [event]) scope w') :
      HandedOver h (spec :: later) w (.comment "---" :: lines) event w'
  | summary {spec : Specification} {lines : List Event} {scope : Scope} {w w' : World σ}
      (later : List Specification) (course : Course h spec.scope w spec.features lines scope w') :
      HandedOver h (spec :: later) w (.comment "---" :: lines)
        (spec.summary (lines.countP (!·.isFail))) w'
  | later {spec : Specification} {lines before : List Event} {event : Event} {scope : Scope}
      {w w₁ w' : World σ} {specs : List Specification}
      (course : Course h spec.scope w spec.features lines scope w₁)
      (there : HandedOver h specs w₁ before event w') :
      HandedOver h (spec :: specs) w
        (.comment "---" :: (lines ++ spec.summary (lines.countP (!·.isFail)) :: before)) event w'

/-- In a run of specifications from a place, an event is handed over behind others. -/
inductive HandedOverInRun (h : Host σ) (settings : Settings) (specs : List Specification)
    (p : Place σ) : List Event → Event → Place σ → Prop
  | banner : HandedOverInRun h settings specs p [] (.comment (banner settings.runtimeTag)) p
  | behind {before : List Event} {event : Event} {q : Place σ}
      (there : HandedOver h specs p.world before event q.world) :
      HandedOverInRun h settings specs p (.comment (banner settings.runtimeTag) :: before) event q

/-- What stands before a member of two lists in a row ends in the first or in the second. -/
lemma append_eq_append_cons_cases {β : Type} {xs ys before after : List β} {x : β}
    (split : xs ++ ys = before ++ x :: after) :
    (∃ more, xs = before ++ x :: more) ∨ ∃ more, before = xs ++ more ∧ ys = more ++ x :: after := by
  rcases List.append_eq_append_iff.mp split with ⟨more, before_eq, ys_eq⟩ | ⟨more, xs_eq, rest_eq⟩
  · exact Or.inr ⟨more, before_eq, ys_eq⟩
  · cases more with
    | nil => exact Or.inr ⟨[], by simpa using xs_eq.symm, by simpa using rest_eq.symm⟩
    | cons y more =>
      obtain ⟨rfl, -⟩ := List.cons.inj rest_eq
      exact Or.inl ⟨more, xs_eq⟩

namespace Timeline

variable {h : Host σ} {settings : Settings}

/-- The moments of one specification are those of its lines, and that of its summary if the lines
get to their end. -/
lemma handedOver_of_ofSpecification {spec : Specification} (later : List Specification)
    {w : World σ} {before after : List (Event × Place σ)} {event : Event} {q : Place σ}
    (split : (ofSpecification h settings spec w).moments = before ++ (event, q) :: after) :
    HandedOver h (spec :: later) w (.comment "---" :: before.map Prod.fst) event q.world := by
  rw [ofSpecification, moments_andThen] at split
  rcases append_eq_append_cons_cases split with ⟨more, among_lines⟩ | ⟨more, rfl, behind_lines⟩
  · obtain ⟨ran, f, rest, features, course⟩ := course_of_moment among_lines
    exact .line later features course
  · cases ends : (ofFeatures h settings spec.features 0 ⟨spec.scope, w⟩).ending with
    | error e p =>
      rw [ends] at behind_lines
      cases more <;> cases behind_lines
    | ok n p =>
      rw [ends] at behind_lines
      obtain ⟨course, counted⟩ := course_of_ending ends
      rw [Nat.zero_add] at counted
      cases more with
      | nil =>
        cases behind_lines
        rw [List.append_nil, counted]
        exact .summary later course
      | cons moment more => cases more <;> cases behind_lines

/-- The moments of a run without its banner, specification by specification. -/
lemma handedOver_of_ofEach {specs : List Specification} {success : Bool} {p : Place σ}
    {before after : List (Event × Place σ)} {event : Event} {q : Place σ}
    (split : (ofEach h settings specs success p).moments = before ++ (event, q) :: after) :
    HandedOver h specs p.world (before.map Prod.fst) event q.world := by
  induction specs generalizing success p before with
  | nil =>
    rw [ofEach, moments_done] at split
    cases before <;> cases split
  | cons spec specs ih =>
    rw [ofEach, moments_report] at split
    cases before with
    | nil =>
      obtain ⟨same, -⟩ := List.cons.inj split
      cases same
      exact .mark spec specs _
    | cons moment before =>
      obtain ⟨rfl, behind_mark⟩ := List.cons.inj split
      rw [moments_andThen] at behind_mark
      rcases append_eq_append_cons_cases behind_mark with ⟨more, inside⟩ | ⟨more, rfl, behind⟩
      · exact handedOver_of_ofSpecification specs inside
      · cases ends : (ofSpecification h settings spec p.world).ending with
        | error e p₁ =>
          rw [ends] at behind
          cases more <;> cases behind
        | ok passed p₁ =>
          rw [ends] at behind
          obtain ⟨lines, course, block, -⟩ := course_of_ofSpecification ends
          have handed : HandedOver h (spec :: specs) p.world (.comment "---" ::
              (lines ++ spec.summary (lines.countP (!·.isFail)) :: more.map Prod.fst)) event
              q.world :=
            .later course (ih behind)
          rw [List.map_cons, List.map_append, ← events, block, List.append_assoc]
          exact handed

lemma handedOver_of_ofAll {specs : List Specification} {p q : Place σ}
    {before after : List (Event × Place σ)} {event : Event}
    (split : (ofAll h settings specs p).moments = before ++ (event, q) :: after) :
    HandedOverInRun h settings specs p (before.map Prod.fst) event q := by
  rw [ofAll, moments_report] at split
  cases before with
  | nil =>
    obtain ⟨same, -⟩ := List.cons.inj split
    cases same
    exact .banner
  | cons moment before =>
    obtain ⟨rfl, behind_banner⟩ := List.cons.inj split
    exact .behind (handedOver_of_ofEach behind_banner)

/-- The moment of an event with a given number. -/
lemma exists_moment_of_lt {t : Timeline σ α} {n : ℕ} (more : n < t.events.length) :
    ∃ before moment after, t.moments = before ++ moment :: after ∧
      t.events.take n = before.map Prod.fst ∧ t.events[n]? = some moment.1 := by
  have more_moments : n < t.moments.length := by rwa [events, List.length_map] at more
  refine ⟨t.moments.take n, t.moments[n], t.moments.drop (n + 1), ?_, ?_, ?_⟩
  · rw [← List.drop_eq_getElem_cons more_moments, List.take_append_drop]
  · rw [events, List.map_take]
  · rw [events, List.getElem?_map, List.getElem?_eq_getElem more_moments]
    rfl

end Timeline

/-! ## The refused run -/

/-- **A refused run is the beginning of the run that meets no refusal.**  A reporter that takes
everything is handed the events of that run and its result.  One that takes the first events and
refuses the next is handed the same events up to there.  If there are no more, its run has the same
result; otherwise it ends in the refusal of the next event, and no feature has been attempted behind
the one that this event belongs to. -/
theorem refused_run_is_prefix (h : Host σ) (settings : Settings) (specs : List Specification)
    (p : Place σ) :
    (∀ {ρ : Type} (reporter : Reporter ρ), reporter.Accepts → ∀ taken : ρ,
      runAll h reporter settings specs (p.session taken) =
        retaken (reporter.takeAll taken (reported h settings specs p))
          (runAll h .recorder settings specs (p.session []))) ∧
    ∀ {ρ : Type} (reporter : Reporter ρ) (n : ℕ) (taken : ρ), reporter.TakesFirst n taken →
      reporter.Takes taken ((reported h settings specs p).take n) ∧
      ((reported h settings specs p).length ≤ n →
        runAll h reporter settings specs (p.session taken) =
          retaken (reporter.takeAll taken (reported h settings specs p))
            (runAll h .recorder settings specs (p.session []))) ∧
      (n < (reported h settings specs p).length → ∃ event reason last q,
        (reported h settings specs p)[n]? = some event ∧
        reporter.report event
          (reporter.takeAll taken ((reported h settings specs p).take n)) = .error reason last ∧
        runAll h reporter settings specs (p.session taken) = .error (.io reason) (q.session last) ∧
        HandedOverInRun h settings specs p ((reported h settings specs p).take n) event q) := by
  constructor
  · intro ρ reporter accepts taken
    exact runAll_eq_retaken h settings specs p (Reporter.takes_of_accepts accepts taken _)
  · intro ρ reporter n taken first
    have few : ((reported h settings specs p).take n).length ≤ n := List.length_take_le _ _
    refine ⟨(first.takes few).1, ?_, ?_⟩
    · intro enough
      exact runAll_eq_retaken h settings specs p (first.takes enough).1
    · intro more
      obtain ⟨before, ⟨event, q⟩, after, split, taken_eq, there⟩ :=
        Timeline.exists_moment_of_lt (by rwa [reported_eq_events] at more)
      have taken_length : ((reported h settings specs p).take n).length = n :=
        List.length_take_of_le (Nat.le_of_lt more)
      -- All that the reporter takes are the events before this one.
      have left := (first.takes few).2
      rw [taken_length, Nat.sub_self] at left
      obtain ⟨reason, last, refuses⟩ := left event
      refine ⟨event, reason, last, q, by rwa [reported_eq_events], refuses, ?_, ?_⟩
      · rw [reported_eq_events, taken_eq] at refuses
        rw [runAll_eq_replay, Place.place_session, Place.taken_session]
        refine Timeline.replay_of_refuses split ?_ refuses
        rw [← taken_eq, ← reported_eq_events]
        exact (first.takes few).1
      · rw [reported_eq_events, taken_eq]
        exact Timeline.handedOver_of_ofAll split

/-! ### A reporter that refuses a failure -/

/-- An empty scope beside a host without objects. -/
def emptyPlace : Place Unit :=
  ⟨.new 0, ⟨[], ()⟩⟩

theorem mixedSpecification_refused :
    Reporter.recorder.Accepts ∧ (Reporter.limited 7).TakesFirst 7 [] ∧
      (Reporter.limited 4).TakesFirst 4 [] ∧
      (reported emptyHost ⟨"rs", false⟩ [mixedSpecification] emptyPlace).length = 7 ∧
      answer? (runAll emptyHost .recorder ⟨"rs", false⟩ [mixedSpecification]
        (emptyPlace.session [.comment "before"])) = some false ∧
      answer? (runAll emptyHost (.limited 7) ⟨"rs", false⟩ [mixedSpecification]
        (emptyPlace.session [])) = some false ∧
      ∃ q, runAll emptyHost (.limited 4) ⟨"rs", false⟩ [mixedSpecification]
          (emptyPlace.session []) = .error (.io "report limit reached") (q.session
            ((reported emptyHost ⟨"rs", false⟩ [mixedSpecification] emptyPlace).take 4)) ∧
        HandedOverInRun emptyHost ⟨"rs", false⟩ [mixedSpecification] emptyPlace
          ((reported emptyHost ⟨"rs", false⟩ [mixedSpecification] emptyPlace).take 4)
          (.fail "n == 2" (.mismatch "1" "2")) q := by
  have takes_seven : (Reporter.limited 7).TakesFirst 7 [] := Reporter.limited_takesFirst 7 []
  have takes_four : (Reporter.limited 4).TakesFirst 4 [] := Reporter.limited_takesFirst 4 []
  have seven : (reported emptyHost ⟨"rs", false⟩ [mixedSpecification] emptyPlace).length = 7 := by
    decide +kernel
  have fails : answer? (runAll emptyHost .recorder ⟨"rs", false⟩ [mixedSpecification]
      (emptyPlace.session [])) = some false := by
    decide +kernel
  obtain ⟨of_accepts, of_first⟩ :=
    refused_run_is_prefix emptyHost ⟨"rs", false⟩ [mixedSpecification] emptyPlace
  refine ⟨Reporter.recorder_accepts, takes_seven, takes_four, seven, ?_, ?_, ?_⟩
  · rw [of_accepts .recorder Reporter.recorder_accepts, answer?_retaken, fails]
  · rw [(of_first (.limited 7) 7 [] takes_seven).2.1 (Nat.le_of_eq seven), answer?_retaken, fails]
  · obtain ⟨event, reason, last, q, fifth, refuses, ended, there⟩ :=
      (of_first (.limited 4) 4 [] takes_four).2.2 (by omega)
    have failure : (reported emptyHost ⟨"rs", false⟩ [mixedSpecification] emptyPlace)[4]? =
        some (.fail "n == 2" (.mismatch "1" "2")) := by
      decide +kernel
    have kept : (Reporter.limited 4).takeAll []
        ((reported emptyHost ⟨"rs", false⟩ [mixedSpecification] emptyPlace).take 4) =
          (reported emptyHost ⟨"rs", false⟩ [mixedSpecification] emptyPlace).take 4 := by
      decide +kernel
    rw [failure] at fifth
    cases fifth
    rw [kept, Reporter.limited_refuses _ (by rw [List.length_take, seven]; decide)] at refuses
    cases refuses
    exact ⟨q, ended, there⟩

end Conformance
