import Conformance.Fixture.Tree
import Conformance.Proofs.Files.Found
import Conformance.Proofs.Run.Refusal

/-!
# Runs that stop at the first failure

With exit-first, a run ends at the first line that is a failure.  Up to there it is the run without
exit-first, event by event: the same features are attempted from the same scopes in the same worlds,
across the borders between specifications.  So its timeline is the timeline of the other run, cut
off behind its first failure.

The exit status tells the two apart in one case only.  A run that is cut off ends in an error, and
one that goes on after a failure does not succeed, whatever comes behind the failure.  But it may
crash there, and a crash has an exit status of its own.

## Parts

* `Timeline.cut` cuts a timeline off, and `Timeline.ofAll_cut` says that exit-first does so.
* `exitStatus` is the exit status for the end of a run, and `cutStatus_cut` says what becomes of it.
* `exit_first_cuts_off` is the result, for runs and for the whole program.
-/

namespace Conformance

variable {σ ρ α β : Type}

namespace Timeline

/-! ## Cutting timelines off -/

/-- The timeline up to its first failure, which ends it in an error. -/
def cut : Timeline σ α → Timeline σ α
  | done ending => done ending
  | report event place rest =>
    report event place <|
      match event with
      | .fail text _ => done (.error (.featureFailed text) place)
      | _ => rest.cut

lemma cut_report_of_not_fail {event : Event} (passed : event.isFail = false) (place : Place σ)
    (rest : Timeline σ α) : (report event place rest).cut = report event place rest.cut := by
  cases event with
  | fail text failure => cases passed
  | _ => rfl

/-- Behind a failure in the first of two timelines, the second is not reached. -/
lemma cut_andThen (t : Timeline σ α) (next : α → Place σ → Timeline σ β) :
    (t.andThen next).cut = t.cut.andThen fun a p => (next a p).cut := by
  induction t with
  | done ending =>
    cases ending with
    | ok a p => rfl
    | error e p => rfl
  | report event place rest ih =>
    cases failed : event.isFail with
    | false =>
      rw [andThen, cut_report_of_not_fail failed, cut_report_of_not_fail failed, andThen, ih]
    | true =>
      cases event with
      | fail text failure => rfl
      | _ => cases failed

/-- Nothing is cut off a timeline without failures. -/
lemma cut_of_no_failure {t : Timeline σ α} (passed : ∀ event ∈ t.events, event.isFail = false) :
    t.cut = t := by
  induction t with
  | done ending => rfl
  | report event place rest ih =>
    rw [events_report, List.forall_mem_cons] at passed
    rw [cut_report_of_not_fail passed.1, ih passed.2]

/-- A timeline with a failure is cut off behind the first one. -/
lemma cut_of_failure {t : Timeline σ α} {before after : List Event} {text : String}
    {failure : Failure} (split : t.events = before ++ .fail text failure :: after)
    (passed : ∀ event ∈ before, event.isFail = false) :
    t.cut.events = before ++ [.fail text failure] ∧
      ∃ q, t.cut.ending = .error (.featureFailed text) q := by
  induction t generalizing before with
  | done ending =>
    rw [events_done] at split
    cases before <;> cases split
  | report event place rest ih =>
    rw [events_report] at split
    cases before with
    | nil =>
      obtain ⟨rfl, -⟩ := List.cons.inj split
      exact ⟨rfl, place, rfl⟩
    | cons first before =>
      obtain ⟨rfl, rest_split⟩ := List.cons.inj split
      rw [List.forall_mem_cons] at passed
      obtain ⟨events_eq, ends⟩ := ih rest_split passed.2
      rw [cut_report_of_not_fail passed.1, events_report, events_eq]
      exact ⟨rfl, ends⟩

/-! ## Exit-first cuts off -/

variable (h : Host σ) (tag : String)

lemma ofFeatures_cut (fs : List Feature) (n : ℕ) (p : Place σ) :
    (ofFeatures h ⟨tag, false⟩ fs n p).cut = ofFeatures h ⟨tag, true⟩ fs n p := by
  induction fs generalizing n p with
  | nil => rfl
  | cons f rest ih =>
    rw [ofFeatures, ofFeatures]
    cases attempted : h.attempt p.scope f p.world with
    | error e w => rfl
    | ok answer w =>
      obtain ⟨scope, event⟩ := answer
      cases failed : event.isFail with
      | false =>
        simp only [failed, Bool.false_and, Bool.false_eq_true, if_false]
        rw [cut_report_of_not_fail failed, ih]
      | true =>
        -- The error names the feature and the cut names the event, which are the same text.
        have line : ReportedBy f event := Host.reportedBy_of_attempt attempted
        cases line with
        | fail t runs failure => rfl
        | _ => cases failed

lemma ofSpecification_cut (spec : Specification) (w : World σ) :
    (ofSpecification h ⟨tag, false⟩ spec w).cut = ofSpecification h ⟨tag, true⟩ spec w := by
  rw [ofSpecification, ofSpecification, cut_andThen, ofFeatures_cut]
  rfl

lemma ofEach_cut (specs : List Specification) (success : Bool) (p : Place σ) :
    (ofEach h ⟨tag, false⟩ specs success p).cut = ofEach h ⟨tag, true⟩ specs success p := by
  induction specs generalizing success p with
  | nil => rfl
  | cons spec rest ih =>
    rw [ofEach, ofEach, cut_report_of_not_fail rfl, cut_andThen, ofSpecification_cut]
    congr 2
    funext passed q
    exact ih (success && passed) q

lemma ofAll_cut (specs : List Specification) (p : Place σ) :
    (ofAll h ⟨tag, false⟩ specs p).cut = ofAll h ⟨tag, true⟩ specs p := by
  rw [ofAll, ofAll, cut_report_of_not_fail rfl, ofEach_cut]

/-! ## Success -/

variable {h : Host σ} {settings : Settings}

/-- A loaded specification that is run to its end succeeds exactly if none of its events is a
failure. -/
lemma success_iff_of_ofSpecification {spec : Specification} (loaded : spec.Loaded h) {w : World σ}
    {success : Bool} {q : Place σ}
    (ends : (ofSpecification h settings spec w).ending = .ok success q) :
    success = true ↔
      ∀ event ∈ (ofSpecification h settings spec w).events, event.isFail = false := by
  obtain ⟨lines, course, events_eq, rfl⟩ := course_of_ofSpecification ends
  obtain ⟨-, -, -, -, all_iff⟩ := counters_balance loaded course.lines
  rw [beq_iff_eq, all_iff, countP_isPass_eq_iff course.lines, events_eq, List.forall_mem_append]
  simp [Specification.summary, Event.isFail]

/-- Loaded specifications that are run to their ends succeed exactly if none of their events is a
failure. -/
lemma success_iff_of_ofEach {specs : List Specification}
    (loaded : ∀ spec ∈ specs, spec.Loaded h) {before success : Bool} {p q : Place σ}
    (ends : (ofEach h settings specs before p).ending = .ok success q) :
    success = true ↔ before = true ∧
      ∀ event ∈ (ofEach h settings specs before p).events, event.isFail = false := by
  induction specs generalizing before p with
  | nil =>
    cases ends
    simp [ofEach]
  | cons spec rest ih =>
    rw [List.forall_mem_cons] at loaded
    rw [ofEach, ending_report, ending_andThen] at ends
    rw [ofEach, events_report, events_andThen, List.forall_mem_cons]
    cases spec_ends : (ofSpecification h settings spec p.world).ending with
    | error e p₁ =>
      rw [spec_ends] at ends
      cases ends
    | ok passed p₁ =>
      rw [spec_ends] at ends
      have of_spec := success_iff_of_ofSpecification loaded.1 spec_ends
      have of_rest := ih loaded.2 ends
      rw [of_rest, Bool.and_eq_true, of_spec, List.forall_mem_append, and_assoc]
      simp [Event.isFail]

lemma success_iff_of_ofAll {specs : List Specification} (loaded : ∀ spec ∈ specs, spec.Loaded h)
    {success : Bool} {p q : Place σ} (ends : (ofAll h settings specs p).ending = .ok success q) :
    success = true ↔ ∀ event ∈ (ofAll h settings specs p).events, event.isFail = false := by
  rw [ofAll, events_report, List.forall_mem_cons]
  rw [success_iff_of_ofEach loaded ends]
  simp [Event.isFail]

end Timeline

/-! ## The exit status -/

/-- The exit status for the end of a run: 0 if it succeeds and 1 if it does not, or the one for the
error that it ends in. -/
def exitStatus {τ : Type} : EStateM.Result Error τ Bool → UInt32
  | .ok true _ => 0
  | .ok false _ => 1
  | .error e _ => e.status

/-- An exit status with exit-first, and the one without.  They are the same, unless the run without
exit-first crashes and the other one has stopped at a failure before. -/
def CutStatus (cut uncut : UInt32) : Prop :=
  cut = uncut ∨ cut = 1 ∧ uncut = 101

lemma cutStatus_one (e : Error) : CutStatus 1 e.status := by
  cases e with
  | capacityOverflow => exact Or.inr ⟨rfl, rfl⟩
  | _ => exact Or.inl rfl

lemma exitStatus_withTaken (taken : ρ) (ending : EStateM.Result Error (Place σ) Bool) :
    exitStatus (withTaken taken ending) = exitStatus ending := by
  cases ending with
  | ok success q => cases success <;> rfl
  | error e q => rfl

/-- A list of events with a failure has a first one. -/
lemma exists_first_failure {events : List Event}
    (failed : ¬ ∀ event ∈ events, event.isFail = false) :
    ∃ before text failure after, events = before ++ .fail text failure :: after ∧
      ∀ event ∈ before, event.isFail = false := by
  cases found : events.find? Event.isFail with
  | none =>
    have passed := List.find?_eq_none.mp found
    exact absurd (fun event there => Bool.eq_false_iff.mpr (passed event there)) failed
  | some event =>
    obtain ⟨fails, before, after, split, passed⟩ := List.find?_eq_some_iff_append.mp found
    cases event with
    | fail text failure =>
      have none_before : ∀ event ∈ before, event.isFail = false := by simpa using passed
      exact ⟨before, text, failure, after, split, none_before⟩
    | _ => cases fails

section Status

variable (h : Host σ) (tag : String) {specs : List Specification}

lemma cutStatus_cut (loaded : ∀ spec ∈ specs, spec.Loaded h) (p : Place σ) :
    CutStatus (exitStatus (Timeline.ofAll h ⟨tag, true⟩ specs p).ending)
      (exitStatus (Timeline.ofAll h ⟨tag, false⟩ specs p).ending) := by
  rw [← Timeline.ofAll_cut]
  by_cases passed : ∀ event ∈ (Timeline.ofAll h ⟨tag, false⟩ specs p).events, event.isFail = false
  · rw [Timeline.cut_of_no_failure passed]
    exact Or.inl rfl
  · -- The cut run ends in an error.  The other has gone on, and either breaks off or has failed.
    obtain ⟨before, text, failure, after, split, none_before⟩ := exists_first_failure passed
    obtain ⟨-, q, ends⟩ := Timeline.cut_of_failure split none_before
    rw [ends]
    cases goes : (Timeline.ofAll h ⟨tag, false⟩ specs p).ending with
    | error e q' => exact cutStatus_one e
    | ok success q' =>
      have fails : success = false := by
        rw [Bool.eq_false_iff, ne_eq, Timeline.success_iff_of_ofAll loaded goes]
        exact passed
      rw [fails]
      exact Or.inl rfl

variable {reporter : Reporter ρ} (accepts : reporter.Accepts)
include accepts

/-- The exit status for a run depends on exit-first only if the run without it crashes. -/
lemma cutStatus_runAll (loaded : ∀ spec ∈ specs, spec.Loaded h) (s : Session σ ρ) :
    CutStatus (exitStatus (runAll h reporter ⟨tag, true⟩ specs s))
      (exitStatus (runAll h reporter ⟨tag, false⟩ specs s)) := by
  have ended (b : Bool) : exitStatus (runAll h reporter ⟨tag, b⟩ specs s) =
      exitStatus (Timeline.ofAll h ⟨tag, b⟩ specs s.place).ending := by
    rw [← Session.place_session s, runAll_of_takes (Reporter.takes_of_accepts accepts _ _),
      exitStatus_withTaken, Place.place_session]
  rw [ended, ended]
  exact cutStatus_cut h tag loaded s.place

end Status

/-! ## The program -/

section Program

variable {m : Type → Type} [Monad m] [LawfulMonad m] (fs : FileSystem m)

/-- The exit status behind a plan, with exit-first added to its settings or not. -/
def statusBehind (h : Host σ) (reporter : Reporter ρ) (exitFirst : Bool) (s : Session σ ρ) :
    Except Error (Settings × List Specification) → UInt32
  | .ok plan =>
    exitStatus (runAll h reporter ⟨plan.1.runtimeTag, plan.1.exitFirst || exitFirst⟩ plan.2 s)
  | .error e => e.status

/-- With and without exit-first, a command line has a plan that does not stop at the first failure,
and its exit status comes behind that. -/
lemma exitStatus_execute_eq (h : Host σ) (reporter : Reporter ρ) (a : Arguments) (exitFirst : Bool)
    (s : Session σ ρ) :
    exitStatus <$> ({ a with exitFirst := exitFirst } : Arguments).execute fs h reporter s =
      statusBehind h reporter exitFirst s <$>
        (({ a with exitFirst := false } : Arguments).plan fs h).run := by
  rw [Arguments.execute, Arguments.plan_exitFirst, ExceptT.run_map, bind_map_left, map_bind,
    map_eq_pure_bind]
  refine bind_congr fun plan => ?_
  cases plan with
  | ok plan => exact map_pure _ _
  | error e => exact map_pure _ _

lemma cutStatus_execute (h : Host σ) {reporter : Reporter ρ} (accepts : reporter.Accepts)
    (a : Arguments) (s : Session σ ρ) :
    Coupled CutStatus
      (exitStatus <$> ({ a with exitFirst := true } : Arguments).execute fs h reporter s)
      (exitStatus <$> ({ a with exitFirst := false } : Arguments).execute fs h reporter s) := by
  rw [exitStatus_execute_eq, exitStatus_execute_eq]
  refine FilesM.coupled_map (Arguments.plan_loaded fs h _) ?_ fun e => Or.inl rfl
  intro plan loaded
  rw [statusBehind, statusBehind, Bool.or_true, Bool.or_false]
  cases plan.1.exitFirst with
  | true => exact Or.inl rfl
  | false => exact cutStatus_runAll h plan.1.runtimeTag accepts loaded s

lemma console_accepts : Console.reporter.Accepts :=
  fun event console => ⟨console.write event, rfl⟩

/-- The program without a host ends with the status of its run, if its command line is
understood. -/
lemma status_conclude {arguments : List String} {a : Arguments}
    (reads : Arguments.ofList arguments = .ok a) :
    Conclusion.status <$> conclude fs arguments =
      exitStatus <$> a.execute fs emptyHost Console.reporter ⟨.new 0, ⟨[], ()⟩, .empty⟩ := by
  unfold conclude
  simp only [reads]
  rw [map_bind, map_eq_pure_bind]
  refine bind_congr fun ended => ?_
  cases ended with
  | ok success s => cases success <;> exact map_pure _ _
  | error e s => exact map_pure _ _

end Program

/-! ## The result -/

/-- **Exit-first is a cut-off.**  Let loaded specifications run with a reporter that takes
everything, from the same place with and without exit-first.  If no event of the run without it is a
failure, both runs are the same.  Otherwise the run with it has the same events up to the first
failure, and ends there in an error that names it.  The exit status is the same, unless the run
without it crashes behind the first failure: its status is 101 then, and 1 with exit-first.  The
same goes for the program, for every command line and whatever files it finds. -/
theorem exit_first_cuts_off (h : Host σ) (reporter : Reporter ρ) (accepts : reporter.Accepts) :
    (∀ (tag : String) (specs : List Specification), (∀ spec ∈ specs, spec.Loaded h) →
      ∀ (p : Place σ) (taken : ρ),
        runAll h reporter ⟨tag, false⟩ specs (p.session taken) =
          retaken (reporter.takeAll taken (reported h ⟨tag, false⟩ specs p))
            (runAll h .recorder ⟨tag, false⟩ specs (p.session [])) ∧
        ((∀ event ∈ reported h ⟨tag, false⟩ specs p, event.isFail = false) →
          runAll h reporter ⟨tag, true⟩ specs (p.session taken) =
            runAll h reporter ⟨tag, false⟩ specs (p.session taken)) ∧
        (∀ before text failure after,
          reported h ⟨tag, false⟩ specs p = before ++ .fail text failure :: after →
          (∀ event ∈ before, event.isFail = false) →
          ∃ q : Place σ, runAll h reporter ⟨tag, true⟩ specs (p.session taken) =
            .error (.featureFailed text)
              (q.session (reporter.takeAll taken (before ++ [.fail text failure])))) ∧
        CutStatus (exitStatus (runAll h reporter ⟨tag, true⟩ specs (p.session taken)))
          (exitStatus (runAll h reporter ⟨tag, false⟩ specs (p.session taken)))) ∧
    ∀ {m : Type → Type} [Monad m] [LawfulMonad m] (fs : FileSystem m) (a : Arguments),
      (∀ s : Session σ ρ, Coupled CutStatus
        (exitStatus <$> ({ a with exitFirst := true } : Arguments).execute fs h reporter s)
        (exitStatus <$> ({ a with exitFirst := false } : Arguments).execute fs h reporter s)) ∧
      ∀ line line', Arguments.ofList line = .ok { a with exitFirst := false } →
        Arguments.ofList line' = .ok { a with exitFirst := true } →
        Coupled CutStatus (Conclusion.status <$> conclude fs line')
          (Conclusion.status <$> conclude fs line) := by
  constructor
  · intro tag specs loaded p taken
    have takes (events : List Event) := Reporter.takes_of_accepts accepts taken events
    have stops := runAll_of_takes (takes (Timeline.ofAll h ⟨tag, true⟩ specs p).events)
    refine ⟨runAll_eq_retaken h _ specs p (takes _), ?_, ?_,
      cutStatus_runAll h tag accepts loaded _⟩
    · intro passed
      rw [reported_eq_events] at passed
      rw [stops, runAll_of_takes (takes _), ← Timeline.ofAll_cut, Timeline.cut_of_no_failure passed]
    · intro before text failure after split passed
      rw [reported_eq_events] at split
      obtain ⟨events_eq, q, ends⟩ := Timeline.cut_of_failure split passed
      rw [stops, ← Timeline.ofAll_cut, events_eq, ends]
      exact ⟨q, rfl⟩
  · intro m _ _ fs a
    refine ⟨cutStatus_execute fs h accepts a, ?_⟩
    intro line line' reads reads'
    rw [status_conclude fs reads, status_conclude fs reads']
    exact cutStatus_execute fs emptyHost console_accepts a _

/-- A working directory with one file, in which the second of two tests fails. -/
def failingTree : FileSystem Id :=
  (Fixture.FileTree.build [("spec.yml", some "- Pkg\n- n=: 1\n- n ==: 2\n".toUTF8)]).system

theorem mixedSpecification_exits_first :
    Reporter.recorder.Accepts ∧ mixedSpecification.Loaded emptyHost ∧
      (∃ q : Place Unit, runAll emptyHost .recorder ⟨"rs", true⟩ [mixedSpecification]
          (emptyPlace.session []) = .error (.featureFailed "n == 2")
        (q.session [.comment " #  packspec (rs)", .comment "---", .heading "Pkg", .pass "n = 1",
          .fail "n == 2" (.mismatch "1" "2")])) ∧
      runAll emptyHost .recorder ⟨"rs", true⟩ [] (emptyPlace.session []) =
        runAll emptyHost .recorder ⟨"rs", false⟩ [] (emptyPlace.session []) ∧
      (conclude failingTree ["-x", "spec.yml"] : Conclusion).status = 1 := by
  have loaded : mixedSpecification.Loaded emptyHost := ⟨"rs", 0, mixedNodes, rfl⟩
  have split : reported emptyHost ⟨"rs", false⟩ [mixedSpecification] emptyPlace =
      [.comment " #  packspec (rs)", .comment "---", .heading "Pkg", .pass "n = 1"] ++
        .fail "n == 2" (.mismatch "1" "2") :: [.skipped "n", .summary "Pkg" 1 2] := by
    decide +kernel
  have no_failure : ∀ event ∈ reported emptyHost ⟨"rs", false⟩ [] emptyPlace,
      event.isFail = false := by
    decide +kernel
  obtain ⟨runs, programs⟩ :=
    exit_first_cuts_off emptyHost .recorder Reporter.recorder_accepts
  obtain ⟨-, -, stops, -⟩ := runs "rs" [mixedSpecification] (by simpa using loaded) emptyPlace []
  obtain ⟨-, same, -⟩ := runs "rs" [] (by simp) emptyPlace []
  refine ⟨Reporter.recorder_accepts, loaded, ?_, same no_failure, ?_⟩
  · obtain ⟨q, ended⟩ := stops _ _ _ _ split (by decide)
    rw [Reporter.takeAll_recorder] at ended
    exact ⟨q, ended⟩
  · have fails : (conclude failingTree ["spec.yml"] : Conclusion).status = 1 := by
      decide +kernel
    obtain ⟨⟨both, related⟩, cut, uncut⟩ :=
      (programs failingTree ⟨some "spec.yml", none, false, none⟩).2 ["spec.yml"]
        ["-x", "spec.yml"] (by decide +kernel) (by decide +kernel)
    have is_cut : both.1 = (conclude failingTree ["-x", "spec.yml"] : Conclusion).status := cut
    have is_uncut : both.2 = (conclude failingTree ["spec.yml"] : Conclusion).status := uncut
    rw [← is_cut]
    rcases related with same | ⟨one, -⟩
    · exact same.trans (is_uncut.trans fails)
    · exact one

/-- A working directory with one file.  Behind a test that fails, an assignment to the greatest
index crashes the program. -/
def crashingTree : FileSystem Id :=
  (Fixture.FileTree.build [("spec.yml", some ("- Pkg\n- n=: 1\n- n ==: 2\n" ++
    "- data=: {items: [1]}\n- data.items.9223372036854775807=: 4\n").toUTF8)]).system

/-- The exit status can tell a run that stops at its first failure from one that goes on. -/
theorem exit_first_changes_status :
    (conclude crashingTree ["spec.yml"] : Conclusion).status = 101 ∧
      (conclude crashingTree ["-x", "spec.yml"] : Conclusion).status = 1 := by
  decide +kernel

end Conformance
