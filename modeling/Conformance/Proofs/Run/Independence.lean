import Conformance.Proofs.Run.Events
import Conformance.Proofs.Run.Timeline
import Conformance.Proofs.Scope.Agreement
import Conformance.Proofs.Specification.Values

/-!
# Specifications are independent

Specifications run in one world, one after the other, so each starts from what those before it have
left.  If the functions that a specification can reach depend on nothing but their arguments, this
makes no difference to what it reports.  Two worlds that runs have led to are akin, as far as the
functions are concerned that a scope holds from the start, and from akin worlds a specification
reports the same events and succeeds in both or in neither.

It follows that the order of specifications does not matter.  Each reports the same block wherever
it stands, and the answer of the run is the conjunction of answers that belong to single
specifications.

## Parts

* `Host.agree_attempt` compares two attempts of one feature.
* `Timeline.ofSpecification_same` compares two runs of one specification.
* `specifications_independent` is the result.
-/

namespace Conformance

open Value (ItemsAlike EntriesAlike)

variable {σ ρ : Type}

/-! ## Attempts -/

variable {h : Host σ} {held : ℕ → Prop} {good : World σ → Prop} {kin : Kinship σ} {β : Pairing}
  {s s' : Scope} {t : Test}

/-- Outcomes with alike values and the same exception. -/
def Outcome.Alike (β : Pairing) (o o' : Outcome) : Prop :=
  o.value.Alike β o'.value ∧ o.exception = o'.exception

/-- Tests whose reference nodes are replaced by alike values. -/
structure Resolved.Alike (β : Pairing) (r r' : Resolved) : Prop where
  args : ItemsAlike β r.args r'.args
  kwargs : EntriesAlike β r.kwargs r'.kwargs
  expected : r.expected.Alike β r'.expected

namespace Host

variable (by_args : h.ByArguments held good kin)
include by_args

lemma agree_resolve (scopes : s.Alike β s') (data : (Feature.test t).OfDocument) :
    HostM.Agree kin Resolved.Alike β (s.resolve h t) (s'.resolve h t) := by
  rw [Scope.resolve, Scope.resolve]
  refine (Scope.agree_dereferenceItems by_args scopes (data.args β)).bind
    fun γ args args' le arguments => ?_
  refine (Scope.agree_dereferenceEntries by_args (scopes.mono le) (data.kwargs γ)).bind
    fun γ' kwargs kwargs' le' keywords => ?_
  refine (Scope.agree_dereference by_args (scopes.mono (le.trans le')) (data.result γ')).bind
    fun _ expected expected' le'' results => ?_
  exact HostM.agree_pure fun _ more =>
    ⟨arguments.mono (le'.trans (le''.trans more)), keywords.mono (le''.trans more),
      results.mono more⟩

/-- Calling or reading what a path names in alike scopes. -/
lemma agree_useProperty (scopes : s.Alike β s') (path : String) (call : Bool)
    {args args' : List Value} (arguments : ItemsAlike β args args') {kwargs kwargs' : Mapping}
    (keywords : EntriesAlike β kwargs kwargs') :
    HostM.Agree kin Value.Alike β (h.useProperty s path call args kwargs)
      (h.useProperty s' path call args' kwargs') := by
  rw [useProperty, useProperty]
  refine (Scope.agree_lookup by_args scopes path).bind fun γ target target' le found => ?_
  cases call with
  | true =>
    have passed : ItemsAlike γ (if kwargs.isEmpty then args else args ++ [.object kwargs])
        (if kwargs'.isEmpty then args' else args' ++ [.object kwargs']) := by
      rw [keywords.isEmpty_eq]
      split
      · exact arguments.mono le
      · exact (arguments.mono le).append (.cons (.object (keywords.mono le)) .nil)
    cases found with
    | function name codes => exact agree_invoke by_args codes passed
    | _ => exact HostM.agree_throw _
  | false =>
    have read := found
    cases found with
    | function name codes => exact agree_invoke by_args codes .nil
    | _ => exact HostM.agree_pure fun _ more => read.mono more

omit by_args in
/-- A raise becomes the same outcome on both sides. -/
lemma agree_outcome {x x' : HostM σ Value} (agree : HostM.Agree kin Value.Alike β x x') :
    HostM.Agree kin Outcome.Alike β (outcome x) (outcome x') := by
  intro γ w w' le akin
  have ended := agree le akin
  unfold outcome
  generalize x w = r at ended ⊢
  generalize x' w' = r' at ended ⊢
  cases ended with
  | ok more akin answers => exact .ok more akin ⟨answers, rfl⟩
  | error e more akin =>
    by_cases raised : e.isRaised = true
    · simp only [raised, if_true]
      exact .ok more akin ⟨.string _, rfl⟩
    · simp only [raised]
      exact .error e more akin

lemma agree_produce (scopes : s.Alike β s') {r r' : Resolved} (resolved : r.Alike β r') :
    HostM.Agree kin Outcome.Alike β (h.produce s t r) (h.produce s' t r') := by
  unfold produce
  cases t.property with
  | none => exact HostM.agree_pure fun _ le => ⟨resolved.expected.mono le, rfl⟩
  | some property =>
    exact agree_outcome
      (agree_useProperty by_args scopes property t.call resolved.args resolved.kwargs)

lemma agree_bindTarget (scopes : s.Alike β s') {v v' : Value} (alike : v.Alike β v') :
    HostM.Agree kin Scope.Alike β (s.bindTarget h t v) (s'.bindTarget h t v') := by
  unfold Scope.bindTarget
  cases t.assign with
  | none => exact HostM.agree_pure fun _ le => scopes.mono le
  | some target => exact Scope.agree_assign by_args scopes target alike

/-- Alike outcomes are judged alike in akin worlds. -/
lemma verdict_eq {w w' : World σ} (akin : kin β w w') {expected expected' : Value}
    (results : expected.Alike β expected') {o o' : Outcome} (outcomes : o.Alike β o') :
    h.verdict w t expected o = h.verdict w' t expected' o' := by
  have one := by_args.one_to_one akin
  have passes : o.passes (h.equal w) expected = o'.passes (h.equal w') expected' := by
    rw [Outcome.passes, Outcome.passes, results.isNull_eq, outcomes.1.isError_eq, equal, equal,
      outcomes.1.equal_eq one results]
  have failure : o.failure (h.render w) expected = o'.failure (h.render w') expected' := by
    rw [Outcome.failure, Outcome.failure, outcomes.2, render, render, render, render,
      outcomes.1.render_eq (h.views w) (h.views w'), results.render_eq (h.views w) (h.views w')]
  rw [verdict, verdict, passes, failure]

end Host

/-- What alike attempts answer: alike scopes and the same event. -/
def AnswersAlike (β : Pairing) (a a' : Scope × Event) : Prop :=
  a.1.Alike β a'.1 ∧ a.2 = a'.2

namespace Host

variable (by_args : h.ByArguments held good kin)
include by_args

lemma agree_settle (scopes : s.Alike β s') {expected expected' : Value}
    (results : expected.Alike β expected') {o o' : Outcome} (outcomes : o.Alike β o') :
    HostM.Agree kin AnswersAlike β (h.settle s t expected o) (h.settle s' t expected' o') := by
  rw [settle, settle]
  refine (agree_bindTarget by_args scopes outcomes.1).bind fun γ scope scope' le bound => ?_
  intro γ' w w' le' akin
  have judged := verdict_eq (t := t) by_args akin (results.mono (le.trans le'))
    ⟨outcomes.1.mono (le.trans le'), outcomes.2⟩
  exact .ok (le_refl γ') akin ⟨bound.mono le', judged⟩

/-- Attempts of one feature in alike scopes. -/
theorem agree_attempt (scopes : s.Alike β s') {f : Feature} (data : f.OfDocument) :
    HostM.Agree kin AnswersAlike β (h.attempt s f) (h.attempt s' f) := by
  cases f with
  | comment c => exact HostM.agree_pure fun _ le => ⟨scopes.mono le, rfl⟩
  | test t =>
    cases skip : t.skip with
    | true =>
      rw [attempt_of_skip skip, attempt_of_skip skip]
      exact HostM.agree_pure fun _ le => ⟨scopes.mono le, rfl⟩
    | false =>
      rw [attempt_of_runs skip, attempt_of_runs skip]
      refine (agree_resolve by_args scopes data).bind fun _ r r' le resolved => ?_
      refine (agree_produce by_args (scopes.mono le) resolved).bind fun _ o o' le' produced => ?_
      exact agree_settle by_args (scopes.mono (le.trans le')) (resolved.expected.mono le') produced

end Host

/-! ## Runs of features -/

/-- Two runs have ended with the same answer or with the same error, in worlds from which further
runs may start. -/
inductive SameEnd (good : World σ → Prop) {α : Type} :
    EStateM.Result Error (Place σ) α → EStateM.Result Error (Place σ) α → Prop
  | ok (a : α) {p p' : Place σ} (ends : good p.world) (ends' : good p'.world) :
      SameEnd good (.ok a p) (.ok a p')
  | error (e : Error) (p p' : Place σ) : SameEnd good (.error e p) (.error e p')

namespace Timeline

variable (by_args : h.ByArguments held good kin) (settings : Settings)
include by_args

/-- Features report the same from alike scopes in akin worlds. -/
theorem ofFeatures_same {fs : List Feature} (data : ∀ f ∈ fs, f.OfDocument) (n : ℕ)
    {p p' : Place σ} (scopes : p.scope.Alike β p'.scope) (akin : kin β p.world p'.world) :
    (ofFeatures h settings fs n p).events = (ofFeatures h settings fs n p').events ∧
      SameEnd good (ofFeatures h settings fs n p).ending
        (ofFeatures h settings fs n p').ending := by
  -- The pairing grows with what the features are handed, so it belongs to the induction.
  induction fs generalizing β n p p' with
  | nil =>
    obtain ⟨ends, ends'⟩ := by_args.good_of_kin akin
    exact ⟨rfl, .ok n ends ends'⟩
  | cons f rest ih =>
    rw [List.forall_mem_cons] at data
    have attempts := Host.agree_attempt by_args scopes data.1 (le_refl β) akin
    rw [ofFeatures, ofFeatures]
    generalize h.attempt p.scope f p.world = r at attempts ⊢
    generalize h.attempt p'.scope f p'.world = r' at attempts ⊢
    cases attempts with
    | error e le akin => exact ⟨rfl, .error e _ _⟩
    | @ok γ w w' a a' le akin answers =>
      obtain ⟨scope, event⟩ := a
      obtain ⟨scope', event'⟩ := a'
      obtain ⟨scopes, rfl⟩ := answers
      simp only [events_report, ending_report]
      by_cases stops : (event.isFail && settings.exitFirst) = true
      · rw [if_pos stops, if_pos stops]
        exact ⟨rfl, .error _ _ _⟩
      · rw [if_neg stops, if_neg stops]
        have at_places : kin γ (⟨scope, w⟩ : Place σ).world (⟨scope', w'⟩ : Place σ).world := akin
        obtain ⟨events_eq, ends⟩ := ih data.2 _ scopes at_places
        rw [events_eq]
        exact ⟨rfl, ends⟩

/-- A specification reports the same from all worlds from which runs may start. -/
theorem ofSpecification_same {spec : Specification} (data : ∀ f ∈ spec.features, f.OfDocument)
    (holds : spec.scope.Alike (.diagonal held) spec.scope) {w w' : World σ} (starts : good w)
    (starts' : good w') :
    (ofSpecification h settings spec w).events = (ofSpecification h settings spec w').events ∧
      SameEnd good (ofSpecification h settings spec w).ending
        (ofSpecification h settings spec w').ending := by
  have at_places : kin (.diagonal held) (⟨spec.scope, w⟩ : Place σ).world
      (⟨spec.scope, w'⟩ : Place σ).world := by_args.start starts starts'
  obtain ⟨events_eq, ends⟩ := ofFeatures_same by_args settings data 0 holds at_places
  rw [ofSpecification, ofSpecification, events_andThen, events_andThen, ending_andThen,
    ending_andThen, events_eq]
  generalize (ofFeatures h settings spec.features 0 ⟨spec.scope, w⟩).ending = r at ends ⊢
  generalize (ofFeatures h settings spec.features 0 ⟨spec.scope, w'⟩).ending = r' at ends ⊢
  cases ends with
  | error e p p' => exact ⟨rfl, .error e _ _⟩
  | ok n ends ends' => exact ⟨rfl, .ok _ ends ends'⟩

end Timeline

/-! ## Runs of specifications -/

/-- What a specification reports that is run from a world, without its summary. -/
def Specification.linesFrom (h : Host σ) (settings : Settings) (w : World σ)
    (spec : Specification) : List Event :=
  (Timeline.ofSpecification h settings spec w).events.dropLast

/-- A specification and what it reports from a world. -/
def Specification.runFrom (h : Host σ) (settings : Settings) (w : World σ)
    (spec : Specification) : SpecificationRun :=
  ⟨spec, spec.linesFrom h settings w⟩

namespace Timeline

/-- A loaded specification that is run to its end reports its block, and succeeds if as many tests
pass as run. -/
lemma block_of_ofSpecification {settings : Settings} {spec : Specification}
    (loaded : spec.Loaded h) {w : World σ} {passed : Bool} {q : Place σ}
    (ends : (ofSpecification h settings spec w).ending = .ok passed q) :
    (spec.runFrom h settings w).block =
        .comment "---" :: (ofSpecification h settings spec w).events ∧
      List.Forall₂ ReportedBy spec.features (spec.linesFrom h settings w) ∧
      (passed = true ↔
        (spec.runFrom h settings w).passes = (spec.runFrom h settings w).tests) := by
  obtain ⟨lines, course, events_eq, rfl⟩ := course_of_ofSpecification ends
  obtain ⟨-, left, -, tests_eq, all_iff⟩ := counters_balance loaded course.lines
  have lines_eq : spec.linesFrom h settings w = lines := by
    rw [Specification.linesFrom, events_eq, List.dropLast_concat]
  have run_eq : spec.runFrom h settings w = ⟨spec, lines⟩ := by
    rw [Specification.runFrom, lines_eq]
  have summary : spec.summary (lines.countP (!·.isFail)) =
      .summary spec.package (lines.countP Event.isPass) (spec.features.countP Feature.runs) := by
    rw [Specification.summary, left, tests_eq]
  rw [run_eq, lines_eq, events_eq, summary, beq_iff_eq]
  exact ⟨rfl, course.lines, all_iff⟩

/-- Loaded specifications that are run to their ends report their blocks, each as it would from any
one world, and succeed if each of them does. -/
theorem blocks_of_ofEach (by_args : h.ByArguments held good kin) {settings : Settings}
    {specs : List Specification} (loaded : ∀ spec ∈ specs, spec.Loaded h)
    (holds : ∀ spec ∈ specs, spec.scope.Alike (.diagonal held) spec.scope) {w : World σ}
    (starts : good w) {p q : Place σ} (starts' : good p.world) {success passed : Bool}
    (ends : (ofEach h settings specs success p).ending = .ok passed q) :
    (ofEach h settings specs success p).events =
        (specs.map (·.runFrom h settings w)).flatMap SpecificationRun.block ∧
      (∀ spec ∈ specs, List.Forall₂ ReportedBy spec.features (spec.linesFrom h settings w)) ∧
      (passed = true ↔ success = true ∧ ∀ spec ∈ specs,
        (spec.runFrom h settings w).passes = (spec.runFrom h settings w).tests) := by
  -- The world that a specification is compared with stays the same, wherever the run has got to.
  induction specs generalizing success p with
  | nil =>
    cases ends
    exact ⟨rfl, by simp, by simp⟩
  | cons spec rest ih =>
    rw [List.forall_mem_cons] at loaded holds
    obtain ⟨events_eq, same⟩ := ofSpecification_same by_args settings
      (Specification.features_ofDocument loaded.1) holds.1 starts starts'
    rw [ofEach, ending_report, ending_andThen] at ends
    rw [ofEach, events_report, events_andThen, ← events_eq]
    generalize (ofSpecification h settings spec p.world).ending = r' at same ends ⊢
    cases from_world : (ofSpecification h settings spec w).ending with
    | error e p₁ =>
      rw [from_world] at same
      cases same with
      | error e p₁ p₂ => cases ends
    | ok spec_passed p₁ =>
      rw [from_world] at same
      cases same with
      | @ok _ _ p₂ good₁ good₂ =>
        obtain ⟨block, lines, success_iff⟩ := block_of_ofSpecification loaded.1 from_world
        obtain ⟨rest_events, rest_lines, rest_iff⟩ := ih loaded.2 holds.2 good₂ ends
        refine ⟨?_, ?_, ?_⟩
        · dsimp only
          rw [List.map_cons, List.flatMap_cons, block, rest_events, List.cons_append]
        · rw [List.forall_mem_cons]
          exact ⟨lines, rest_lines⟩
        · rw [List.forall_mem_cons, rest_iff, Bool.and_eq_true, success_iff, and_assoc]

end Timeline

/-! ## The result -/

/-- **Specifications are independent.**  Let the functions of a host depend on nothing but their
arguments, and hand out neither classes nor instances.  If loaded specifications, whose scopes hold
nothing but data and such functions, are run to their end in one order and in another, from worlds
from which runs may start, then every specification reports the same block both times, and the
answer is the same. -/
theorem specifications_independent {h : Host σ} {held : ℕ → Prop} {good : World σ → Prop}
    {kin : Kinship σ} (by_args : h.ByArguments held good kin) (reporter : Reporter ρ)
    (settings : Settings) {specs specs' : List Specification} (reordered : specs.Perm specs')
    (loaded : ∀ spec ∈ specs, spec.Loaded h)
    (holds : ∀ spec ∈ specs, spec.scope.Alike (.diagonal held) spec.scope)
    {s s' t t' : Session σ ρ} (starts : good s.world) (starts' : good s'.world)
    {success success' : Bool}
    (ran : runAll h reporter settings specs s = .ok success t)
    (ran' : runAll h reporter settings specs' s' = .ok success' t') :
    ∃ lines : Specification → List Event,
      (∀ spec ∈ specs, List.Forall₂ ReportedBy spec.features (lines spec)) ∧
      t.taken = reporter.takeAll s.taken
        (eventsOf settings (specs.map fun spec => ⟨spec, lines spec⟩)) ∧
      t'.taken = reporter.takeAll s'.taken
        (eventsOf settings (specs'.map fun spec => ⟨spec, lines spec⟩)) ∧
      success = success' := by
  have loaded' : ∀ spec ∈ specs', spec.Loaded h :=
    fun spec there => loaded spec (reordered.mem_iff.mpr there)
  have holds' : ∀ spec ∈ specs', spec.scope.Alike (.diagonal held) spec.scope :=
    fun spec there => holds spec (reordered.mem_iff.mpr there)
  obtain ⟨q, ends, taken⟩ := Timeline.ending_of_runAll ran
  obtain ⟨q', ends', taken'⟩ := Timeline.ending_of_runAll ran'
  obtain ⟨events_eq, lines, success_iff⟩ :=
    Timeline.blocks_of_ofEach by_args loaded holds starts starts ends
  obtain ⟨events_eq', -, success_iff'⟩ :=
    Timeline.blocks_of_ofEach by_args loaded' holds' starts starts' ends'
  refine ⟨fun spec => spec.linesFrom h settings s.world, lines, ?_, ?_, ?_⟩
  · rw [taken, Timeline.ofAll, Timeline.events_report, events_eq]
    rfl
  · rw [taken', Timeline.ofAll, Timeline.events_report, events_eq']
    rfl
  · rw [Bool.eq_iff_iff, success_iff, success_iff']
    simp only [reordered.mem_iff]

/-! ### A package that makes its function anew at every import -/

/-- A host whose package exports a new function at every import.  The state counts the functions
that were made and the calls, so no two imports and no two calls leave the same world. -/
def kitHost : Host ℕ where
  packages := [⟨"Kit", do
    let made := (← get).state
    modify fun w => { w with state := made + 1 }
    return [("one", .function ⟨"one", .host made⟩)]⟩]
  extensions := []
  call _ _ := do
    modify fun w => { w with state := w.state + 1 }
    return .int 1
  construct _ _ := pure .null
  member _ _ := pure none
  setMember _ _ _ := pure ()
  views _ := .none
  thunkDepth _ := 1

/-- Worlds under a one-to-one pairing of functions that were made in them. -/
def kitKin : Kinship ℕ := fun β w w' =>
  Relator.BiUnique β ∧ ∀ i j, β i j → i < w.state ∧ j < w'.state

/-- Two functions that have just been made are a new pair. -/
lemma kitKin_after_import {β : Pairing} {w w' : World ℕ} (akin : kitKin β w w') :
    kitKin (fun i j => β i j ∨ i = w.state ∧ j = w'.state) { w with state := w.state + 1 }
      { w' with state := w'.state + 1 } := by
  obtain ⟨one, made⟩ := akin
  refine ⟨⟨?_, ?_⟩, ?_⟩
  · rintro i i' j (paired | ⟨rfl, rfl⟩) (paired' | ⟨rfl, same⟩)
    · exact one.1 paired paired'
    · have lt := (made _ _ paired).2
      omega
    · have lt := (made _ _ paired').2
      omega
    · rfl
  · rintro i j j' (paired | ⟨rfl, rfl⟩) (paired' | ⟨same, rfl⟩)
    · exact one.2 paired paired'
    · have lt := (made _ _ paired).1
      omega
    · have lt := (made _ _ paired').1
      omega
    · rfl
  · rintro i j (paired | ⟨rfl, rfl⟩)
    · have lt := made _ _ paired
      exact ⟨Nat.lt_succ_of_lt lt.1, Nat.lt_succ_of_lt lt.2⟩
    · exact ⟨Nat.lt_succ_self _, Nat.lt_succ_self _⟩

lemma kitHost_byArguments : kitHost.ByArguments (fun _ => False) (fun _ => True) kitKin where
  start _ _ := by
    refine ⟨⟨?_, ?_⟩, ?_⟩
    · rintro i i' j ⟨-, none⟩
      exact none.elim
    · rintro i j j' ⟨-, none⟩
      exact none.elim
    · rintro i j ⟨-, none⟩
      exact none.elim
  good_of_kin _ := ⟨trivial, trivial⟩
  one_to_one akin := akin.1
  call _ _ := by
    -- A call counts on, which leaves all functions below the number of the next one.
    rintro γ w w' - ⟨one, made⟩
    refine .ok (le_refl γ) ⟨one, fun i j paired => ?_⟩ (.int 1)
    have lt := made i j paired
    exact ⟨Nat.lt_succ_of_lt lt.1, Nat.lt_succ_of_lt lt.2⟩
  exports package there := by
    rw [List.mem_singleton.mp there]
    intro β γ w w' _ akin
    refine .ok (fun i j paired => Or.inl paired) (kitKin_after_import akin) ?_
    exact .cons "one" (.function "one" (.host (Or.inr ⟨rfl, rfl⟩))) .nil
  unwinds := by
    have enough (v : Value) (w : World ℕ) (d : ℕ) (le : 1 ≤ d) :
        kitHost.force d v w = kitHost.force 1 v w := by
      obtain ⟨d, rfl⟩ : ∃ d', d = d' + 1 := ⟨d - 1, by omega⟩
      cases data : v.isFunction with
      | false => rw [Host.force_of_data _ data, Host.force_of_data _ data]
      | true =>
        cases v with
        | function f =>
          obtain ⟨name, code⟩ := f
          cases code with
          | importer scope => rfl
          | host id => cases d <;> rfl
        | _ => cases data
    intro β w w' v v' _ _
    exact ⟨enough v w, enough v' w'⟩

/-- A specification that imports the package and calls its function, which answers as expected. -/
def passingKit : Specification :=
  let features : List Feature := [.comment ⟨"A", none, false⟩,
    .test ⟨none, false, some "k", some "$import", true, [.string "kit"], [], .null,
      "k = $import(\"kit\")"⟩,
    .test ⟨none, false, none, some "k.one", false, [], [], .int 1, "k.one == 1"⟩]
  ⟨"A", features, .new 0, .count features⟩

/-- A specification that imports the package twice and expects something else. -/
def failingKit : Specification :=
  let features : List Feature := [.comment ⟨"B", none, false⟩,
    .test ⟨none, false, some "k", some "$import", true, [.string "kit"], [], .null,
      "k = $import(\"kit\")"⟩,
    .test ⟨none, false, some "k", some "$import", true, [.string "kit"], [], .null,
      "k = $import(\"kit\")"⟩,
    .test ⟨none, false, none, some "k.one", false, [], [], .int 2, "k.one == 2"⟩]
  ⟨"B", features, .new 1, .count features⟩

/-- An entry that imports the package. -/
def importKit : Yaml.Node :=
  .mapping [(.string "k = $import", .sequence [.string "kit"])]

lemma passingKit_loaded : passingKit.Loaded kitHost :=
  ⟨"rs", 0, [.sequence [.string "A", importKit,
    .mapping [(.string "k.one ==", .number (.int 1))]]], rfl⟩

lemma failingKit_loaded : failingKit.Loaded kitHost :=
  ⟨"rs", 1, [.sequence [.string "B", importKit, importKit,
    .mapping [(.string "k.one ==", .number (.int 2))]]], rfl⟩

/-- A scope that has taken no hooks holds its import function only. -/
lemma alike_new (β : Pairing) (serial : ℕ) : (Scope.new serial).Alike β (Scope.new serial) :=
  .cons Scope.importName (.function Scope.importName (.importer serial)) .nil

theorem kit_specifications_reordered :
    kitHost.ByArguments (fun _ => False) (fun _ => True) kitKin ∧
      passingKit.Loaded kitHost ∧ failingKit.Loaded kitHost ∧
      ∃ t t', runAll kitHost .recorder ⟨"rs", false⟩ [passingKit, failingKit]
          ⟨.new 2, ⟨[], 0⟩, []⟩ = .ok false t ∧
        runAll kitHost .recorder ⟨"rs", false⟩ [failingKit, passingKit]
          ⟨.new 2, ⟨[], 0⟩, []⟩ = .ok false t' ∧
        ∃ lines : Specification → List Event,
          t.taken = eventsOf ⟨"rs", false⟩
            [⟨passingKit, lines passingKit⟩, ⟨failingKit, lines failingKit⟩] ∧
          t'.taken = eventsOf ⟨"rs", false⟩
            [⟨failingKit, lines failingKit⟩, ⟨passingKit, lines passingKit⟩] := by
  have fails : answer? (runAll kitHost .recorder ⟨"rs", false⟩ [passingKit, failingKit]
      ⟨.new 2, ⟨[], 0⟩, []⟩) = some false := by
    decide +kernel
  have fails' : answer? (runAll kitHost .recorder ⟨"rs", false⟩ [failingKit, passingKit]
      ⟨.new 2, ⟨[], 0⟩, []⟩) = some false := by
    decide +kernel
  obtain ⟨t, ran⟩ := exists_of_answer? fails
  obtain ⟨t', ran'⟩ := exists_of_answer? fails'
  obtain ⟨lines, -, taken, taken', -⟩ := specifications_independent kitHost_byArguments .recorder
    ⟨"rs", false⟩ (List.Perm.swap failingKit passingKit [])
    (by simp [passingKit_loaded, failingKit_loaded])
    (by simp only [List.forall_mem_cons]; exact ⟨alike_new _ 0, alike_new _ 1, by simp⟩)
    trivial trivial ran ran'
  rw [Reporter.takeAll_recorder] at taken taken'
  exact ⟨kitHost_byArguments, passingKit_loaded, failingKit_loaded, t, t', ran, ran', lines, taken,
    taken'⟩

end Conformance
