import Conformance.Proofs.Run.Events
import Conformance.Proofs.Run.Timeline

/-!
# Skipped tests are inert

A skipped test leaves a line in the report and does nothing else.  Leaving some of them out of a
specification, and counting its features anew, takes these lines out of its run.  All other events
are handed over in the same scope and the same world as before, the summary has the same numbers,
and the run has the same result.

What is left out is said by a mask, one mark for each member of a list.  The same masks serve for
the features of a specification, for the events of its run, and for the timeline of the run.

## Parts

* `keptBy` applies a mask to a list, and `Timeline.keep` to the events of a timeline.
* `LeavesOutSkipped` says that a mask leaves out nothing but skipped tests, and `Specification.keep`
  is the specification without them.
* `Timeline.ofSpecification_keep` and `Timeline.ofEach_keep` say that the timeline of a run is masked
  with its features.
* `skipped_tests_inert` is the result.
-/

namespace Conformance

variable {σ ρ α β : Type}

/-! ## Masks -/

/-- The members of a list that a mask keeps.  What is behind the end of the mask is kept. -/
def keptBy : List Bool → List α → List α
  | [], xs => xs
  | _ :: _, [] => []
  | true :: mask, x :: xs => x :: keptBy mask xs
  | false :: mask, _ :: xs => keptBy mask xs

lemma keptBy_map (f : α → β) (mask : List Bool) (xs : List α) :
    keptBy mask (xs.map f) = (keptBy mask xs).map f := by
  induction mask generalizing xs with
  | nil => rfl
  | cons kept mask ih =>
    cases xs with
    | nil => rfl
    | cons x xs => cases kept <;> simp [keptBy, ih]

/-- The mask leaves out nothing but skipped tests. -/
def LeavesOutSkipped (mask : List Bool) (fs : List Feature) : Prop :=
  List.Forall₂ (fun kept f => kept = true ∨ f.isSkipped = true) mask fs

/-- The specification with the features that a mask keeps, counted anew. -/
def Specification.keep (mask : List Bool) (spec : Specification) : Specification :=
  { spec with features := keptBy mask spec.features, stats := .count (keptBy mask spec.features) }

/-! ## Counting what is left out -/

section Counting

variable {mask : List Bool} {fs : List Feature}

/-- A test that treats all skipped tests alike holds for as many features more as are left out, or
for none. -/
lemma countP_keptBy (leaves : LeavesOutSkipped mask fs) {p : Feature → Bool} {b : Bool}
    (alike : ∀ f, f.isSkipped = true → p f = b) :
    fs.countP p = (keptBy mask fs).countP p + if b then mask.count false else 0 := by
  induction leaves with
  | nil => cases b <;> rfl
  | @cons kept f mask fs first rest ih =>
    cases kept with
    | true =>
      rw [keptBy, List.countP_cons, List.countP_cons, ih, List.count_cons_of_ne (by simp)]
      omega
    | false =>
      have skipped : p f = b := alike f (by simpa using first)
      rw [keptBy, List.countP_cons, ih, skipped, List.count_cons_self]
      cases b <;> simp [Nat.add_assoc]

lemma Stats.count_eq (fs : List Feature) :
    count fs = ⟨fs.length, fs.countP Feature.isComment, fs.countP Feature.isSkipped,
      fs.countP Feature.isSkipped + fs.countP Feature.runs⟩ := by
  simp [count, foldl_add, zero]

/-- Skipped tests that are left out are missing among the features, the skipped tests and the tests
of the statistics. -/
lemma Stats.count_keptBy (leaves : LeavesOutSkipped mask fs) :
    count fs = ⟨(count (keptBy mask fs)).features + mask.count false,
      (count (keptBy mask fs)).comments, (count (keptBy mask fs)).skipped + mask.count false,
      (count (keptBy mask fs)).tests + mask.count false⟩ := by
  have length : fs.length = (keptBy mask fs).length + mask.count false := by
    have all := countP_keptBy leaves (p := fun _ => true) (b := true) fun _ _ => rfl
    rwa [List.countP_true] at all
  have comments : fs.countP Feature.isComment = (keptBy mask fs).countP Feature.isComment :=
    countP_keptBy leaves (b := false) fun f skipped => by
      cases f with
      | comment c => cases skipped
      | test t => rfl
  have skipped : fs.countP Feature.isSkipped =
      (keptBy mask fs).countP Feature.isSkipped + mask.count false :=
    countP_keptBy leaves (b := true) fun _ skipped => skipped
  have runs : fs.countP Feature.runs = (keptBy mask fs).countP Feature.runs :=
    countP_keptBy leaves (b := false) fun f skipped => by
      cases f with
      | comment c => rfl
      | test t =>
        have skip : t.skip = true := skipped
        rw [Feature.runs, skip]
        rfl
  rw [count_eq, count_eq, length, comments, skipped, runs, Nat.add_right_comm]

end Counting

section Summary

variable {mask : List Bool} {spec : Specification}

/-- The summary takes the skipped tests out again, however many there are. -/
lemma Specification.summary_keep (counted : spec.stats = .count spec.features)
    (leaves : LeavesOutSkipped mask spec.features) (passed : ℕ) :
    (spec.keep mask).summary passed = spec.summary (passed + mask.count false) := by
  have stats := Stats.count_keptBy leaves
  rw [← counted] at stats
  rw [summary, summary, stats]
  simp only [keep, Event.summary.injEq, true_and]
  omega

/-- So does the comparison with the number of features. -/
lemma Specification.features_keep (counted : spec.stats = .count spec.features)
    (leaves : LeavesOutSkipped mask spec.features) (passed : ℕ) :
    (passed == (spec.keep mask).stats.features) =
      (passed + mask.count false == spec.stats.features) := by
  have stats := Stats.count_keptBy leaves
  rw [← counted] at stats
  rw [stats, Bool.eq_iff_iff, beq_iff_eq, beq_iff_eq]
  exact Nat.add_right_cancel_iff.symm

end Summary

/-! ## Masked timelines -/

/-- The place at which a run ends, with an answer or with an error. -/
def endPlace : EStateM.Result Error (Place σ) α → Place σ
  | .ok _ p => p
  | .error _ p => p

namespace Timeline

/-- The timeline with the events that a mask keeps. -/
def keep : List Bool → Timeline σ α → Timeline σ α
  | [], t => t
  | _ :: _, done ending => done ending
  | true :: mask, report event place rest => report event place (rest.keep mask)
  | false :: mask, report _ _ rest => rest.keep mask

lemma moments_keep (mask : List Bool) (t : Timeline σ α) :
    (t.keep mask).moments = keptBy mask t.moments := by
  induction mask generalizing t with
  | nil => rfl
  | cons kept mask ih =>
    cases t with
    | done ending => rfl
    | report event place rest => cases kept <;> simp [keep, keptBy, ih]

lemma events_keep (mask : List Bool) (t : Timeline σ α) :
    (t.keep mask).events = keptBy mask t.events := by
  rw [events, moments_keep, ← keptBy_map]
  rfl

lemma ending_keep (mask : List Bool) (t : Timeline σ α) : (t.keep mask).ending = t.ending := by
  induction mask generalizing t with
  | nil => rfl
  | cons kept mask ih =>
    cases t with
    | done ending => rfl
    | report event place rest => cases kept <;> simp [keep, ih]

lemma keep_done (mask : List Bool) (ending : EStateM.Result Error (Place σ) α) :
    (done ending).keep mask = done ending := by
  cases mask <;> rfl

lemma andThen_assoc {γ : Type} (t : Timeline σ α) (next : α → Place σ → Timeline σ β)
    (last : β → Place σ → Timeline σ γ) :
    (t.andThen next).andThen last = t.andThen fun a p => (next a p).andThen last := by
  induction t with
  | done ending =>
    cases ending with
    | ok a p => rfl
    | error e p => rfl
  | report event place rest ih => rw [andThen, andThen, andThen, ih]

lemma andThen_done (t : Timeline σ α) : (t.andThen fun a p => done (.ok a p)) = t := by
  induction t with
  | done ending =>
    cases ending with
    | ok a p => rfl
    | error e p => rfl
  | report event place rest ih => rw [andThen, ih]

/-! ## The timeline of a run without some skipped tests -/

variable {h : Host σ} {settings : Settings} {mask : List Bool}

/-- A skipped test adds its line, and one to the number that has passed. -/
lemma ofFeatures_of_skip {t : Test} (skipped : t.skip = true) (fs : List Feature) (n : ℕ)
    (p : Place σ) :
    ofFeatures h settings (.test t :: fs) n p =
      report (.skipped t.text) p (ofFeatures h settings fs (n + 1) p) := by
  rw [ofFeatures, Host.attempt_of_skip skipped]
  rfl

/-- Leaving skipped tests out of features masks their timeline.  Those that are left out are missing
from the number that has passed, which is all that comes behind can tell. -/
lemma ofFeatures_keep {fs : List Feature} (leaves : LeavesOutSkipped mask fs)
    {next next' : ℕ → Place σ → Timeline σ α} {more : List Bool} {n k : ℕ} {p : Place σ}
    (behind : ∀ m q, next' m q = (next (m + (k + mask.count false)) q).keep more) :
    (ofFeatures h settings (keptBy mask fs) n p).andThen next' =
      ((ofFeatures h settings fs (n + k) p).andThen next).keep (mask ++ more) := by
  -- What has been left out so far grows with the induction.
  induction leaves generalizing n k p with
  | nil => exact behind n p
  | @cons kept f mask fs first rest ih =>
    cases kept with
    | true =>
      rw [List.count_cons_of_ne (by simp)] at behind
      rw [keptBy, ofFeatures, ofFeatures]
      cases attempted : h.attempt p.scope f p.world with
      | error e w => rfl
      | ok answer w =>
        obtain ⟨scope, event⟩ := answer
        simp only [andThen, List.cons_append, keep]
        congr 1
        split
        · exact (keep_done _ _).symm
        · have counted : (if event.isFail then n + k else n + k + 1) =
              (if event.isFail then n else n + 1) + k := by
            split <;> omega
          rw [counted]
          exact ih behind
    | false =>
      have skipped : f.isSkipped = true := by simpa using first
      cases f with
      | comment c => cases skipped
      | test t =>
        rw [keptBy, ofFeatures_of_skip skipped, andThen, List.cons_append, keep, Nat.add_assoc]
        refine ih fun m q => ?_
        rw [behind, List.count_cons_self, Nat.add_assoc, Nat.add_comm 1]

/-- Leaving skipped tests out of a specification masks its timeline, and the summary is kept. -/
lemma ofSpecification_keep {spec : Specification} (counted : spec.stats = .count spec.features)
    (leaves : LeavesOutSkipped mask spec.features) (next : Bool → Place σ → Timeline σ α)
    (more : List Bool) (w : World σ) :
    ((ofSpecification h settings (spec.keep mask) w).andThen fun passed q =>
        (next passed q).keep more) =
      ((ofSpecification h settings spec w).andThen next).keep (mask ++ true :: more) := by
  rw [ofSpecification, ofSpecification, andThen_assoc, andThen_assoc]
  refine ofFeatures_keep (k := 0) leaves fun m q => ?_
  rw [Nat.zero_add, Specification.summary_keep counted leaves,
    Specification.features_keep counted leaves]
  rfl

lemma ofSpecification_keep_alone {spec : Specification}
    (counted : spec.stats = .count spec.features) (leaves : LeavesOutSkipped mask spec.features)
    (w : World σ) :
    ofSpecification h settings (spec.keep mask) w =
      (ofSpecification h settings spec w).keep (mask ++ [true]) :=
  calc ofSpecification h settings (spec.keep mask) w
    _ = (ofSpecification h settings (spec.keep mask) w).andThen fun passed q =>
          (done (.ok passed q)).keep [] := (andThen_done _).symm
    _ = ((ofSpecification h settings spec w).andThen fun passed q =>
          done (.ok passed q)).keep (mask ++ [true]) := ofSpecification_keep counted leaves _ [] w
    _ = (ofSpecification h settings spec w).keep (mask ++ [true]) := by rw [andThen_done]

/-- The mask for a run of specifications without its banner.  Marks and summaries are kept. -/
def runMask (pairs : List (Specification × List Bool)) : List Bool :=
  pairs.flatMap fun pair => true :: (pair.2 ++ [true])

/-- Leaving skipped tests out of specifications masks their timeline. -/
lemma ofEach_keep {pairs : List (Specification × List Bool)}
    (counted : ∀ pair ∈ pairs, pair.1.stats = .count pair.1.features)
    (leaves : ∀ pair ∈ pairs, LeavesOutSkipped pair.2 pair.1.features) (success : Bool)
    (p : Place σ) :
    ofEach h settings (pairs.map fun pair => pair.1.keep pair.2) success p =
      (ofEach h settings (pairs.map Prod.fst) success p).keep (runMask pairs) := by
  induction pairs generalizing success p with
  | nil => rfl
  | cons pair rest ih =>
    rw [List.forall_mem_cons] at counted leaves
    obtain ⟨spec, mask⟩ := pair
    have mask_eq : runMask ((spec, mask) :: rest) = true :: (mask ++ true :: runMask rest) := by
      simp [runMask]
    rw [List.map_cons, List.map_cons, ofEach, ofEach, mask_eq, keep,
      ← ofSpecification_keep counted.1 leaves.1]
    congr 2
    funext passed q
    exact ih counted.2 leaves.2 (success && passed) q

/-- After the features that are kept, the run is where it is after all of them. -/
lemma place_of_ofFeatures_keep {fs : List Feature} (leaves : LeavesOutSkipped mask fs) (n : ℕ)
    (p : Place σ) :
    endPlace (ofFeatures h settings (keptBy mask fs) n p).ending =
      endPlace (ofFeatures h settings fs n p).ending := by
  have masked : (ofFeatures h settings (keptBy mask fs) n p).andThen
        (fun m q => done (.ok (m + mask.count false) q)) =
      ((ofFeatures h settings fs (n + 0) p).andThen fun m q => done (.ok m q)).keep (mask ++ []) :=
    ofFeatures_keep leaves fun m q => by rw [Nat.zero_add]; rfl
  have ends := congrArg (fun t => endPlace t.ending) masked
  rw [Nat.add_zero, andThen_done, ending_keep, ending_andThen] at ends
  rw [← ends]
  cases (ofFeatures h settings (keptBy mask fs) n p).ending <;> rfl

/-- What is handed over for a feature that is left out is the line of a skipped test. -/
lemma skipped_of_left_out {fs : List Feature} (leaves : LeavesOutSkipped mask fs) {i n : ℕ}
    {p : Place σ} {event : Event} (out : mask[i]? = some false)
    (there : (ofFeatures h settings fs n p).events[i]? = some event) :
    ∃ t, fs[i]? = some (.test t) ∧ event = .skipped t.text := by
  induction leaves generalizing i n p with
  | nil => cases out
  | @cons kept f mask fs first rest ih =>
    cases i with
    | zero =>
      cases out
      have skipped : f.isSkipped = true := by simpa using first
      cases f with
      | comment c => cases skipped
      | test t =>
        rw [ofFeatures_of_skip skipped] at there
        cases there
        exact ⟨t, rfl, rfl⟩
    | succ i =>
      rw [ofFeatures] at there
      cases attempted : h.attempt p.scope f p.world with
      | error e w =>
        rw [attempted] at there
        cases there
      | ok answer w =>
        simp only [attempted, events_report, List.getElem?_cons_succ] at there
        split at there
        · cases there
        · exact ih out there

lemma skipped_of_left_out_of_specification {spec : Specification} {w : World σ}
    (leaves : LeavesOutSkipped mask spec.features) {i : ℕ} {event : Event}
    (out : mask[i]? = some false)
    (there : (ofSpecification h settings spec w).events[i]? = some event) :
    ∃ t, spec.features[i]? = some (.test t) ∧ event = .skipped t.text := by
  rw [ofSpecification, events_andThen] at there
  by_cases among_lines : i < (ofFeatures h settings spec.features 0 ⟨spec.scope, w⟩).events.length
  · rw [List.getElem?_append_left among_lines] at there
    exact skipped_of_left_out leaves out there
  · -- Behind all lines there is only the summary, and the mask does not reach so far.
    cases ends : (ofFeatures h settings spec.features 0 ⟨spec.scope, w⟩).ending with
    | error e q =>
      rw [ends, List.append_nil] at there
      exact skipped_of_left_out leaves out there
    | ok n q =>
      obtain ⟨in_mask, -⟩ := List.getElem?_eq_some_iff.mp out
      have one_each := (course_of_ending ends).1.lines.length_eq
      have length_eq := leaves.length_eq
      omega

end Timeline

/-! ## The result -/

section Result

variable {h : Host σ} {settings : Settings} {reporter : Reporter ρ}

lemma runSpecification_of_accepts (accepts : reporter.Accepts) (spec : Specification)
    (s : Session σ ρ) :
    runSpecification h reporter settings spec s =
      withTaken (reporter.takeAll s.taken (Timeline.ofSpecification h settings spec s.world).events)
        (Timeline.ofSpecification h settings spec s.world).ending := by
  rw [runSpecification_eq_replay, Timeline.replay_of_takes (Reporter.takes_of_accepts accepts _ _)]

/-- The place that a run of features leaves. -/
lemma place_leaves_runFeatures (accepts : reporter.Accepts) (fs : List Feature) (n : ℕ)
    (s : Session σ ρ) :
    ((runFeatures h reporter settings fs n).leaves s).place =
      endPlace (Timeline.ofFeatures h settings fs n s.place).ending := by
  rw [RunM.leaves, runFeatures_eq_replay,
    Timeline.replay_of_takes (Reporter.takes_of_accepts accepts _ _)]
  cases (Timeline.ofFeatures h settings fs n s.place).ending <;> rfl

end Result

/-- **Skipped tests are inert.**  Leave some of the skipped tests out of a loaded specification and
count its features anew.  For every reporter that takes everything, the run then has the same result
or error, ends in the same scope and the same world, and reports the same events, the summary
included, without the lines of the tests that are left out.  After each feature that is kept, the
scope and the world are what they were.  This holds of every host, also of one that keeps a list of
all that it is asked for, so the host is asked for the same in the same order.  Nothing changes if
the specification is run between others, from which skipped tests may be left out as well. -/
theorem skipped_tests_inert (h : Host σ) (settings : Settings) :
    (∀ (spec : Specification) (mask : List Bool), spec.Loaded h →
      LeavesOutSkipped mask spec.features → ∀ w : World σ,
      ∃ (events : List Event) (ending : EStateM.Result Error (Place σ) Bool),
        (∀ {ρ : Type} (reporter : Reporter ρ), reporter.Accepts → ∀ s : Session σ ρ, s.world = w →
          runSpecification h reporter settings spec s =
            withTaken (reporter.takeAll s.taken events) ending ∧
          runSpecification h reporter settings (spec.keep mask) s =
            withTaken (reporter.takeAll s.taken (keptBy (mask ++ [true]) events)) ending ∧
          ∀ k, ((runFeatures h reporter settings
              (keptBy (mask.take k) (spec.features.take k)) 0).leaves
                { s with scope := spec.scope }).place =
            ((runFeatures h reporter settings (spec.features.take k) 0).leaves
              { s with scope := spec.scope }).place) ∧
        ∀ (i : ℕ) (event : Event), mask[i]? = some false → events[i]? = some event →
          ∃ t, spec.features[i]? = some (.test t) ∧ event = .skipped t.text) ∧
    ∀ pairs : List (Specification × List Bool),
      (∀ pair ∈ pairs, pair.1.Loaded h ∧ LeavesOutSkipped pair.2 pair.1.features) →
      ∀ p : Place σ, ∃ (events : List Event) (ending : EStateM.Result Error (Place σ) Bool),
        ∀ {ρ : Type} (reporter : Reporter ρ), reporter.Accepts → ∀ taken : ρ,
          runAll h reporter settings (pairs.map Prod.fst) (p.session taken) =
            withTaken (reporter.takeAll taken events) ending ∧
          runAll h reporter settings (pairs.map fun pair => pair.1.keep pair.2)
              (p.session taken) =
            withTaken (reporter.takeAll taken (keptBy (true :: Timeline.runMask pairs) events))
              ending := by
  constructor
  · intro spec mask loaded leaves w
    refine ⟨(Timeline.ofSpecification h settings spec w).events,
      (Timeline.ofSpecification h settings spec w).ending, ?_, ?_⟩
    · rintro ρ reporter accepts s rfl
      refine ⟨runSpecification_of_accepts accepts spec s, ?_, fun k => ?_⟩
      · rw [runSpecification_of_accepts accepts, Timeline.ofSpecification_keep_alone
          (Specification.stats_of_loaded loaded) leaves, Timeline.events_keep, Timeline.ending_keep]
      · rw [place_leaves_runFeatures accepts, place_leaves_runFeatures accepts]
        exact Timeline.place_of_ofFeatures_keep (List.forall₂_take k leaves) 0 _
    · exact fun i event => Timeline.skipped_of_left_out_of_specification leaves
  · intro pairs each p
    refine ⟨(Timeline.ofAll h settings (pairs.map Prod.fst) p).events,
      (Timeline.ofAll h settings (pairs.map Prod.fst) p).ending, ?_⟩
    intro ρ reporter accepts taken
    have takes (events : List Event) := Reporter.takes_of_accepts accepts taken events
    refine ⟨runAll_of_takes (takes _), ?_⟩
    have masked : Timeline.ofAll h settings (pairs.map fun pair => pair.1.keep pair.2) p =
        (Timeline.ofAll h settings (pairs.map Prod.fst) p).keep
          (true :: Timeline.runMask pairs) := by
      rw [Timeline.ofAll, Timeline.ofAll, Timeline.keep, Timeline.ofEach_keep
        (fun pair there => Specification.stats_of_loaded (each pair there).1)
        fun pair there => (each pair there).2]
    rw [runAll_of_takes (takes _), masked, Timeline.events_keep, Timeline.ending_keep]

/-! ### A host that keeps a diary -/

/-- A host with one hook, whose state lists how many arguments each call had. -/
def diaryHost : Host (List ℕ) where
  packages := []
  extensions := [("diary", [⟨"note", .host 0⟩])]
  call _ args := do
    modify fun w => { w with state := w.state ++ [args.length] }
    return .int 1
  construct _ _ := pure .null
  member _ _ := pure none
  setMember _ _ _ := pure ()
  views _ := .none
  thunkDepth _ := 1

/-- A document with two skipped tests among one that fails and two that make an entry in the
diary. -/
def diaryNodes : List Yaml.Node :=
  [.sequence [.string "Pkg", .mapping [(.string "(js) $note", .sequence [.null, .null])],
    .mapping [(.string "$note", .sequence [.bool true])],
    .mapping [(.string "n ==", .number (.int 1))], .mapping [(.string "(js:py) n ==", .null)],
    .mapping [(.string "$note", .sequence [])]],
  .mapping [(.string "rs", .string "diary")]]

def diaryFeatures : List Feature :=
  [.comment ⟨"Pkg", none, false⟩,
    .test ⟨some ["js"], true, none, some "$note", true, [.null, .null], [], .null,
      "$note(null, null)"⟩,
    .test ⟨none, false, none, some "$note", true, [.bool true], [], .null, "$note(true)"⟩,
    .test ⟨none, false, none, some "n", false, [], [], .int 1, "n == 1"⟩,
    .test ⟨some ["js", "py"], true, none, some "n", false, [], [], .null, "n"⟩,
    .test ⟨none, false, none, some "$note", true, [], [], .null, "$note()"⟩]

def diarySpecification : Specification :=
  ⟨"Pkg", diaryFeatures, (Scope.new 0).addHooks [⟨"note", .host 0⟩], .count diaryFeatures⟩

/-- The mask that leaves out both skipped tests. -/
def diaryMask : List Bool :=
  [true, false, true, true, false, true]

lemma diarySpecification_loaded : diarySpecification.Loaded diaryHost :=
  ⟨"rs", 0, diaryNodes, rfl⟩

lemma diaryMask_leavesOutSkipped : LeavesOutSkipped diaryMask diarySpecification.features := by
  simp [LeavesOutSkipped, diaryMask, diarySpecification, diaryFeatures, Feature.isSkipped]

theorem diarySpecification_without_skipped :
    diarySpecification.Loaded diaryHost ∧
      LeavesOutSkipped diaryMask diarySpecification.features ∧
      ∃ q : Place (List ℕ), q.world.state = [1, 0] ∧
        runSpecification diaryHost .recorder ⟨"rs", false⟩ (diarySpecification.keep diaryMask)
            ⟨.new 1, ⟨[], []⟩, []⟩ =
          .ok false (q.session [.heading "Pkg", .pass "$note(true)",
            .fail "n == 1" (.mismatch "null" "1"), .pass "$note()", .summary "Pkg" 2 3]) := by
  refine ⟨diarySpecification_loaded, diaryMask_leavesOutSkipped, ?_⟩
  obtain ⟨events, ending, runs, -⟩ := (skipped_tests_inert diaryHost ⟨"rs", false⟩).1
    diarySpecification diaryMask diarySpecification_loaded diaryMask_leavesOutSkipped ⟨[], []⟩
  obtain ⟨full, kept, -⟩ := runs .recorder Reporter.recorder_accepts ⟨.new 1, ⟨[], []⟩, []⟩ rfl
  have taken : ((runSpecification diaryHost .recorder ⟨"rs", false⟩ diarySpecification).leaves
      ⟨.new 1, ⟨[], []⟩, []⟩).taken = [.heading "Pkg", .skipped "$note(null, null)",
        .pass "$note(true)", .fail "n == 1" (.mismatch "null" "1"), .skipped "n",
        .pass "$note()", .summary "Pkg" 2 3] := by
    decide +kernel
  have state : ((runSpecification diaryHost .recorder ⟨"rs", false⟩ diarySpecification).leaves
      ⟨.new 1, ⟨[], []⟩, []⟩).world.state = [1, 0] := by
    decide +kernel
  have answers : answer? (runSpecification diaryHost .recorder ⟨"rs", false⟩ diarySpecification
      ⟨.new 1, ⟨[], []⟩, []⟩) = some false := by
    decide +kernel
  rw [RunM.leaves, full] at taken state
  rw [full] at answers
  rw [kept]
  cases ending with
  | error e q => cases answers
  | ok success q =>
    cases answers
    have events_eq : events = _ := (Reporter.takeAll_recorder [] events).symm.trans taken
    refine ⟨q, state, ?_⟩
    rw [events_eq]
    rfl

end Conformance
