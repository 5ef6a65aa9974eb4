import Conformance.Proofs.Run.Prefix
import Conformance.Proofs.Scope.Dereferenced
import Conformance.Proofs.Scope.Walk

/-!
# How long an assignment stays visible

What a test assigns to an entry of the scope is what every reference to that entry reads, until
another test assigns to a path that starts there.  Nothing else reaches the entry.  Calls,
constructors and look-ups change the world and not the scope, a write through a class or an instance
lands in the world too, and a feature that cannot be executed leaves the scope as it was.

The features of a specification are run one by one here, whether the one before could be executed or
not.  A run that stops at an error is the beginning of such a run.

## Parts

* `RunsThrough` says that features are run through a sequence of sessions, `sessionAt` is such a
  sequence, and `sessionAt_of_runFeatures` finds it in the run of a specification.
* `Host.Results` says what the result of a test is, and `Assigns` which path it is bound to.
* `get?_leaves_of_not_assigns` is the frame: a feature keeps the entries that it does not assign to.
* `assignment_stays_visible` is the result.
-/

namespace Conformance

variable {σ ρ : Type}

/-! ## Running feature by feature -/

/-- The session that an action leaves, whether it answers or fails. -/
def RunM.leaves {α : Type} (action : RunM σ ρ α) (s : Session σ ρ) : Session σ ρ :=
  match action s with
  | .ok _ s => s
  | .error _ s => s

lemma RunM.leaves_of_ok {α : Type} {action : RunM σ ρ α} {s s' : Session σ ρ} {a : α}
    (answers : action s = .ok a s') : action.leaves s = s' := by
  rw [leaves, answers]

lemma RunM.leaves_of_error {α : Type} {action : RunM σ ρ α} {s s' : Session σ ρ} {e : Error}
    (fails : action s = .error e s') : action.leaves s = s' := by
  rw [leaves, fails]

/-- The features are run one by one through these sessions.  Each feature is executed in the session
of its number, and the next session has the scope and the world that it leaves.  Reporters may
change between features. -/
def RunsThrough (h : Host σ) (features : List Feature) (session : ℕ → Session σ ρ) : Prop :=
  ∀ k f, features[k]? = some f → ∃ (reporter : Reporter ρ) (taken : ρ),
    session (k + 1) = { (execute h reporter f).leaves (session k) with taken := taken }

/-- The session in which the feature with a number is executed, with one reporter for all. -/
def sessionAt (h : Host σ) (reporter : Reporter ρ) (features : List Feature) (s : Session σ ρ) :
    ℕ → Session σ ρ
  | 0 => s
  | k + 1 =>
    match features[k]? with
    | some f => (execute h reporter f).leaves (sessionAt h reporter features s k)
    | none => sessionAt h reporter features s k

lemma runsThrough_sessionAt (h : Host σ) (reporter : Reporter ρ) (features : List Feature)
    (s : Session σ ρ) : RunsThrough h features (sessionAt h reporter features s) := by
  intro k f there
  refine ⟨reporter, (sessionAt h reporter features s (k + 1)).taken, ?_⟩
  simp only [sessionAt, there]

/-- The run of a specification that gets as far as a feature executes it in that session. -/
theorem sessionAt_of_runFeatures {h : Host σ} {reporter : Reporter ρ} {settings : Settings}
    {features : List Feature} {s s' : Session σ ρ} {k n m : ℕ}
    (ran : runFeatures h reporter settings (features.take k) n s = .ok m s') :
    sessionAt h reporter features s k = s' := by
  induction k generalizing m s' with
  | zero =>
    cases ran
    rfl
  | succ k ih =>
    rw [sessionAt]
    cases there : features[k]? with
    | none =>
      have whole : features.take (k + 1) = features.take k := by
        rw [List.take_add_one, there, Option.toList_none, List.append_nil]
      rw [whole] at ran
      exact ih ran
    | some f =>
      rw [List.take_add_one, there, Option.toList_some, runFeatures_append] at ran
      obtain ⟨m₁, s₁, before, ran⟩ := bind_eq_ok_iff.mp ran
      dsimp only
      rw [ih before]
      rw [runFeatures_cons] at ran
      obtain ⟨passed, s₂, executed, ran⟩ := bind_eq_ok_iff.mp ran
      rw [RunM.leaves_of_ok executed]
      cases passed with
      | true =>
        cases ran
        rfl
      | false =>
        cases stops : settings.exitFirst with
        | true =>
          rw [if_neg Bool.false_ne_true, if_pos stops] at ran
          cases ran
        | false =>
          rw [if_neg Bool.false_ne_true, stops, if_neg Bool.false_ne_true] at ran
          cases ran
          rfl

/-! ## Results of tests -/

/-- The result of a test: what its property gives, the reserved error value if the use of the
property raises, and without a property what is expected. -/
inductive Host.Results (h : Host σ) (s : Scope) (t : Test) (w : World σ) : Value → Prop
  | used {resolved : Resolved} {property : String} {value : Value} {w₁ w₂ : World σ}
      (resolves : s.resolve h t w = .ok resolved w₁) (reads : t.property = some property)
      (gives : h.useProperty s property t.call resolved.args resolved.kwargs w₁ = .ok value w₂) :
      Results h s t w value
  | raised {resolved : Resolved} {property : String} {e : Error} {w₁ w₂ : World σ}
      (resolves : s.resolve h t w = .ok resolved w₁) (reads : t.property = some property)
      (raises : h.useProperty s property t.call resolved.args resolved.kwargs w₁ = .error e w₂)
      (isRaised : e.isRaised = true) : Results h s t w (.string "ERROR")
  | stated {resolved : Resolved} {w₁ : World σ} (resolves : s.resolve h t w = .ok resolved w₁)
      (reads : t.property = none) : Results h s t w resolved.expected

/-- The feature, executed in the session, assigns its result to the path: it is a test with that
target that is not skipped and ends without an error. -/
def Assigns (h : Host σ) (f : Feature) (s : Session σ ρ) (path : String) : Prop :=
  ∃ t answer w, f = .test t ∧ t.skip = false ∧ t.assign = some path ∧
    h.attempt s.scope f s.world = .ok answer w

lemma Host.Results.produce {h : Host σ} {s : Scope} {t : Test} {w : World σ} {r : Value}
    (result : h.Results s t w r) :
    ∃ resolved w₁ o w₂, s.resolve h t w = .ok resolved w₁ ∧
      h.produce s t resolved w₁ = .ok o w₂ ∧ o.value = r := by
  cases result with
  | @used resolved property value w₁ w₂ resolves reads gives =>
    refine ⟨resolved, w₁, ⟨r, none⟩, w₂, resolves, ?_, rfl⟩
    rw [produce_of_property reads, outcome, gives]
  | @raised resolved property e w₁ w₂ resolves reads raises isRaised =>
    refine ⟨resolved, w₁, ⟨.error, some e.message⟩, w₂, resolves, ?_, rfl⟩
    rw [produce_of_property reads, outcome_of_raised raises isRaised]
  | @stated resolved w₁ resolves reads =>
    refine ⟨resolved, w₁, ⟨resolved.expected, none⟩, w₁, resolves, ?_, rfl⟩
    rw [produce_of_no_property reads]
    rfl

/-! ## What a feature does to an entry -/

namespace Scope

variable {s s' : Scope} {h : Host σ} {x : String} {w w' : World σ}

lemma get?_insert_self (s : Scope) (x : String) (value : Value) :
    (s.insert x value).get? x = some value :=
  Assoc.get?_insert_self s.entries x value

lemma get?_assign_of_ne {path : String} {value : Value}
    (assigned : s.assign h path value w = .ok s' w') (ne : (Path.ofString path).first ≠ x) :
    s'.get? x = s.get? x := by
  rcases assign_eq_ok_iff.mp assigned with ⟨-, -, rfl⟩ | ⟨_, _, _, updated, -, -, -, rfl⟩
  · exact Assoc.get?_insert_of_ne s.entries value ne
  · exact Assoc.get?_insert_of_ne s.entries updated ne

/-- A target without dots is an entry, and takes any value. -/
lemma bindTarget_of_dotFree {t : Test} {value : Value} (target : t.assign = some x)
    (dotFree : '.' ∉ x.toList) (w : World σ) :
    s.bindTarget h t value w = .ok (s.insert x value) w := by
  have entry : (Path.ofString x).rest = [] := by rw [Path.ofString_of_notMem dotFree]
  have first : (Path.ofString x).first = x := by rw [Path.ofString_of_notMem dotFree]
  rw [bindTarget, target]
  dsimp only
  rw [assign_of_entry entry, first]

/-- An entry answers a look-up of its name. -/
lemma lookup_of_get? {r : Value} (dotFree : '.' ∉ x.toList) (bound : s.get? x = some r)
    (w : World σ) : s.lookup h x w = .ok r w := by
  rw [lookup, Path.ofString_of_notMem dotFree]
  dsimp only
  rw [bound]
  rfl

end Scope

variable {h : Host σ} {f : Feature} {s : Session σ ρ} {x : String}

lemma scope_leaves_of_ok {reporter : Reporter ρ} {scope : Scope} {event : Event} {w : World σ}
    (attempted : h.attempt s.scope f s.world = .ok (scope, event) w) :
    ((execute h reporter f).leaves s).scope = scope := by
  rw [RunM.leaves, execute_of_ok attempted, RunM.announce, bind_apply, RunM.report_apply]
  cases reporter.report event s.taken with
  | ok _ taken => rfl
  | error reason taken => rfl

lemma scope_leaves_of_error {reporter : Reporter ρ} {e : Error} {w : World σ}
    (fails : h.attempt s.scope f s.world = .error e w) :
    ((execute h reporter f).leaves s).scope = s.scope := by
  rw [RunM.leaves_of_error (execute_of_error fails)]

/-- A feature keeps the entries that it does not assign to. -/
theorem get?_leaves_of_not_assigns (reporter : Reporter ρ)
    (elsewhere : ∀ path, Assigns h f s path → (Path.ofString path).first ≠ x) :
    ((execute h reporter f).leaves s).scope.get? x = s.scope.get? x := by
  cases attempted : h.attempt s.scope f s.world with
  | error e w => rw [scope_leaves_of_error attempted]
  | ok answer w =>
    obtain ⟨scope, event⟩ := answer
    rw [scope_leaves_of_ok attempted]
    cases f with
    | comment c =>
      cases attempted
      rfl
    | test t =>
      cases skip : t.skip with
      | true =>
        rw [Host.attempt_of_skip skip] at attempted
        cases attempted
        rfl
      | false =>
        have assigns_to : ∀ path, t.assign = some path → (Path.ofString path).first ≠ x :=
          fun path target => elsewhere path ⟨t, _, w, rfl, skip, target, attempted⟩
        rw [Host.attempt_of_runs skip] at attempted
        obtain ⟨resolved, w₁, -, attempted⟩ := bind_eq_ok_iff.mp attempted
        obtain ⟨o, w₂, -, attempted⟩ := bind_eq_ok_iff.mp attempted
        obtain ⟨bound, -⟩ := Host.settle_eq_ok_iff.mp attempted
        rw [Scope.bindTarget] at bound
        cases target : t.assign with
        | none =>
          rw [target] at bound
          cases bound
          rfl
        | some path =>
          rw [target] at bound
          exact Scope.get?_assign_of_ne bound (assigns_to path target)

/-- A test binds its result to the entry that it assigns to. -/
lemma get?_leaves_of_results {t : Test} {r : Value} (reporter : Reporter ρ)
    (runs : t.skip = false) (target : t.assign = some x) (dotFree : '.' ∉ x.toList)
    (result : h.Results s.scope t s.world r) :
    ((execute h reporter (.test t)).leaves s).scope.get? x = some r := by
  obtain ⟨resolved, w₁, o, w₂, resolves, produced, rfl⟩ := result.produce
  have bound : s.scope.bindTarget h t o.value w₂ = .ok (s.scope.insert x o.value) w₂ :=
    Scope.bindTarget_of_dotFree target dotFree w₂
  have attempted : h.attempt s.scope (.test t) s.world =
      .ok (s.scope.insert x o.value, h.verdict w₂ t resolved.expected o) w₂ := by
    rw [Host.attempt_of_runs runs, bind_of_ok resolves, bind_of_ok produced]
    exact Host.settle_eq_ok_iff.mpr ⟨bound, rfl⟩
  rw [scope_leaves_of_ok attempted]
  exact Scope.get?_insert_self s.scope x o.value

/-! ## From one feature to a later one -/

/-- An entry that is bound before a stretch of features, and that none of them assigns to, is bound
alike behind it. -/
lemma get?_of_runsThrough {features : List Feature} {session : ℕ → Session σ ρ}
    (run : RunsThrough h features session) {m j : ℕ} (later : m ≤ j) (within : j ≤ features.length)
    {r : Value} (bound : (session m).scope.get? x = some r)
    (undisturbed : ∀ k f path, m ≤ k → k < j → features[k]? = some f →
      Assigns h f (session k) path → (Path.ofString path).first ≠ x) :
    (session j).scope.get? x = some r := by
  induction later with
  | refl => exact bound
  | @step k reached ih =>
    have before : (session k).scope.get? x = some r :=
      ih (by omega) fun k' f path from_m to_k => undisturbed k' f path from_m (by omega)
    have there : features[k]? = some features[k] := List.getElem?_eq_getElem (by omega)
    obtain ⟨reporter, taken, next⟩ := run k _ there
    have kept := get?_leaves_of_not_assigns reporter fun path assigns =>
      undisturbed k _ path reached (by omega) there assigns
    rw [next]
    exact kept.trans before

lemma Scope.resolve_eq_ok {s : Scope} {t : Test} {w w' : World σ} {resolved : Resolved}
    (ok : s.resolve h t w = .ok resolved w') :
    s.ComesTo h (.array t.args) (.array resolved.args) ∧
      (∀ n, Option.Rel (s.ComesTo h) ((Value.object t.kwargs).child? n)
        ((Value.object resolved.kwargs).child? n)) ∧
      s.ComesTo h t.result resolved.expected := by
  obtain ⟨args, w₁, first, ok⟩ := bind_eq_ok_iff.mp ok
  obtain ⟨kwargs, w₂, second, ok⟩ := bind_eq_ok_iff.mp ok
  obtain ⟨expected, w₃, third, ok⟩ := bind_eq_ok_iff.mp ok
  cases ok
  refine ⟨⟨w, w₁, ?_⟩, rel_child_of_entries (comesTo_entries second), ⟨w₂, w', third⟩⟩
  rw [dereference, bind_of_ok first]
  rfl

/-- A reference that reads the same in every world is replaced by what it reads, wherever it
stands. -/
lemma Scope.ComesTo.at_reference {s : Scope} {v v' r : Value} {position : List ℕ}
    (comes : s.ComesTo h v v') (node : v.at? position = some (.reference x))
    (reads : ∀ w, s.lookup h x w = .ok r w) : v'.at? position = some r := by
  obtain ⟨u, there, answers⟩ := comes.at node Value.noConfusion
  obtain ⟨w, w', found⟩ := comesTo_reference_iff.mp answers
  rw [reads w] at found
  cases found
  exact there

/-- **An assignment stays visible.**  Let a specification be run feature by feature, and let a test
that is not skipped assign its result to a name without dots.  As long as no feature behind it
assigns to a path that starts with this name, a reference to the name is dereferenced to exactly
that result.  So in the arguments, the keyword arguments and the expected result of a later test, it
stands wherever there was a reference to the name. -/
theorem assignment_stays_visible (h : Host σ) (spec : Specification) (session : ℕ → Session σ ρ)
    (run : RunsThrough h spec.features session) {i j : ℕ} (later : i < j) {assigning reading : Test}
    (at_i : spec.features[i]? = some (.test assigning))
    (at_j : spec.features[j]? = some (.test reading)) (executed : assigning.skip = false)
    {x : String} (target : assigning.assign = some x) (dotFree : '.' ∉ x.toList) {r : Value}
    (result : h.Results (session i).scope assigning (session i).world r)
    (undisturbed : ∀ k f path, i < k → k < j → spec.features[k]? = some f →
      Assigns h f (session k) path → (Path.ofString path).first ≠ x) :
    (∀ w, (session j).scope.dereference h (.reference x) w = .ok r w) ∧
    ∀ w resolved w', (session j).scope.resolve h reading w = .ok resolved w' →
      (∀ position, (Value.array reading.args).at? position = some (.reference x) →
        (Value.array resolved.args).at? position = some r) ∧
      (∀ n position, (Value.object reading.kwargs).at? (n :: position) = some (.reference x) →
        (Value.object resolved.kwargs).at? (n :: position) = some r) ∧
      ∀ position, reading.result.at? position = some (.reference x) →
        resolved.expected.at? position = some r := by
  have within : j ≤ spec.features.length := by
    obtain ⟨reaches, -⟩ := List.getElem?_eq_some_iff.mp at_j
    omega
  obtain ⟨reporter, taken, next⟩ := run i _ at_i
  have bound_behind : (session (i + 1)).scope.get? x = some r := by
    rw [next]
    exact get?_leaves_of_results reporter executed target dotFree result
  have bound : (session j).scope.get? x = some r :=
    get?_of_runsThrough run later within bound_behind fun k f path from_i to_j =>
      undisturbed k f path (by omega) to_j
  have reads : ∀ w, (session j).scope.lookup h x w = .ok r w :=
    Scope.lookup_of_get? dotFree bound
  refine ⟨fun w => ?_, fun w resolved w' ok => ?_⟩
  · rw [Value.reference, Scope.dereference]
    exact reads w
  · obtain ⟨args, kwargs, expected⟩ := Scope.resolve_eq_ok ok
    refine ⟨fun position node => args.at_reference node reads, ?_,
      fun position node => expected.at_reference node reads⟩
    intro n position node
    have related := kwargs n
    obtain ⟨child, here, node⟩ := Option.bind_eq_some_iff.mp node
    rw [here] at related
    rw [Value.at?_cons]
    generalize (Value.object resolved.kwargs).child? n = child' at related ⊢
    cases related with
    | some comes => exact comes.at_reference node reads

/-! ### A specification that assigns and reads -/

/-- A test that assigns a stated value to an entry. -/
def statingTest (x : String) (value : Value) : Test where
  tags := none
  skip := false
  assign := some x
  property := none
  call := false
  args := []
  kwargs := []
  result := value
  text := x ++ " ="

/-- A call that takes the entry `x` at two depths and as a keyword argument. -/
def takingTest : Test where
  tags := none
  skip := false
  assign := none
  property := some "y"
  call := true
  args := [.array [.int 1, .reference "x"]]
  kwargs := [("k", .reference "x")]
  result := .object [("a", .reference "x"), ("b", .null)]
  text := "y([1,x], k=x)"

/-- The entry `x` is assigned, then the entry `y`, and then `x` is read. -/
def visibleFeatures : List Feature :=
  [.comment ⟨"Pkg", none, false⟩, .test (statingTest "x" (.int 5)),
    .test (statingTest "y" (.int 6)), .test takingTest]

def visibleSpecification : Specification :=
  ⟨"Pkg", visibleFeatures, .new 0, .count visibleFeatures⟩

/-- The sessions in which these features are executed. -/
def visibleSession : ℕ → Session Unit (List Event) :=
  sessionAt emptyHost .recorder visibleFeatures ⟨.new 0, ⟨[], ()⟩, []⟩

theorem taken_entry_is_assigned_one :
    RunsThrough emptyHost visibleSpecification.features visibleSession ∧
    emptyHost.Results (visibleSession 1).scope (statingTest "x" (.int 5)) (visibleSession 1).world
      (.int 5) ∧
    ∃ resolved w, (visibleSession 3).scope.resolve emptyHost takingTest (visibleSession 3).world =
        .ok resolved w ∧
      (Value.array resolved.args).at? [0, 1] = some (.int 5) ∧
      (Value.object resolved.kwargs).at? [0] = some (.int 5) ∧
      resolved.expected.at? [0] = some (.int 5) := by
  have run : RunsThrough emptyHost visibleSpecification.features visibleSession :=
    runsThrough_sessionAt emptyHost .recorder visibleFeatures _
  have stated : (visibleSession 1).scope.resolve emptyHost (statingTest "x" (.int 5))
      (visibleSession 1).world = .ok ⟨[], [], .int 5⟩ (visibleSession 1).world := rfl
  have result : emptyHost.Results (visibleSession 1).scope (statingTest "x" (.int 5))
      (visibleSession 1).world (.int 5) := .stated stated rfl
  have undisturbed : ∀ k f path, 1 < k → k < 3 → visibleSpecification.features[k]? = some f →
      Assigns emptyHost f (visibleSession k) path → (Path.ofString path).first ≠ "x" := by
    intro k f path from_1 to_3 there assigns
    obtain rfl : k = 2 := by omega
    have is_second : some (Feature.test (statingTest "y" (.int 6))) = some f := there
    cases is_second
    obtain ⟨t, answer, w, is_test, -, target, -⟩ := assigns
    cases is_test
    have is_y : some "y" = some path := target
    cases is_y
    decide
  have at_1 : visibleSpecification.features[1]? = some (.test (statingTest "x" (.int 5))) := rfl
  have at_3 : visibleSpecification.features[3]? = some (.test takingTest) := rfl
  have visible := assignment_stays_visible emptyHost visibleSpecification visibleSession run
    (by decide) at_1 at_3 rfl rfl (by decide) result undisturbed
  have resolves : (visibleSession 3).scope.resolve emptyHost takingTest (visibleSession 3).world =
      .ok ⟨[.array [.int 1, .int 5]], [("k", .int 5)], .object [("a", .int 5), ("b", .null)]⟩
        (visibleSession 3).world := rfl
  obtain ⟨args, kwargs, expected⟩ := visible.2 _ _ _ resolves
  exact ⟨run, result, _, _, resolves, args [0, 1] rfl, kwargs 0 [] rfl, expected [0] rfl⟩

end Conformance
