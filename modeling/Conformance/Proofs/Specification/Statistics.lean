import Conformance.Proofs.Action
import Conformance.Specification.Load

/-!
# What the statistics count

A specification carries four numbers that are counted once, when it is loaded, and read only behind
its run.  Each of them is a count over the list of its features, and the four are tied together:
every feature is a comment, a skipped test or a test that runs.

## Parts

* `Feature.isSkipped` and `Feature.runs` split the tests of a specification.
* `Stats.features_count`, `Stats.comments_add_tests` and `Stats.tests_count` are the laws.
* `Specification.Loaded` says that a specification comes from the loader, and
  `Specification.stats_of_loaded` that its statistics are those of its features.
-/

namespace Conformance

namespace Feature

/-- Whether the feature is a test that is skipped. -/
def isSkipped : Feature → Bool
  | comment _ => false
  | test t => t.skip

/-- Whether the feature is a test that is not skipped. -/
def runs : Feature → Bool
  | comment _ => false
  | test t => !t.skip

end Feature

/-! ## Counting -/

namespace Stats

/-- Counting goes on from any statistics in the same way. -/
lemma foldl_add (fs : List Feature) (s : Stats) :
    fs.foldl add s =
      ⟨s.features + fs.length, s.comments + fs.countP Feature.isComment,
        s.skipped + fs.countP Feature.isSkipped,
        s.tests + (fs.countP Feature.isSkipped + fs.countP Feature.runs)⟩ := by
  induction fs generalizing s with
  | nil => rfl
  | cons f fs ih =>
    rw [List.foldl_cons, ih]
    cases f with
    | comment c =>
      simp only [add, List.length_cons, List.countP_cons, Feature.isComment, Feature.isSkipped,
        Feature.runs, Stats.mk.injEq]
      grind
    | test t =>
      cases skip : t.skip <;>
        simp only [add, skip, List.length_cons, List.countP_cons, Feature.isComment,
          Feature.isSkipped, Feature.runs, Stats.mk.injEq] <;>
        grind

variable (fs : List Feature)

lemma features_count : (count fs).features = fs.length := by
  simp [count, foldl_add, zero]

lemma comments_count : (count fs).comments = fs.countP Feature.isComment := by
  simp [count, foldl_add, zero]

lemma skipped_count : (count fs).skipped = fs.countP Feature.isSkipped := by
  simp [count, foldl_add, zero]

/-- A test is skipped or runs. -/
lemma tests_count : (count fs).tests = (count fs).skipped + fs.countP Feature.runs := by
  simp [count, foldl_add, zero]

/-- A feature is a comment or a test. -/
lemma comments_add_tests : (count fs).comments + (count fs).tests = (count fs).features := by
  rw [tests_count, comments_count, skipped_count, features_count]
  induction fs with
  | nil => rfl
  | cons f fs ih =>
    cases f with
    | comment c =>
      simp only [List.length_cons, List.countP_cons, Feature.isComment, Feature.isSkipped,
        Feature.runs]
      grind
    | test t =>
      cases skip : t.skip <;>
        simp only [skip, List.length_cons, List.countP_cons, Feature.isComment,
          Feature.isSkipped, Feature.runs] <;>
        grind

end Stats

/-! ## Loaded specifications -/

namespace Specification

variable {σ : Type} {h : Host σ} {spec : Specification}

/-- The specification is what the loader makes of some documents. -/
def Loaded (h : Host σ) (spec : Specification) : Prop :=
  ∃ runtime serial nodes, ofNodes h runtime serial nodes = .ok (some spec)

lemma ofNodes_of_load {runtime : String} {serial : ℕ} {text : String}
    {found : Option Specification} (ok : load h runtime serial text = .ok found) :
    ∃ nodes, Yaml.nodes text = .ok nodes ∧ ofNodes h runtime serial nodes = .ok found := by
  unfold load at ok
  split at ok
  case h_1 nodes documents => exact ⟨nodes, documents, ok⟩
  case h_2 => cases ok

lemma loaded_of_load {runtime : String} {serial : ℕ} {text : String}
    (ok : load h runtime serial text = .ok (some spec)) : spec.Loaded h := by
  obtain ⟨nodes, -, loads⟩ := ofNodes_of_load ok
  exact ⟨runtime, serial, nodes, loads⟩

/-- What loading a specification from documents has gone through. -/
lemma ofNodes_eq_some_iff {runtime : String} {serial : ℕ} {nodes : List Yaml.Node} :
    ofNodes h runtime serial nodes = .ok (some spec) ↔
      ∃ entries others parsed package names scope, nodes = .sequence entries :: others ∧
        parseEntries runtime entries = .ok parsed ∧
        packageName? (inheritSkip false parsed) = .ok (some package) ∧
        listedHooks runtime others = .ok names ∧ hookScope h names (.new serial) = .ok scope ∧
        spec = ⟨package, inheritSkip false parsed, scope, .count (inheritSkip false parsed)⟩ := by
  constructor
  · intro ok
    unfold ofNodes at ok
    split at ok
    · cases ok
    · obtain ⟨parsed, read, ok⟩ := except_bind_eq_ok_iff.mp ok
      obtain ⟨package, named, ok⟩ := except_bind_eq_ok_iff.mp ok
      cases package with
      | none => cases ok
      | some package =>
        obtain ⟨names, listed, ok⟩ := except_bind_eq_ok_iff.mp ok
        obtain ⟨scope, hooked, ok⟩ := except_bind_eq_ok_iff.mp ok
        cases ok
        exact ⟨_, _, parsed, package, names, scope, rfl, read, named, listed, hooked, rfl⟩
    · cases ok
  · rintro ⟨entries, others, parsed, package, names, scope, rfl, read, named, listed, hooked, rfl⟩
    simp only [ofNodes, read, bind, Except.bind, named, listed, hooked]
    rfl

/-- The statistics of a loaded specification are those of its features. -/
lemma stats_of_loaded (loaded : spec.Loaded h) : spec.stats = .count spec.features := by
  obtain ⟨runtime, serial, nodes, ok⟩ := loaded
  obtain ⟨_, _, _, _, _, _, -, -, -, -, -, rfl⟩ := ofNodes_eq_some_iff.mp ok
  rfl

end Specification

end Conformance
