import Mathlib.Data.List.Forall2
import Conformance.CommandLine.Program
import Conformance.Proofs.Feature.LeadingTags
import Conformance.Proofs.Specification.Statistics

/-!
# Which features are skipped

Whether a test is skipped is settled in two steps.  Reading the entry looks at the tag list of the
test, and finds no reason to skip it if there is none.  Loading then goes through the features once
more and overrides the tests without a tag list with the skip state of the comment before them.

## Parts

* `MeantForOthers` says that a tag list leaves a runtime out, and `nearestComment?` finds the
  comment before a test.
* `parseEntries_eq_ok_iff` says that entries are read one by one, and `skip_of_parse` what reading
  makes of a tag list.
* `skip_of_inheritSkip` says what a test inherits.
* `load_settles_skips` is the result for loaded specifications.
-/

namespace Conformance

open Yaml (Node)

/-! ## Tag lists and comments -/

/-- There is a tag list, and it does not name the runtime. -/
def MeantForOthers (runtime : String) (tags : Option (List String)) : Prop :=
  ∃ list, tags = some list ∧ runtime ∉ list

lemma skipsFor_iff {runtime : String} {tags : Option (List String)} :
    skipsFor runtime tags = true ↔ MeantForOthers runtime tags := by
  cases tags with
  | none => simp [skipsFor, MeantForOthers]
  | some list => simp [skipsFor_some_iff, MeantForOthers]

namespace Feature

def tags : Feature → Option (List String)
  | comment c => c.tags
  | test t => t.tags

def comment? : Feature → Option Comment
  | comment c => some c
  | test _ => none

end Feature

/-- The comment that a test behind these features has nearest before it. -/
def nearestComment? (before : List Feature) : Option Comment :=
  (before.filterMap Feature.comment?).getLast?

lemma nearestComment?_comment (c : Comment) (fs : List Feature) :
    nearestComment? (.comment c :: fs) = some ((nearestComment? fs).getD c) := by
  simp [nearestComment?, Feature.comment?, List.getLast?_cons]

lemma nearestComment?_test (t : Test) (fs : List Feature) :
    nearestComment? (.test t :: fs) = nearestComment? fs := rfl

lemma mem_of_nearestComment? {fs : List Feature} {c : Comment}
    (nearest : nearestComment? fs = some c) : .comment c ∈ fs := by
  obtain ⟨f, there, is_comment⟩ := List.mem_filterMap.mp (List.mem_of_getLast? nearest)
  cases f with
  | comment c' =>
    cases is_comment
    exact there
  | test t => cases is_comment

/-! ## Reading entries -/

/-- Entries are read one by one, in order. -/
lemma parseEntries_eq_ok_iff {runtime : String} {entries : List Node} {features : List Feature} :
    parseEntries runtime entries = .ok features ↔
      List.Forall₂ (fun entry f => Feature.parse .none runtime (.ofNode entry) = .ok f)
        entries features :=
  except_mapM_eq_ok_iff

/-- Reading an entry goes by its own tag list only. -/
lemma skip_of_parse {views : Views} {runtime : String} {v : Value} {f : Feature}
    (parsed : Feature.parse views runtime v = .ok f) : f.skip = skipsFor runtime f.tags := by
  have read := parsed
  unfold Feature.parse at read
  split at read
  · obtain ⟨c, comment, rfl⟩ := Feature.parse_string_eq_ok_iff.mp parsed
    exact Comment.skip_of_parse comment
  · obtain ⟨t, test, rfl⟩ := Feature.parse_object_eq_ok_iff.mp parsed
    obtain ⟨_, -, -, skip⟩ := Test.tags_of_parse test
    exact skip
  · cases read

/-! ## What a test inherits -/

/-- The feature is what an entry reads as, except that a test without a tag list may have another
skip state. -/
inductive ReadFrom (runtime : String) (entry : Node) : Feature → Prop
  | as_it_is {f : Feature} (parsed : Feature.parse .none runtime (.ofNode entry) = .ok f) :
      ReadFrom runtime entry f
  | with_skip {t : Test} (parsed : Feature.parse .none runtime (.ofNode entry) = .ok (.test t))
      (untagged : t.tags = none) (skip : Bool) :
      ReadFrom runtime entry (.test { t with skip := skip })

lemma readFrom_of_inheritSkip {runtime : String} {entries : List Node} {parsed : List Feature}
    (each : List.Forall₂ (fun entry f => Feature.parse .none runtime (.ofNode entry) = .ok f)
      entries parsed) (ambient : Bool) :
    List.Forall₂ (ReadFrom runtime) entries (inheritSkip ambient parsed) := by
  induction each generalizing ambient with
  | nil => exact .nil
  | @cons entry f entries parsed first _ ih =>
    cases f with
    | comment c => exact .cons (.as_it_is first) (ih c.skip)
    | test t =>
      refine .cons ?_ (ih ambient)
      by_cases untagged : t.tags.isNone = true
      · rw [if_pos untagged]
        exact .with_skip first (Option.isNone_iff_eq_none.mp untagged) ambient
      · rw [if_neg untagged]
        exact .as_it_is first

/-- A test without a tag list has the skip state of the nearest comment before it, or the one that
was handed in if there is no comment. -/
lemma skip_of_inheritSkip {ambient : Bool} {parsed before after : List Feature} {t : Test}
    (split : inheritSkip ambient parsed = before ++ .test t :: after) (untagged : t.tags = none) :
    t.skip = ((nearestComment? before).map Comment.skip).getD ambient := by
  induction parsed generalizing ambient before with
  | nil => cases before <;> cases split
  | cons f parsed ih =>
    cases f with
    | comment c =>
      rw [inheritSkip] at split
      cases before with
      | nil => cases split
      | cons first before =>
        obtain ⟨rfl, rest⟩ := List.cons.inj split
        rw [ih rest, nearestComment?_comment]
        cases nearestComment? before <;> rfl
    | test t' =>
      rw [inheritSkip] at split
      cases before with
      | nil =>
        obtain ⟨same, -⟩ := List.cons.inj split
        by_cases own : t'.tags.isNone = true
        · rw [if_pos own] at same
          cases same
          rfl
        · rw [if_neg own] at same
          cases same
          exact absurd (Option.isNone_iff_eq_none.mpr untagged) own
      | cons first before =>
        obtain ⟨rfl, rest⟩ := List.cons.inj split
        rw [ih rest, nearestComment?_test]

/-- In a list that starts with a comment, every test has one before it. -/
lemma exists_nearestComment? {c : Comment} {rest before after : List Feature} {t : Test}
    (split : Feature.comment c :: rest = before ++ .test t :: after) :
    ∃ nearest, nearestComment? before = some nearest := by
  cases before with
  | nil => cases split
  | cons first before =>
    obtain ⟨rfl, -⟩ := List.cons.inj split
    exact ⟨_, nearestComment?_comment c before⟩

namespace ReadFrom

variable {runtime : String} {entry : Node}

/-- A comment has its own skip state. -/
lemma skip_comment {c : Comment} (read : ReadFrom runtime entry (.comment c)) :
    c.skip = true ↔ MeantForOthers runtime c.tags := by
  cases read with
  | as_it_is parsed =>
    have own : c.skip = skipsFor runtime c.tags := skip_of_parse parsed
    rw [own, skipsFor_iff]

/-- So has a test with a tag list. -/
lemma skip_test {t : Test} (read : ReadFrom runtime entry (.test t)) {list : List String}
    (tagged : t.tags = some list) : t.skip = true ↔ runtime ∉ list := by
  cases read with
  | as_it_is parsed =>
    have own : t.skip = skipsFor runtime t.tags := skip_of_parse parsed
    rw [own, tagged, skipsFor_some_iff]
  | with_skip parsed untagged skip =>
    rw [untagged] at tagged
    cases tagged

/-- Every feature that was read comes from an entry. -/
lemma of_mem {entries : List Node} {features : List Feature} {f : Feature}
    (each : List.Forall₂ (ReadFrom runtime) entries features) (there : f ∈ features) :
    ∃ entry, ReadFrom runtime entry f := by
  induction each with
  | nil => cases there
  | cons read _ ih =>
    rcases List.mem_cons.mp there with rfl | later
    · exact ⟨_, read⟩
    · exact ih later

end ReadFrom

/-! ## Loaded specifications -/

/-- What names a package is a comment in front that is not skipped. -/
lemma starts_of_packageName? {features : List Feature} {package : String}
    (named : packageName? features = .ok (some package)) :
    ∃ c rest, features = .comment c :: rest ∧ c.skip = false ∧ c.text = package := by
  unfold packageName? at named
  split at named
  · rename_i c rest
    cases skip : c.skip with
    | true =>
      rw [skip] at named
      cases named
    | false =>
      rw [skip] at named
      cases named
      exact ⟨c, rest, rfl, skip, rfl⟩
  · cases named

/-- What decides about a test behind a leading comment: its own tag list, or else that of the nearest
comment before it. -/
lemma settled_of_inheritSkip {runtime : String} {entries : List Node} {parsed : List Feature}
    (each : List.Forall₂ (fun entry f => Feature.parse .none runtime (.ofNode entry) = .ok f)
      entries parsed) {ambient : Bool} {first : Comment} {rest before after : List Feature} {t : Test}
    (starts : inheritSkip ambient parsed = .comment first :: rest)
    (split : inheritSkip ambient parsed = before ++ .test t :: after) :
    (∀ list, t.tags = some list → (t.skip = true ↔ runtime ∉ list)) ∧
      (t.tags = none → ∃ c, nearestComment? before = some c ∧
        (t.skip = true ↔ MeantForOthers runtime c.tags)) := by
  have from_entries := readFrom_of_inheritSkip each ambient
  rw [split] at from_entries
  constructor
  · intro list tagged
    obtain ⟨entry, read⟩ := ReadFrom.of_mem from_entries List.mem_append_cons_self
    exact read.skip_test tagged
  · intro untagged
    obtain ⟨c, nearest⟩ := exists_nearestComment? (starts.symm.trans split)
    obtain ⟨entry, read⟩ := ReadFrom.of_mem from_entries
      (List.mem_append_left _ (mem_of_nearestComment? nearest))
    have inherited := skip_of_inheritSkip split untagged
    rw [nearest, Option.map_some, Option.getD_some] at inherited
    rw [inherited]
    exact ⟨c, nearest, read.skip_comment⟩

/-- **Loading settles which features are skipped.**  Let a stream load to a specification.  Its
features are the entries of the first document, read one by one.  A test with a tag list is skipped
exactly if the list does not name the runtime, and a test without one exactly if the nearest comment
before it has a list that does not.  The first feature is a comment that is not skipped and names
the package.  The statistics count the features, the comments and the tests, and those tests that
are skipped in the end. -/
theorem load_settles_skips {σ : Type} (h : Host σ) (runtime : String) (serial : ℕ) (text : String)
    (spec : Specification) (loaded : Specification.load h runtime serial text = .ok (some spec)) :
    (∃ entries others, Yaml.nodes text = .ok (.sequence entries :: others) ∧
      List.Forall₂ (ReadFrom runtime) entries spec.features) ∧
    (∀ before t after, spec.features = before ++ .test t :: after →
      (∀ list, t.tags = some list → (t.skip = true ↔ runtime ∉ list)) ∧
      (t.tags = none → ∃ c, nearestComment? before = some c ∧
        (t.skip = true ↔ MeantForOthers runtime c.tags))) ∧
    (∃ c rest, spec.features = .comment c :: rest ∧ c.skip = false ∧ c.text = spec.package) ∧
    spec.stats.features = spec.features.length ∧
    spec.stats.comments = spec.features.countP Feature.isComment ∧
    spec.stats.comments + spec.stats.tests = spec.stats.features ∧
    spec.stats.skipped = spec.features.countP Feature.isSkipped := by
  unfold Specification.load at loaded
  split at loaded
  · rename_i nodes read
    obtain ⟨entries, others, parsed, package, names, scope, rfl, each, named, -, -, rfl⟩ :=
      Specification.ofNodes_eq_some_iff.mp loaded
    have read_each := parseEntries_eq_ok_iff.mp each
    obtain ⟨first, rest, starts, goes, text_eq⟩ := starts_of_packageName? named
    exact ⟨⟨entries, others, read, readFrom_of_inheritSkip read_each false⟩,
      fun before t after split => settled_of_inheritSkip read_each starts split,
      ⟨first, rest, starts, goes, text_eq⟩, Stats.features_count _, Stats.comments_count _,
      Stats.comments_add_tests _, Stats.skipped_count _⟩
  · cases loaded

/-- What can be read off the answer of an action comes from an answer. -/
lemma exists_of_answered {ε α β : Type} {x : Except ε (Option α)} {view : α → β} {b : β}
    (seen : x.toOption.join.map view = some b) : ∃ a, x = .ok (some a) ∧ view a = b := by
  cases x with
  | error e => cases seen
  | ok found =>
    cases found with
    | none => cases seen
    | some a => exact ⟨a, rfl, Option.some.inj seen⟩

/-- A comment for other runtimes, with a test under it that has a tag list of its own. -/
def reachingText : String :=
  "- Package\n- (js) Words\n- foo: []\n- (rs)bar: []\n- baz: 1\n" ++
    "- Everyone\n- (js:py) qux: []\n"

/-- A comment decides about the tests up to the next comment. -/
theorem comment_reaches_to_next :
    ∃ spec, Specification.load emptyHost "rs" 0 reachingText = .ok (some spec) ∧
      spec.features.map Feature.skip = [false, true, true, false, true, false, true] ∧
      (∀ before t after, spec.features = before ++ .test t :: after → t.tags = none →
        ∃ c, nearestComment? before = some c ∧
          (t.skip = true ↔ MeantForOthers "rs" c.tags)) ∧
      spec.stats.comments + spec.stats.tests = 7 ∧ spec.stats.skipped = 3 := by
  obtain ⟨spec, loaded, seen⟩ : ∃ spec,
      Specification.load emptyHost "rs" 0 reachingText = .ok (some spec) ∧
      (spec.features.map Feature.skip, spec.features.countP Feature.isSkipped,
        spec.features.length) = ([false, true, true, false, true, false, true], 3, 7) :=
    exists_of_answered (by decide +kernel)
  obtain ⟨-, settled, -, features, -, sum, skipped⟩ :=
    load_settles_skips emptyHost "rs" 0 reachingText spec loaded
  simp only [Prod.mk.injEq] at seen
  obtain ⟨flags, count, length⟩ := seen
  exact ⟨spec, loaded, flags, fun before t after split => (settled before t after split).2,
    by rw [sum, features, length], by rw [skipped, count]⟩

end Conformance
