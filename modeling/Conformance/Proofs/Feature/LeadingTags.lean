import Mathlib.Tactic.Common
import Conformance.Feature.Parse
import Conformance.Proofs.Action
import Conformance.Proofs.Text.Pattern

/-!
# Leading tag lists

The left side of a test may start with a tag list in parentheses, which says for which runtimes the
test is meant.  The list is taken off only if what follows it can be read as a body.  There is one
kind of text that cannot: the text that starts with two equals signs.  Behind a tag list it makes
the grammar give the list up, and all of the line, parentheses and tags included, is read as a
property.  The test then has no tags of its own.

## Parts

* `pieces_eq_splitOn` and `splitTags_eq` say what the tags of a list are, and `eq_of_tagList?` where a
  list stands.
* `body?_eq_none_iff` is the text that is no body, and `leftSide?_of_tags` the left side behind a
  tag list.
* `leading_tags_honoured_iff` is the result for tests that have been read.
-/

namespace Conformance

open Text

/-! ## The tags of a list -/

/-- Cutting at a separator is the library's splitting. -/
lemma pieces_eq_splitOn (separator : Char) (text : List Char) :
    pieces separator text = text.splitOn separator := by
  induction text with
  | nil => rfl
  | cons c rest ih =>
    rw [List.splitOn_cons_eq_if_modifyHead, ← ih]
    by_cases same : c = separator <;> simp [pieces, cut, same]

/-- The tags of a list: its pieces between colons, trimmed, without the empty ones. -/
def tagsOf (inside : List Char) : List String :=
  (((inside.splitOn ':').map trim).filter (· ≠ [])).map String.ofList

lemma splitTags_eq (inside : List Char) : splitTags inside = tagsOf inside := by
  rw [splitTags, tagsOf, pieces_eq_splitOn]
  induction inside.splitOn ':' with
  | nil => rfl
  | cons piece rest ih =>
    cases kept : trim piece with
    | nil =>
      have dropped : nonEmpty? piece = none := by rw [nonEmpty?, kept]
      rw [List.filterMap_cons_none dropped, ih, List.map_cons, kept]
      rfl
    | cons c more =>
      have taken : nonEmpty? piece = some (String.ofList (c :: more)) := by rw [nonEmpty?, kept]
      rw [List.filterMap_cons_some taken, ih, List.map_cons, kept]
      rfl

/-! ## What follows a tag list -/

/-- A text is no body exactly if it starts with two equals signs. -/
lemma body?_eq_none_iff (text : List Char) : body? text = none ↔ ['=', '='] <+: text := by
  have dropped : (trimStart text).length = text.length ↔ trimStart text = text := by
    constructor
    · exact (List.dropWhile_suffix isBlank).eq_of_length
    · intro same
      rw [same]
  unfold body?
  dsimp only
  rw [ite_eq_left_iff, Bool.and_eq_true, List.isPrefixOf_iff_prefix, decide_eq_true_iff]
  constructor
  · intro refused
    by_contra no_marks
    refine absurd (refused ?_) (by simp)
    rintro ⟨marks, same_length⟩
    rw [dropped.mp same_length.symm] at marks
    exact no_marks marks
  · rintro ⟨rest, rfl⟩ not_both
    have kept : trimStart (['=', '='] ++ rest) = ['=', '='] ++ rest := rfl
    rw [kept] at not_both
    exact absurd ⟨List.prefix_append _ _, rfl⟩ not_both

lemma tagList?_of_notMem {inside : List Char} (first : ')' ∉ inside) (rest : List Char) :
    tagList? ('(' :: (inside ++ ')' :: rest)) = some (inside, rest) := by
  unfold tagList?
  simp only [dropWhile_ne_append first, takeWhile_ne_append first]

/-- Only a text that begins with a parenthesis has a tag list. -/
lemma head?_of_tagList? {text : List Char} {list : List Char × List Char}
    (found : tagList? text = some list) : text.head? = some '(' := by
  unfold tagList? at found
  split at found
  · rfl
  · cases found

lemma eq_of_tagList? {text inside rest : List Char} (found : tagList? text = some (inside, rest)) :
    text = '(' :: (inside ++ ')' :: rest) ∧ ')' ∉ inside := by
  have opens := head?_of_tagList? found
  cases text with
  | nil => cases opens
  | cons c text =>
    cases opens
    by_cases closes : ')' ∈ text
    · obtain ⟨inside', rest', rfl, first⟩ := List.eq_append_cons_of_mem closes
      rw [tagList?_of_notMem first] at found
      cases found
      exact ⟨rfl, first⟩
    · rw [tagList?, dropWhile_ne_of_notMem closes] at found
      cases found

/-- Behind a tag list a left side has these tags if what follows is a body, and none otherwise. -/
lemma leftSideHere?_of_tags {text inside rest : List Char}
    (list : tagList? text = some (inside, rest)) (body : ¬ ['=', '='] <+: text) :
    ∃ side, leftSideHere? text = some side ∧
      side.tags = if ['=', '='] <+: rest then none else some inside := by
  unfold leftSideHere?
  cases tagged : body? rest with
  | some parts =>
    have no_marks : ¬ ['=', '='] <+: rest := by
      rw [← body?_eq_none_iff, tagged]
      simp
    rw [if_neg no_marks]
    exact ⟨⟨some inside, parts.1, parts.2⟩, by simp [list, tagged], rfl⟩
  | none =>
    rw [if_pos ((body?_eq_none_iff rest).mp tagged)]
    cases untagged : body? text with
    | none => exact absurd ((body?_eq_none_iff text).mp untagged) body
    | some parts => exact ⟨⟨none, parts.1, parts.2⟩, by simp [list, tagged], rfl⟩

/-- A text that begins with a tag list has a left side on its first line. -/
lemma leftSide?_of_tags {inside : List Char} (first : ')' ∉ inside) (rest : List Char) :
    ∃ side, leftSide? ('(' :: (inside ++ ')' :: rest)) = some side ∧
      side.tags = if ['=', '='] <+: rest then none else some inside := by
  have body : ¬ ['=', '='] <+: '(' :: (inside ++ ')' :: rest) := by simp
  obtain ⟨side, here, tags⟩ := leftSideHere?_of_tags (tagList?_of_notMem first rest) body
  refine ⟨side, ?_, tags⟩
  rw [leftSide?, lineStarts, List.findSome?_cons, here]

/-! ## Features that have been read -/

namespace Feature

variable {views : Views} {runtime : String} {f : Feature}

lemma parse_string_eq_ok_iff {text : String} :
    Feature.parse views runtime (.string text) = .ok f ↔
      ∃ c, Comment.parse runtime text = .ok c ∧ f = .comment c := by
  change Feature.comment <$> Comment.parse runtime text = .ok f ↔ _
  cases Comment.parse runtime text with
  | error e => simp [Functor.map, Except.map]
  | ok c => simp [Functor.map, Except.map, eq_comm]

lemma parse_object_eq_ok_iff {left : String} {right : Value} :
    Feature.parse views runtime (.object [(left, right)]) = .ok f ↔
      ∃ t, Test.parse views runtime left right = .ok t ∧ f = .test t := by
  change Feature.test <$> Test.parse views runtime left right = .ok f ↔ _
  cases Test.parse views runtime left right with
  | error e => simp [Functor.map, Except.map]
  | ok t => simp [Functor.map, Except.map, eq_comm]

end Feature

/-- The tags of a comment decide about skipping. -/
lemma Comment.skip_of_parse {runtime text : String} {c : Comment}
    (read : Comment.parse runtime text = .ok c) : c.skip = skipsFor runtime c.tags := by
  unfold Comment.parse at read
  split at read
  · cases read
  · cases read
    rfl

/-- The tags of a test are those of its left side, and they decide about skipping. -/
lemma Test.tags_of_parse {views : Views} {runtime left : String} {right : Value} {t : Test}
    (read : Test.parse views runtime left right = .ok t) :
    ∃ side, leftSide? left.toList = some side ∧ t.tags = side.tags.map splitTags ∧
      t.skip = skipsFor runtime t.tags := by
  unfold Test.parse at read
  cases found : leftSide? left.toList with
  | none =>
    rw [found] at read
    cases read
  | some side =>
    rw [found] at read
    dsimp only at read
    split at read
    · cases read
    · cases read
      exact ⟨side, rfl, rfl, rfl⟩

lemma skipsFor_some_iff {runtime : String} {tags : List String} :
    skipsFor runtime (some tags) = true ↔ runtime ∉ tags := by
  simp [skipsFor]

/-- **Leading tag lists.**  Let the left side of a test that has been read begin with a parenthesis
that is closed later on.  What stands before the first closing one are the tags of the test, and
the test is skipped exactly for the runtimes that are not among them, unless two equals signs follow
directly.  Then the test has no tags and is not skipped for any runtime. -/
theorem leading_tags_honoured_iff (views : Views) (runtime left : String) (right : Value) (t : Test)
    (inside rest : List Char) (begins : left.toList = '(' :: (inside ++ ')' :: rest))
    (first : ')' ∉ inside)
    (parsed : Feature.parse views runtime (.object [(left, right)]) = .ok (.test t)) :
    (t.tags = some (tagsOf inside) ∧ (t.skip = true ↔ runtime ∉ tagsOf inside) ↔
      ¬ ['=', '='] <+: rest) ∧
    (['=', '='] <+: rest → t.tags = none ∧ t.skip = false) := by
  obtain ⟨_, read, same⟩ := Feature.parse_object_eq_ok_iff.mp parsed
  cases same
  obtain ⟨side, found, tags, skip⟩ := Test.tags_of_parse read
  obtain ⟨side', found', side_tags⟩ := leftSide?_of_tags first rest
  rw [begins, found'] at found
  cases found
  rw [side_tags] at tags
  by_cases marks : ['=', '='] <+: rest
  · rw [if_pos marks, Option.map_none] at tags
    rw [tags] at skip
    have honoured_not : ¬ (t.tags = some (tagsOf inside) ∧
        (t.skip = true ↔ runtime ∉ tagsOf inside)) := by
      rintro ⟨honoured, -⟩
      rw [tags] at honoured
      cases honoured
    exact ⟨iff_of_false honoured_not (not_not_intro marks), fun _ => ⟨tags, skip⟩⟩
  · rw [if_neg marks, Option.map_some, splitTags_eq] at tags
    rw [tags] at skip
    have honoured : t.tags = some (tagsOf inside) ∧
        (t.skip = true ↔ runtime ∉ tagsOf inside) := by
      refine ⟨tags, ?_⟩
      rw [skip]
      exact skipsFor_some_iff
    exact ⟨iff_of_true honoured marks, fun marked => absurd marked marks⟩

/-- With a blank behind the list, the tags count even if two equals signs follow. -/
theorem blank_keeps_leading_tags :
    ∃ t, Feature.parse .none "rs" (.object [("(js: :py ) ==x", .int 1)]) = .ok (.test t) ∧
      t.tags = some ["js", "py"] ∧ t.skip = true := by
  have tags : tagsOf "js: :py ".toList = ["js", "py"] := by decide
  have marks : ¬ ['=', '='] <+: " ==x".toList := by decide
  obtain ⟨t, parsed⟩ : ∃ t, Feature.parse .none "rs" (.object [("(js: :py ) ==x", .int 1)]) =
      .ok (.test t) := ⟨_, rfl⟩
  have honoured := (leading_tags_honoured_iff .none "rs" "(js: :py ) ==x" (.int 1) t
    "js: :py ".toList " ==x".toList rfl (by decide) parsed).1.mpr marks
  rw [tags] at honoured
  exact ⟨t, parsed, honoured.1, honoured.2.mpr (by decide)⟩

/-- It is not so that a leading tag list is always honoured. -/
theorem marks_swallow_leading_tags :
    ¬ ∀ (views : Views) (runtime left : String) (right : Value) (t : Test)
      (inside rest : List Char), left.toList = '(' :: (inside ++ ')' :: rest) → ')' ∉ inside →
      Feature.parse views runtime (.object [(left, right)]) = .ok (.test t) →
      t.tags = some (tagsOf inside) ∧ (t.skip = true ↔ runtime ∉ tagsOf inside) := by
  intro always
  obtain ⟨t, parsed, no_tags⟩ : ∃ t, Feature.parse .none "rs" (.object [("(js)==x", .int 1)]) =
      .ok (.test t) ∧ t.tags = none := ⟨_, rfl, rfl⟩
  have honoured := always .none "rs" "(js)==x" (.int 1) t "js".toList "==x".toList rfl (by decide)
    parsed
  rw [no_tags] at honoured
  cases honoured.1

end Conformance
