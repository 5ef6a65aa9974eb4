import Mathlib.Tactic.Common
import Conformance.Proofs.Feature.EntryPatterns

/-!
# Left sides of tests

The left side of a test is cut three times: a tag list is taken off, what is left divides at its first
equals sign, and the property loses a mark at its end.  Each cut has an exception that has to do with
two equals signs in a row.  They are not a target with a property behind it, and they cannot follow a
tag list directly.

A property that is nothing but the mark is present when the parts are checked, and empty when the mark
is stripped.  The check is not made again, so a test may aim at nothing after all.

## Parts

* `TagsTaken` says what is taken off in front, as `Divided` says how the rest divides.
  `TagsTaken.parts_eq` finds the parts that come of it.
* `Test.MadeOf` says what a test takes over from the parts, and `Test.parse_of_aim` that reading does
  so.
* `left_side_grammar` is the result for all texts.
* `Test.Orderly` is what holds of all tests that are read, and `accepted_test_aims_iff` finds those
  that have an empty property.
-/

namespace Conformance

open Text

/-! ## Taking the tags off -/

/-- What is left of a text when its tag list is taken off.  The list is closed by the first closing
parenthesis, and it is not taken off in front of two equals signs. -/
inductive TagsTaken (text : List Char) : Option (List Char) → List Char → Prop
  | tagged {inside body : List Char} (whole : text = '(' :: (inside ++ ')' :: body))
      (first : ')' ∉ inside) (no_marks : ¬ ['=', '='] <+: body) : TagsTaken text (some inside) body
  | untagged (given_up : ∀ inside body, text = '(' :: (inside ++ ')' :: body) → ')' ∉ inside →
      ['=', '='] <+: body) : TagsTaken text none text

lemma exists_tagsTaken (text : List Char) : ∃ tags body, TagsTaken text tags body := by
  by_cases tagged : ∃ inside body, text = '(' :: (inside ++ ')' :: body) ∧ ')' ∉ inside ∧
      ¬ ['=', '='] <+: body
  · obtain ⟨inside, body, whole, first, no_marks⟩ := tagged
    exact ⟨_, _, .tagged whole first no_marks⟩
  · refine ⟨none, text, .untagged ?_⟩
    intro inside body whole first
    by_contra no_marks
    exact tagged ⟨inside, body, whole, first, no_marks⟩

/-! ## The parts of a left side -/

/-- What is read as a property: the line behind a target, or a whole line without leading blanks. -/
def propertyLine (target : Option (List Char)) (behind : List Char) : Option (List Char) :=
  propertyHere (if target.isSome then behind else trimStart behind)

namespace Divided

variable {body behind : List Char} {target : Option (List Char)}

/-- Leading blanks belong to the target if there is one. -/
lemma without_blanks (divided : Divided body target behind) :
    Divided (trimStart body) (target.map trimStart)
      (if target.isSome then behind else trimStart behind) := by
  have mark : isBlank '=' = false := by decide
  cases divided with
  | unmarked absent => exact .unmarked fun there => absent (trimStart_subset body there)
  | @comparison before after whole first =>
    have whole_kept : trimStart body = trimStart before ++ '=' :: '=' :: after := by
      rw [whole, trimStart_append mark]
    exact .comparison whole_kept fun there => first (trimStart_subset before there)
  | @assignment before _ whole first single =>
    have whole_kept : trimStart body = trimStart before ++ '=' :: behind := by
      rw [whole, trimStart_append mark]
    exact .assignment whole_kept (fun there => first (trimStart_subset before there)) single

lemma bodyParts_eq (divided : Divided body target behind) :
    bodyParts (splitBody (trimStart body)) =
      ⟨none, target.bind nonEmpty?, (propertyLine target behind).bind nonEmpty?⟩ := by
  have same_target : (target.map trimStart).bind nonEmpty? = target.bind nonEmpty? := by
    cases target with
    | none => rfl
    | some before => exact nonEmpty?_congr (trim_trimStart before)
  rw [divided.without_blanks.splitBody_eq, bodyParts, LeftSide.parts, propertyLine]
  dsimp only
  rw [same_target]
  rfl

end Divided

namespace TagsTaken

variable {text body behind : List Char} {tags target : Option (List Char)}

lemma subset (taken : TagsTaken text tags body) : body ⊆ text := by
  cases taken with
  | tagged whole _ _ =>
    intro c there
    rw [whole]
    simp [there]
  | untagged _ => exact List.Subset.refl _

/-- Nothing is taken off in front of two equals signs. -/
lemma no_marks (taken : TagsTaken text tags body) (starts : ¬ ['=', '='] <+: text) :
    ¬ ['=', '='] <+: body := by
  cases taken with
  | tagged _ _ no_marks => exact no_marks
  | untagged _ => exact starts

lemma leftSideHere?_eq (taken : TagsTaken text tags body) (starts : ¬ ['=', '='] <+: text) :
    leftSideHere? text = some ⟨tags, (splitBody (trimStart body)).1, (splitBody (trimStart body)).2⟩ := by
  have read := body?_eq body
  rw [if_neg (taken.no_marks starts)] at read
  rw [Conformance.leftSideHere?_eq]
  cases taken with
  | tagged whole first no_marks =>
    rw [whole, tagList?_of_notMem first, Option.bind_some, read]
    rfl
  | untagged given_up =>
    have not_tagged : ((tagList? text).bind fun list => (body? list.2).map fun body =>
        (⟨some list.1, body.1, body.2⟩ : LeftSide)) = none := by
      cases list : tagList? text with
      | none => rfl
      | some list' =>
        obtain ⟨inside, rest⟩ := list'
        obtain ⟨whole, first⟩ := eq_of_tagList? list
        have marks := given_up inside rest whole first
        rw [Option.bind_some, (body?_eq_none_iff rest).mpr marks]
        rfl
    rw [not_tagged, Option.none_or, read]
    rfl

/-- The tags are divided, and the body gives the other two parts. -/
lemma parts_eq (taken : TagsTaken text tags body) (starts : ¬ ['=', '='] <+: text)
    (divided : Divided body target behind) :
    (leftSide? text).map LeftSide.parts =
      some ⟨tags.map tagsOf, target.bind nonEmpty?, (propertyLine target behind).bind nonEmpty?⟩ := by
  have body_parts := divided.bodyParts_eq
  have same_tags : tags.map splitTags = tags.map tagsOf := by
    cases tags with
    | none => rfl
    | some inside => exact congrArg some (splitTags_eq inside)
  rw [leftSide?, lineStarts, List.findSome?_cons, taken.leftSideHere?_eq starts]
  rw [bodyParts, LeftSide.parts, LeftParts.mk.injEq] at body_parts
  obtain ⟨-, same_target, same_property⟩ := body_parts
  dsimp only at same_target same_property
  rw [Option.map_some, LeftSide.parts, same_target, same_property, same_tags]

end TagsTaken

/-! ## Lines -/

/-- The lines of a text are what stands at its line starts. -/
lemma map_restOfLine_lineStarts (text : List Char) :
    (lineStarts text).map restOfLine = text.splitOn '\n' := by
  induction text with
  | nil => rfl
  | cons c rest ih =>
    rw [List.splitOn_cons_eq_if_modifyHead, ← ih]
    by_cases feed : c = '\n'
    · simp [feed, lineStarts, laterLines, restOfLine]
    · simp [feed, lineStarts, laterLines, restOfLine]

lemma marks_restOfLine {text : List Char} :
    ['=', '='] <+: restOfLine text ↔ ['=', '='] <+: text := by
  constructor
  · intro marks
    exact marks.trans (List.takeWhile_prefix _)
  · rintro ⟨rest, rfl⟩
    exact ⟨restOfLine rest, by simp [restOfLine]⟩

lemma leftSideHere?_eq_none_iff {text : List Char} :
    leftSideHere? text = none ↔ ['=', '='] <+: text := by
  constructor
  · intro refused
    by_contra starts
    obtain ⟨tags, body, taken⟩ := exists_tagsTaken text
    simp [taken.leftSideHere?_eq starts] at refused
  · intro marks
    have no_list : tagList? text = none := by
      obtain ⟨rest, rfl⟩ := marks
      rfl
    rw [leftSideHere?_eq, no_list, body?_eq, if_pos marks]
    rfl

/-- There is no left side exactly if every line starts with two equals signs. -/
lemma leftSide?_eq_none_iff {text : List Char} :
    leftSide? text = none ↔ ∀ line ∈ text.splitOn '\n', ['=', '='] <+: line := by
  rw [leftSide?, List.findSome?_eq_none_iff, ← map_restOfLine_lineStarts, List.forall_mem_map]
  simp only [leftSideHere?_eq_none_iff, marks_restOfLine]

/-! ## The mark of a property -/

lemma stripMark_of_marked {name : String} {stem : List Char}
    (ends : name.toList = stem ++ ['=', '=']) :
    stripMark name = (String.ofList (trimEnd stem), true) := by
  have turned : name.toList.reverse = '=' :: '=' :: stem.reverse := by simp [ends]
  unfold stripMark
  rw [turned]
  simp

lemma stripMark_of_unmarked {name : String} (unmarked : ¬ ['=', '='] <:+ name.toList) :
    stripMark name = (name, false) := by
  unfold stripMark
  split
  · rename_i rest turned
    have ends : name.toList = rest.reverse ++ ['=', '='] := by
      rw [← List.reverse_reverse name.toList, turned]
      simp
    exact absurd ⟨rest.reverse, ends.symm⟩ unmarked
  · rfl

/-! ## From the parts to a test -/

namespace LeftParts

/-- There is neither a target nor a property. -/
def Aimless (parts : LeftParts) : Prop :=
  parts.target = none ∧ parts.property = none

/-- The parts that come of a text whose pieces are known. -/
def ofPieces (tags target : Option (List Char)) (behind : List Char) : LeftParts :=
  ⟨tags.map tagsOf, target.bind nonEmpty?, nonEmpty? behind⟩

end LeftParts

namespace Test

/-- What a test makes of the property among its parts.  A mark at the end is stripped, and the
property is then read.  Without one it is called if the right side is a sequence. -/
inductive UsesProperty (t : Test) (right : Value) : Option String → Prop
  | absent (name_eq : t.property = none) (call_eq : t.call = false) : UsesProperty t right none
  | marked {name : String} {stem : List Char} (ends : name.toList = stem ++ ['=', '='])
      (name_eq : t.property = some (String.ofList (trimEnd stem))) (call_eq : t.call = false) :
      UsesProperty t right (some name)
  | unmarked {name : String} (no_mark : ¬ ['=', '='] <:+ name.toList)
      (name_eq : t.property = some name) (call_iff : t.call = true ↔ ∃ items, right = .array items) :
      UsesProperty t right (some name)

namespace UsesProperty

variable {t : Test} {right : Value} {property : Option String}

lemma isSome_eq (uses : t.UsesProperty right property) : t.property.isSome = property.isSome := by
  cases uses with
  | absent name_eq _ => rw [name_eq]
  | marked _ name_eq _ => simp [name_eq]
  | unmarked _ name_eq _ => simp [name_eq]

/-- Only a property can be called. -/
lemma isSome_of_call (uses : t.UsesProperty right property) (call : t.call = true) :
    property.isSome = true := by
  cases uses with
  | absent _ no_call =>
    simp [no_call] at call
  | marked _ _ _ => rfl
  | unmarked _ _ _ => rfl

end UsesProperty

/-- What a test takes over from the parts of its left side. -/
structure MadeOf (runtime : String) (parts : LeftParts) (right : Value) (t : Test) : Prop where
  tags : t.tags = parts.tags
  skip : t.skip = skipsFor runtime parts.tags
  assign : t.assign = parts.target
  property : t.UsesProperty right parts.property
  uncalled : t.call = false → t.args = [] ∧ t.kwargs = [] ∧ t.result = right

variable {views : Views} {runtime left : String} {right : Value} {parts : LeftParts}

lemma parse_of_no_side (refused : leftSide? left.toList = none) :
    Test.parse views runtime left right = .error (.malformedFeature left) := by
  rw [Test.parse, refused]

/-- A test has to have a target or a property. -/
lemma parse_of_aimless (found : (leftSide? left.toList).map LeftSide.parts = some parts)
    (aimless : parts.Aimless) :
    Test.parse views runtime left right = .error (.invalidFeature left) := by
  obtain ⟨side, side_eq, rfl⟩ := Option.map_eq_some_iff.mp found
  have target_eq : side.target.bind nonEmpty? = none := aimless.1
  have property_eq : side.property.bind nonEmpty? = none := aimless.2
  simp [Test.parse, side_eq, target_eq, property_eq]

lemma items?_isSome_iff : right.items?.isSome = true ↔ ∃ items, right = .array items := by
  cases right <;> simp [Value.items?]

lemma parse_of_aim (views : Views) (runtime : String) (right : Value)
    (found : (leftSide? left.toList).map LeftSide.parts = some parts)
    (aims : ¬ parts.Aimless) :
    ∃ t, Test.parse views runtime left right = .ok t ∧ t.MadeOf runtime parts right := by
  obtain ⟨side, side_eq, rfl⟩ := Option.map_eq_some_iff.mp found
  have filled : ((side.target.bind nonEmpty?).isNone && (side.property.bind nonEmpty?).isNone) =
      false := by
    rw [← Bool.not_eq_true, Bool.and_eq_true, Option.isNone_iff_eq_none, Option.isNone_iff_eq_none]
    exact aims
  unfold Test.parse
  rw [side_eq]
  dsimp only
  rw [filled]
  refine ⟨_, rfl, rfl, rfl, rfl, ?_, ?_⟩
  · have property_eq : side.parts.property = side.property.bind nonEmpty? := rfl
    rw [property_eq]
    cases side.property.bind nonEmpty? with
    | none => exact .absent rfl rfl
    | some name =>
      by_cases marked : ['=', '='] <:+ name.toList
      · obtain ⟨stem, ends⟩ := marked
        refine .marked ends.symm ?_ ?_
        · simp [stripMark_of_marked ends.symm]
        · simp [stripMark_of_marked ends.symm]
      · refine .unmarked marked ?_ ?_
        · simp [stripMark_of_unmarked marked]
        · simp [stripMark_of_unmarked marked, items?_isSome_iff]
  · intro uncalled
    dsimp only at uncalled ⊢
    rw [Option.isSome_eq_false_iff, Option.isNone_iff_eq_none] at uncalled
    rw [uncalled]
    exact ⟨rfl, rfl, rfl⟩

/-- A test that has been read is made of the parts of its left side. -/
lemma madeOf_of_parse (found : (leftSide? left.toList).map LeftSide.parts = some parts) {t : Test}
    (ok : Test.parse views runtime left right = .ok t) :
    ¬ parts.Aimless ∧ t.MadeOf runtime parts right := by
  have aims : ¬ parts.Aimless := by
    intro aimless
    simp [parse_of_aimless found aimless] at ok
  obtain ⟨t', read, made⟩ := parse_of_aim views runtime right found aims
  rw [read] at ok
  cases ok
  exact ⟨aims, made⟩

/-- A test that has been read has a left side, and is made of its parts. -/
lemma exists_side_of_parse {t : Test} (read : Test.parse views runtime left right = .ok t) :
    ∃ side, leftSide? left.toList = some side ∧ ¬ side.parts.Aimless ∧
      t.MadeOf runtime side.parts right := by
  cases found : leftSide? left.toList with
  | none =>
    rw [parse_of_no_side found] at read
    cases read
  | some side =>
    have parts_eq : (leftSide? left.toList).map LeftSide.parts = some side.parts := by
      rw [found, Option.map_some]
    obtain ⟨aims, made⟩ := madeOf_of_parse parts_eq read
    exact ⟨side, rfl, aims, made⟩

/-- A test is refused because it has no left side or aims at nothing. -/
lemma error_of_parse {e : Error} (fails : Test.parse views runtime left right = .error e) :
    e = .malformedFeature left ∨ e = .invalidFeature left := by
  cases found : (leftSide? left.toList).map LeftSide.parts with
  | none =>
    rw [parse_of_no_side (Option.map_eq_none_iff.mp found)] at fails
    cases fails
    exact .inl rfl
  | some parts =>
    by_cases aimless : parts.Aimless
    · rw [parse_of_aimless found aimless] at fails
      cases fails
      exact .inr rfl
    · obtain ⟨t, read, -⟩ := parse_of_aim views runtime right found aimless
      rw [read] at fails
      cases fails

/-- A test gives away its tags, its target and whether there was a property. -/
lemma parts_alike {left' : String} {parts' : LeftParts} {t : Test}
    (found : (leftSide? left.toList).map LeftSide.parts = some parts)
    (found' : (leftSide? left'.toList).map LeftSide.parts = some parts')
    (ok : Test.parse views runtime left right = .ok t)
    (ok' : Test.parse views runtime left' right = .ok t) :
    parts'.tags = parts.tags ∧ parts'.target = parts.target ∧
      parts'.property.isSome = parts.property.isSome := by
  obtain ⟨-, made⟩ := madeOf_of_parse found ok
  obtain ⟨-, made'⟩ := madeOf_of_parse found' ok'
  exact ⟨made'.tags.symm.trans made.tags, made'.assign.symm.trans made.assign,
    made'.property.isSome_eq.symm.trans made.property.isSome_eq⟩

/-- Two left sides with the same parts make the same test. -/
lemma parse_congr {left' : String}
    (same : (leftSide? left'.toList).map LeftSide.parts = (leftSide? left.toList).map LeftSide.parts)
    {t : Test} (ok : Test.parse views runtime left right = .ok t) :
    Test.parse views runtime left' right = .ok t := by
  unfold Test.parse at ok ⊢
  cases found : leftSide? left.toList with
  | none =>
    simp [found] at ok
  | some side =>
    rw [found, Option.map_some] at same
    obtain ⟨side', found', parts_eq⟩ := Option.map_eq_some_iff.mp same
    rw [LeftSide.parts, LeftSide.parts, LeftParts.mk.injEq] at parts_eq
    obtain ⟨same_tags, same_target, same_property⟩ := parts_eq
    rw [found] at ok
    rw [found']
    dsimp only at ok ⊢
    rw [same_tags, same_target, same_property]
    split at ok
    · cases ok
    · rw [if_neg ‹_›]
      exact ok

end Test

/-! ## The grammar -/

lemma Feature.parse_single (views : Views) (runtime left : String) (right : Value) :
    Feature.parse views runtime (.object [(left, right)]) =
      Feature.test <$> Test.parse views runtime left right := rfl

/-- A mapping is refused as no feature exactly if it has none or several entries. -/
lemma Feature.exists_notAFeature_iff {views : Views} {runtime : String} {entries : Mapping} :
    (∃ text, Feature.parse views runtime (.object entries) = .error (.notAFeature text)) ↔
      ¬ ∃ left right, entries = [(left, right)] := by
  match entries with
  | [] => exact iff_of_true ⟨_, rfl⟩ (by simp)
  | _ :: _ :: _ => exact iff_of_true ⟨_, rfl⟩ (by simp)
  | [(left, right)] =>
    refine iff_of_false ?_ (not_not.mpr ⟨left, right, rfl⟩)
    rintro ⟨text, refused⟩
    rw [Feature.parse_single] at refused
    cases read : Test.parse views runtime left right with
    | ok t =>
      rw [read] at refused
      cases refused
    | error e =>
      rw [read] at refused
      obtain rfl : e = .notAFeature text := Except.error.inj refused
      rcases Test.error_of_parse read with malformed | invalid
      · cases malformed
      · cases invalid

/-- On a single line, all that is behind the target is the property. -/
lemma propertyLine_bind_nonEmpty? {target : Option (List Char)} {behind : List Char}
    (single_line : '\n' ∉ behind) :
    (propertyLine target behind).bind nonEmpty? = nonEmpty? behind := by
  have whole_line {text : List Char} (single_line : '\n' ∉ text) :
      (propertyHere text).bind nonEmpty? = nonEmpty? text := by
    cases text with
    | nil => rfl
    | cons c rest =>
      have in_line : '\n' ∉ rest := fun there => single_line (List.mem_cons_of_mem c there)
      rw [propertyHere, restOfLine_of_single in_line, Option.bind_some]
  rw [propertyLine]
  split
  · exact whole_line single_line
  · have front : '\n' ∉ trimStart behind := fun there =>
      single_line (trimStart_subset behind there)
    rw [whole_line front]
    exact nonEmpty?_congr (trim_trimStart behind)

/-- On a single line the parts are those of the pieces. -/
lemma TagsTaken.parts_of_single {text body behind : List Char} {tags target : Option (List Char)}
    (taken : TagsTaken text tags body) (divided : Divided body target behind)
    (single_line : '\n' ∉ text) (starts : ¬ ['=', '='] <+: text) :
    (leftSide? text).map LeftSide.parts = some (LeftParts.ofPieces tags target behind) := by
  have in_line : '\n' ∉ behind := fun there => single_line (taken.subset (divided.subset there))
  rw [taken.parts_eq starts divided, propertyLine_bind_nonEmpty? in_line]
  rfl

/-- **Left sides.**  What the reader of left sides finds is what the pattern captures.  An entry
is malformed exactly if every line of its left side starts with two equals signs.  If there is one
line, and it does not start so, then its pieces decide: the text without its tag list divides at its
first equals sign, the pieces are trimmed, and what is empty is absent.  An entry without a target and
without a property is invalid, and any other one is read as a test that is made of these parts. -/
theorem left_side_grammar (views : Views) (runtime left : String) (right : Value) :
    (leftSide? left.toList).map LeftSide.parts =
      (leftPattern.search? left.toList).map (fun c => (LeftSide.ofCaptures c).parts) ∧
    ((∃ detail, Feature.parse views runtime (.object [(left, right)]) = .error (.parse detail)) ↔
      ∀ line ∈ left.toList.splitOn '\n', ['=', '='] <+: line) ∧
    ('\n' ∉ left.toList → ¬ ['=', '='] <+: left.toList →
      (∃ tags body target behind, TagsTaken left.toList tags body ∧ Divided body target behind) ∧
      ∀ tags body target behind, TagsTaken left.toList tags body → Divided body target behind →
        ((LeftParts.ofPieces tags target behind).Aimless →
          Feature.parse views runtime (.object [(left, right)]) = .error (.invalidFeature left)) ∧
        (¬ (LeftParts.ofPieces tags target behind).Aimless →
          ∃ t, Feature.parse views runtime (.object [(left, right)]) = .ok (.test t) ∧
            t.MadeOf runtime (LeftParts.ofPieces tags target behind) right)) := by
  refine ⟨leftSide?_eq_search _, ?_, ?_⟩
  · rw [← leftSide?_eq_none_iff, Feature.parse_single]
    constructor
    · rintro ⟨detail, failed⟩
      by_contra found
      obtain ⟨side, side_eq⟩ := Option.ne_none_iff_exists'.mp found
      have parts_eq : (leftSide? left.toList).map LeftSide.parts = some side.parts := by
        rw [side_eq, Option.map_some]
      by_cases aimless : side.parts.Aimless
      · rw [Test.parse_of_aimless parts_eq aimless] at failed
        cases failed
      · obtain ⟨t, read, -⟩ := Test.parse_of_aim views runtime right parts_eq aimless
        rw [read] at failed
        cases failed
    · intro refused
      rw [Test.parse_of_no_side refused]
      exact ⟨_, rfl⟩
  · intro single_line starts
    constructor
    · obtain ⟨tags, body, taken⟩ := exists_tagsTaken left.toList
      obtain ⟨target, behind, divided⟩ := exists_divided body
      exact ⟨tags, body, target, behind, taken, divided⟩
    · intro tags body target behind taken divided
      have parts_eq := taken.parts_of_single divided single_line starts
      rw [Feature.parse_single]
      constructor
      · intro aimless
        rw [Test.parse_of_aimless parts_eq aimless]
        rfl
      · intro aims
        obtain ⟨t, read, made⟩ := Test.parse_of_aim views runtime right parts_eq aims
        rw [read]
        exact ⟨t, rfl, made⟩

/-- The target ends at the first equals sign, and the mark makes a sequence the expected result. -/
theorem listed_target_and_marked_property :
    ∃ t, Feature.parse .none "rs" (.object [("(js: :py)x = = y ==", .array [.int 1])]) =
        .ok (.test t) ∧
      t.tags = some ["js", "py"] ∧ t.skip = true ∧ t.assign = some "x" ∧ t.property = some "= y" ∧
      t.call = false ∧ t.args = [] := by
  have grammar := left_side_grammar .none "rs" "(js: :py)x = = y ==" (.array [.int 1])
  have taken : TagsTaken "(js: :py)x = = y ==".toList (some "js: :py".toList) "x = = y ==".toList :=
    .tagged rfl (by decide) (by decide)
  have divided : Divided "x = = y ==".toList (some "x ".toList) " = y ==".toList :=
    .assignment rfl (by decide) (by decide)
  have parts : LeftParts.ofPieces (some "js: :py".toList) (some "x ".toList) " = y ==".toList =
      ⟨some ["js", "py"], some "x", some "= y =="⟩ := by decide
  obtain ⟨-, read⟩ := grammar.2.2 (by decide) (by decide)
  have aims : ¬ (LeftParts.ofPieces (some "js: :py".toList) (some "x ".toList)
      " = y ==".toList).Aimless := by
    rw [parts]
    rintro ⟨no_target, -⟩
    cases no_target
  obtain ⟨t, parsed, made⟩ := (read _ _ _ _ taken divided).2 aims
  rw [parts] at made
  have property := made.property
  cases property with
  | @marked _ stem ends name_eq call_eq =>
    have stem_eq : stem = "= y ".toList := List.append_cancel_right (ends.symm.trans rfl)
    subst stem_eq
    have skip : t.skip = true := made.skip.trans (by decide)
    exact ⟨t, parsed, made.tags, skip, made.assign, name_eq, call_eq, (made.uncalled call_eq).1⟩
  | unmarked no_mark _ _ => exact absurd ⟨"= y ".toList, rfl⟩ no_mark

/-! ## What a test aims at -/

namespace Test

/-- What holds of every test that has been read. -/
structure Orderly (t : Test) : Prop where
  aims : t.assign.isSome = true ∨ t.property.isSome = true
  assign : ∀ target, t.assign = some target → target ≠ "" ∧ Trimmed target.toList
  property : ∀ name, t.property = some name → Trimmed name.toList
  called : t.call = true → t.property.isSome = true
  uncalled : t.call = false → t.args = [] ∧ t.kwargs = []

end Test

/-- Nothing but the mark stands in the place of the property. -/
def BareMark (text : List Char) : Prop :=
  ∃ captures property, leftPattern.search? text = some captures ∧
    captures.lookup EntryPart.property = some property ∧ trim property = ['=', '=']

/-- What is present among the parts of a left side is trimmed and not empty. -/
lemma trimmed_of_bind_nonEmpty? {piece : Option (List Char)} {s : String}
    (present : piece.bind nonEmpty? = some s) : Trimmed s.toList ∧ s ≠ "" := by
  obtain ⟨text, -, kept⟩ := Option.bind_eq_some_iff.mp present
  exact trimmed_of_nonEmpty? kept

/-- A bare mark is a property that reads `==`. -/
lemma bareMark_iff {text : List Char} {parts : LeftParts}
    (found : (leftSide? text).map LeftSide.parts = some parts) :
    BareMark text ↔ parts.property = some "==" := by
  rw [leftSide?_eq_search, Option.map_eq_some_iff] at found
  obtain ⟨captures, search, rfl⟩ := found
  have property_eq : (LeftSide.ofCaptures captures).parts.property =
      (captures.lookup EntryPart.property).bind nonEmpty? := rfl
  rw [property_eq, Option.bind_eq_some_iff]
  constructor
  · rintro ⟨captures', property, search', captured, mark⟩
    rw [search] at search'
    cases search'
    exact ⟨property, captured, nonEmpty?_eq_some_iff.mpr ⟨mark.symm, by decide⟩⟩
  · rintro ⟨property, captured, mark⟩
    exact ⟨captures, property, search, captured, (nonEmpty?_eq_some_iff.mp mark).1.symm⟩

namespace Test

variable {runtime : String} {side : LeftSide} {right : Value} {t : Test}

/-- The property of a test is trimmed, and it is empty if it was nothing but the mark. -/
lemma UsesProperty.trimmed {name : String} (uses : t.UsesProperty right side.parts.property)
    (reads : t.property = some name) :
    Trimmed name.toList ∧ (name = "" ↔ side.parts.property = some "==") := by
  generalize property_eq : side.parts.property = property at uses
  cases uses with
  | absent name_eq _ =>
    simp [name_eq] at reads
  | @marked whole stem ends name_eq _ =>
    obtain ⟨whole_trimmed, -⟩ := trimmed_of_bind_nonEmpty? property_eq
    rw [name_eq, Option.some.injEq] at reads
    subst reads
    rw [String.toList_ofList, Option.some.injEq]
    have start : ∀ c, stem.head? = some c → isBlank c = false := by
      intro c first
      refine whole_trimmed.start c ?_
      rw [ends, List.head?_append, first]
      rfl
    refine ⟨trimmed_trimEnd start, ?_⟩
    constructor
    · intro nothing_left
      have blank : trimEnd stem = [] := by
        rw [← String.toList_ofList (l := trimEnd stem), nothing_left]
        rfl
      cases stem with
      | nil => exact String.toList_inj.mp ends
      | cons c rest =>
        have not_blank := start c rfl
        simp [trimEnd_eq_nil_iff.mp blank c List.mem_cons_self] at not_blank
    · rintro rfl
      have no_stem : stem = [] := List.append_cancel_right (ends.symm.trans rfl)
      rw [no_stem]
      rfl
  | unmarked no_mark name_eq _ =>
    obtain ⟨name_trimmed, filled⟩ := trimmed_of_bind_nonEmpty? property_eq
    rw [name_eq, Option.some.injEq] at reads
    subst reads
    refine ⟨name_trimmed, iff_of_false filled ?_⟩
    rw [Option.some.injEq]
    rintro rfl
    exact no_mark (List.suffix_refl _)

lemma MadeOf.orderly (made : t.MadeOf runtime side.parts right) (aims : ¬ side.parts.Aimless) :
    t.Orderly where
  aims := by
    rw [made.assign, made.property.isSome_eq]
    by_contra neither
    rw [not_or, Bool.not_eq_true, Bool.not_eq_true, Option.isSome_eq_false_iff,
      Option.isSome_eq_false_iff, Option.isNone_iff_eq_none, Option.isNone_iff_eq_none] at neither
    exact aims neither
  assign target reads := by
    rw [made.assign] at reads
    exact (trimmed_of_bind_nonEmpty? reads).symm
  property name reads := (made.property.trimmed reads).1
  called call := by
    rw [made.property.isSome_eq]
    exact made.property.isSome_of_call call
  uncalled no_call := ⟨(made.uncalled no_call).1, (made.uncalled no_call).2.1⟩

lemma orderly_of_parse {views : Views} {left : String}
    (read : Test.parse views runtime left right = .ok t) : t.Orderly := by
  obtain ⟨side, -, aims, made⟩ := exists_side_of_parse read
  exact made.orderly aims

end Test

/-- **What tests aim at.**  An entry with a single key is read as a test or is an error.  A test has a
target or a property, both are trimmed, its target is not empty, it calls nothing but a property, and
it has no arguments unless it calls one.  Its property is empty exactly if nothing but the mark stood
in its place. -/
theorem accepted_test_aims_iff (views : Views) (runtime left : String) (right : Value) :
    Feature.parse views runtime (.object [(left, right)]) = .error (.malformedFeature left) ∨
    Feature.parse views runtime (.object [(left, right)]) = .error (.invalidFeature left) ∨
    ∃ t, Feature.parse views runtime (.object [(left, right)]) = .ok (.test t) ∧ t.Orderly ∧
      (t.property = some "" ↔ BareMark left.toList) := by
  rw [Feature.parse_single]
  cases found : leftSide? left.toList with
  | none =>
    rw [Test.parse_of_no_side found]
    exact .inl rfl
  | some side =>
    have parts_eq : (leftSide? left.toList).map LeftSide.parts = some side.parts := by
      rw [found, Option.map_some]
    by_cases aimless : side.parts.Aimless
    · rw [Test.parse_of_aimless parts_eq aimless]
      exact .inr (.inl rfl)
    · obtain ⟨t, read, made⟩ := Test.parse_of_aim views runtime right parts_eq aimless
      rw [read]
      refine .inr (.inr ⟨t, rfl, made.orderly aimless, ?_⟩)
      rw [bareMark_iff parts_eq]
      constructor
      · intro empty
        exact (made.property.trimmed empty).2.mp rfl
      · intro mark
        have present : t.property.isSome = true := by
          rw [made.property.isSome_eq, mark]
          rfl
        obtain ⟨name, reads⟩ := Option.isSome_iff_exists.mp present
        rw [reads, (made.property.trimmed reads).2.mpr mark]

/-- It is not so that what is present is never empty. -/
theorem bare_mark_aims_at_nothing :
    ¬ ∀ (views : Views) (runtime left : String) (right : Value) (f : Feature),
      Feature.parse views runtime (.object [(left, right)]) = .ok f →
      ∃ t, f = .test t ∧ t.Orderly ∧ ∀ name, t.property = some name → name ≠ "" := by
  intro always
  obtain ⟨t, parsed, empty⟩ : ∃ t, Feature.parse .none "rs" (.object [(" ==", .int 1)]) =
      .ok (.test t) ∧ t.property = some "" := ⟨_, rfl, by decide⟩
  obtain ⟨t', same, -, filled⟩ := always .none "rs" " ==" (.int 1) (.test t) parsed
  cases same
  exact filled "" empty rfl

end Conformance
