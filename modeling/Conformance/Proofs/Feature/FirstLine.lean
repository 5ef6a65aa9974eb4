import Conformance.Proofs.Feature.Comments
import Conformance.Proofs.Feature.LeftSides

/-!
# Entries with several lines

An entry with several lines is meant to be read off its first line.  For comments this holds: the
blanks in front of the words may go over several lines, but a comment that has words on its first line
takes nothing from the others.

The left side of a test may take more.  Three of its pieces are closed by a character, which is looked
for on all lines: a tag list by a parenthesis, and a target by an equals sign.  If the first line ends
before the character does, what stands on the next lines up to there becomes part of the piece.  And
if the first line ends in the equals sign itself, the property is taken from the second line.

## Parts

* `ClosesList`, `ClosesTarget` and `FillsProperty` are the three ways to go on, and `ReachesOn` is
  any of them.
* `Comment.parse_append` is the result for comments.
* `TagsTaken.append`, `Divided.append` and `propertyLine_append` follow the pieces of a left side over
  the end of the line, and `Test.parse_append_iff` is the result for tests.
* `first_line_decides_iff` puts both kinds of entries together.
-/

namespace Conformance

open Text

/-! ## The end of a line -/

section LineEnd

variable {line : List Char}

lemma toList_append_line (first more : String) :
    (first ++ "\n" ++ more).toList = first.toList ++ '\n' :: more.toList := by
  simp

lemma restOfLine_append (single_line : '\n' ∉ line) (more : List Char) :
    restOfLine (line ++ '\n' :: more) = line :=
  takeWhile_ne_append single_line more

lemma laterLines_of_single (single_line : '\n' ∉ line) : laterLines line = [] := by
  induction line with
  | nil => rfl
  | cons c rest ih =>
    rw [List.mem_cons, not_or] at single_line
    rw [laterLines, if_neg (Ne.symm single_line.1), ih single_line.2]

/-- What is behind the leading blanks stays there. -/
lemma trimStart_append_of_cons {c : Char} {rest : List Char} (starts : trimStart line = c :: rest)
    (more : List Char) : trimStart (line ++ more) = c :: rest ++ more := by
  have not_blank : isBlank c = false := start_trimStart line c (by rw [starts]; rfl)
  obtain ⟨blanks, whole, blank⟩ := exists_blanks_append line
  rw [whole, starts, List.append_assoc, List.cons_append, trimStart_of_blanks blank not_blank]

lemma marks_append_iff (more : List Char) :
    ['=', '='] <+: line ++ '\n' :: more ↔ ['=', '='] <+: line := by
  constructor
  · intro marks
    cases line with
    | nil => simp at marks
    | cons c line =>
      cases line with
      | nil => simp at marks
      | cons c' line => simpa using marks
  · intro marks
    exact marks.trans (List.prefix_append _ _)

end LineEnd

/-! ## Comments -/

/-- Words on the first line are the same with more lines behind them. -/
lemma wordsHere?_append {body words : List Char} (single_line : '\n' ∉ body)
    (found : wordsHere? body = some words) (more : List Char) :
    wordsHere? (body ++ '\n' :: more) = some words := by
  rw [wordsHere?_eq_some_iff] at found ⊢
  obtain ⟨blanks, c, rest, rfl, blank, word, rfl⟩ := found
  have in_line : '\n' ∉ c :: rest := fun there => single_line (List.mem_append_right blanks there)
  refine ⟨blanks, c, rest ++ '\n' :: more, ?_, blank, word, ?_⟩
  · simp
  · rw [restOfLine_of_single in_line, ← List.cons_append, restOfLine_append in_line]

/-- So is a comment. -/
lemma commentHere?_append {text : List Char} {parts : Option (List Char) × List Char}
    (single_line : '\n' ∉ text) (found : commentHere? text = some parts) (more : List Char) :
    commentHere? (text ++ '\n' :: more) = some parts := by
  rw [commentHere?_eq_some_iff] at found ⊢
  obtain ⟨no_tags, words⟩ | ⟨inside, body, rfl, first, tags, words⟩ := found
  · exact .inl ⟨no_tags, wordsHere?_append single_line words more⟩
  · have in_line : '\n' ∉ body := fun there => single_line (by simp [there])
    refine .inr ⟨inside, body ++ '\n' :: more, ?_, first, tags, wordsHere?_append in_line words more⟩
    simp

lemma Comment.parse_append {runtime first : String} {c : Comment} (single_line : '\n' ∉ first.toList)
    (read : Comment.parse runtime first = .ok c) (more : String) :
    Comment.parse runtime (first ++ "\n" ++ more) = .ok c := by
  rw [Comment.parse_eq_ok_iff] at read ⊢
  obtain ⟨tags, words, found, rfl⟩ := read
  refine ⟨tags, words, ?_, rfl⟩
  have here : commentHere? first.toList = some (tags, words) := by
    rw [commentLine?, lineStarts, laterLines_of_single single_line, List.findSome?_singleton] at found
    exact found
  rw [toList_append_line, commentLine?, lineStarts, List.findSome?_cons,
    commentHere?_append single_line here]

/-! ## The pieces of a left side -/

/-- The first line opens a tag list that is closed on a later one. -/
def ClosesList (first more : List Char) : Prop :=
  ∃ opened inside rest, first = '(' :: opened ∧ ')' ∉ opened ∧ more = inside ++ ')' :: rest ∧
    ')' ∉ inside ∧ ¬ ['=', '='] <+: rest

/-- The body has no equals sign on the first line, and the first one after it closes a target. -/
def ClosesTarget (body more : List Char) : Prop :=
  '=' ∉ body ∧ ∃ before after, more = before ++ '=' :: after ∧ '=' ∉ before ∧
    after.head? ≠ some '='

/-- The body ends in the equals sign behind its target, and the next line is not blank. -/
def FillsProperty (body more : List Char) : Prop :=
  (∃ before, body = before ++ ['='] ∧ '=' ∉ before) ∧ nonEmpty? (restOfLine more) ≠ none

/-- The left side on the first line takes something from the lines behind it. -/
def ReachesOn (first more : List Char) : Prop :=
  ClosesList first more ∨
    ∃ tags body, TagsTaken first tags body ∧ (ClosesTarget body more ∨ FillsProperty body more)

/-- A tag list that is taken off on one line, or not at all, stays as it is. -/
lemma TagsTaken.append {first body : List Char} {tags : Option (List Char)} {more : List Char}
    (taken : TagsTaken first tags body) (not_closed : ¬ ClosesList first more) :
    TagsTaken (first ++ '\n' :: more) tags (body ++ '\n' :: more) := by
  cases taken with
  | tagged whole closes no_marks =>
    refine .tagged ?_ closes (by rwa [marks_append_iff])
    rw [whole]
    simp
  | untagged given_up =>
    refine .untagged ?_
    intro inside rest whole closes
    have list := tagList?_of_notMem closes rest
    rw [← whole] at list
    cases first with
    | nil => cases whole
    | cons c opened =>
      rw [List.cons_append, List.cons.injEq] at whole
      obtain ⟨rfl, whole⟩ := whole
      -- A list that is closed on the first line was given up there because of what follows it, and
      -- that is still there.  One that is closed later is excluded unless two equals signs follow.
      by_cases on_line : ')' ∈ opened
      · obtain ⟨inside', rest', rfl, closes'⟩ := List.eq_append_cons_of_mem on_line
        have marks := given_up inside' rest' rfl closes'
        rw [List.cons_append, List.append_assoc, List.cons_append, tagList?_of_notMem closes'] at list
        cases list
        exact (marks_append_iff more).mpr marks
      · have later : ')' ∈ more := by
          have closing : ')' ∈ opened ++ '\n' :: more := by
            rw [whole]
            simp
          simpa [on_line] using closing
        obtain ⟨inside', rest', rfl, closes'⟩ := List.eq_append_cons_of_mem later
        have open_ended : ')' ∉ opened ++ '\n' :: inside' := by
          simp [on_line, closes']
        have list' := tagList?_of_notMem open_ended rest'
        rw [List.append_assoc] at list'
        cases list'.symm.trans list
        by_contra no_marks
        exact not_closed ⟨opened, inside', rest, rfl, on_line, rfl, closes', no_marks⟩

/-- A list that is closed on a later line is taken off. -/
lemma tagsTaken_of_closesList {first more : List Char} (closes : ClosesList first more) :
    (∃ inside rest, TagsTaken (first ++ '\n' :: more) (some inside) rest) ∧
      ∀ tags body, TagsTaken first tags body → tags = none := by
  obtain ⟨opened, inside, rest, rfl, on_line, rfl, closing, no_marks⟩ := closes
  constructor
  · refine ⟨opened ++ '\n' :: inside, rest, .tagged ?_ ?_ no_marks⟩
    · simp
    · simp [on_line, closing]
  · intro tags body taken
    cases taken with
    | tagged whole _ _ =>
      rw [List.cons.injEq] at whole
      rw [whole.2] at on_line
      simp at on_line
    | untagged _ => rfl

/-- A body divides on its first line, or it has no target there. -/
lemma Divided.append {body behind : List Char} {target : Option (List Char)} {more : List Char}
    (divided : Divided body target behind) (not_closed : ¬ ClosesTarget body more) :
    Divided (body ++ '\n' :: more) target (behind ++ '\n' :: more) := by
  cases divided with
  | unmarked absent =>
    by_cases later : '=' ∈ more
    · obtain ⟨before, after, rfl, first⟩ := List.eq_append_cons_of_mem later
      cases after with
      | nil => exact absurd ⟨absent, before, [], rfl, first, by simp⟩ not_closed
      | cons c after =>
        have second : c = '=' := by
          by_contra other
          exact not_closed ⟨absent, before, c :: after, rfl, first, by simpa using other⟩
        subst second
        have whole : body ++ '\n' :: (before ++ '=' :: '=' :: after) =
            (body ++ '\n' :: before) ++ '=' :: '=' :: after := by simp
        refine .comparison whole ?_
        simp [absent, first]
    · refine .unmarked ?_
      simp [absent, later]
  | @comparison before after whole first =>
    have whole_more : body ++ '\n' :: more = before ++ '=' :: '=' :: (after ++ '\n' :: more) := by
      simp [whole]
    exact .comparison whole_more first
  | @assignment before _ whole first single =>
    have whole_more : body ++ '\n' :: more = before ++ '=' :: (behind ++ '\n' :: more) := by
      simp [whole]
    refine .assignment whole_more first ?_
    cases behind with
    | nil => simp
    | cons c after => exact single

/-- The property stays as it is if there is something of it on the first line.  Otherwise it is on
the second line. -/
lemma propertyLine_append {target : Option (List Char)} {behind : List Char}
    (single_line : '\n' ∉ behind) (more : List Char)
    (aims : target.bind nonEmpty? = none → nonEmpty? behind ≠ none) :
    (propertyLine target (behind ++ '\n' :: more)).bind nonEmpty? =
      if behind = [] then nonEmpty? (restOfLine more) else nonEmpty? behind := by
  cases target with
  | none =>
    have filled : nonEmpty? behind ≠ none := aims rfl
    have not_nil : behind ≠ [] := by
      rintro rfl
      exact filled rfl
    cases starts : trimStart behind with
    | nil =>
      have blank : trim behind = [] := by
        rw [trim, starts]
        rfl
      exact absurd (nonEmpty?_eq_none_iff.mpr blank) filled
    | cons c rest =>
      have in_line : '\n' ∉ rest := by
        intro there
        refine single_line (trimStart_subset behind ?_)
        rw [starts]
        exact List.mem_cons_of_mem c there
      have same : nonEmpty? (c :: rest) = nonEmpty? behind := by
        rw [← starts]
        exact nonEmpty?_congr (trim_trimStart behind)
      rw [if_neg not_nil, propertyLine, if_neg (by simp), trimStart_append_of_cons starts,
        List.cons_append, propertyHere, restOfLine_append in_line, Option.bind_some, same]
  | some before =>
    -- Behind a target the property may start with the line feed itself, which is trimmed off.
    have behind_target : propertyLine (some before) (behind ++ '\n' :: more) =
        propertyHere (behind ++ '\n' :: more) := rfl
    rw [behind_target]
    cases behind with
    | nil => exact nonEmpty?_congr (trim_cons_of_blank (by decide) _)
    | cons c rest =>
      have in_line : '\n' ∉ rest := fun there => single_line (List.mem_cons_of_mem c there)
      rw [List.cons_append, propertyHere, restOfLine_append in_line, if_neg (List.cons_ne_nil c rest),
        Option.bind_some]

/-! ## Left sides -/

section Reach

variable {first more body behind : List Char} {tags target : Option (List Char)}

/-- The parts of several lines, if neither a list nor a target is closed on a later one. -/
lemma parts_append (single_line : '\n' ∉ first) (starts : ¬ ['=', '='] <+: first)
    (taken : TagsTaken first tags body) (divided : Divided body target behind)
    (no_list : ¬ ClosesList first more) (no_target : ¬ ClosesTarget body more)
    (aims : ¬ (LeftParts.ofPieces tags target behind).Aimless) :
    (leftSide? (first ++ '\n' :: more)).map LeftSide.parts =
      some ⟨tags.map tagsOf, target.bind nonEmpty?,
        if behind = [] then nonEmpty? (restOfLine more) else nonEmpty? behind⟩ := by
  have in_line : '\n' ∉ behind := fun there => single_line (taken.subset (divided.subset there))
  have starts_more : ¬ ['=', '='] <+: first ++ '\n' :: more := by rwa [marks_append_iff]
  have aims_behind : target.bind nonEmpty? = none → nonEmpty? behind ≠ none :=
    fun no_target no_property => aims ⟨no_target, no_property⟩
  rw [(taken.append no_list).parts_eq starts_more (divided.append no_target),
    propertyLine_append in_line more aims_behind]

/-- Nothing is left for the property only if the body ends in the equals sign. -/
lemma ends_in_mark (divided : Divided body target [])
    (aims : ¬ (LeftParts.ofPieces tags target []).Aimless) :
    ∃ before, body = before ++ ['='] ∧ '=' ∉ before := by
  cases divided with
  | unmarked _ => exact absurd ⟨rfl, rfl⟩ aims
  | comparison whole _ => simp at whole
  | assignment whole first _ => exact ⟨_, whole, first⟩

end Reach

namespace Test

variable {views : Views} {runtime first more : String} {right : Value} {t : Test}

lemma not_marks_of_parse (read : Test.parse views runtime first right = .ok t)
    (single_line : '\n' ∉ first.toList) : ¬ ['=', '='] <+: first.toList := by
  intro marks
  have refused : leftSide? first.toList = none := by
    rw [leftSide?, lineStarts, laterLines_of_single single_line, List.findSome?_cons,
      leftSideHere?_eq_none_iff.mpr marks]
    rfl
  simp [parse_of_no_side refused] at read

/-- A list that is closed on a later line changes the tags. -/
lemma ne_of_closesList (single_line : '\n' ∉ first.toList)
    (read : Test.parse views runtime first right = .ok t)
    (closes : ClosesList first.toList more.toList) :
    Test.parse views runtime (first ++ "\n" ++ more) right ≠ .ok t := by
  intro read_more
  have starts := not_marks_of_parse read single_line
  obtain ⟨⟨inside, rest, taken_more⟩, no_tags⟩ := tagsTaken_of_closesList closes
  obtain ⟨tags, body, taken⟩ := exists_tagsTaken first.toList
  obtain rfl := no_tags tags body taken
  obtain ⟨target, behind, divided⟩ := exists_divided body
  obtain ⟨target', behind', divided'⟩ := exists_divided rest
  have parts := taken.parts_eq starts divided
  have parts_more := taken_more.parts_eq (by rwa [marks_append_iff]) divided'
  rw [← toList_append_line] at parts_more
  have same_tags := (parts_alike parts parts_more read read_more).1
  cases same_tags

/-- A target that is closed on a later line is a target where there was none. -/
lemma ne_of_closesTarget {tags : Option (List Char)} {body : List Char}
    (single_line : '\n' ∉ first.toList) (read : Test.parse views runtime first right = .ok t)
    (no_list : ¬ ClosesList first.toList more.toList) (taken : TagsTaken first.toList tags body)
    (closes : ClosesTarget body more.toList) :
    Test.parse views runtime (first ++ "\n" ++ more) right ≠ .ok t := by
  intro read_more
  have starts := not_marks_of_parse read single_line
  obtain ⟨absent, before, after, more_eq, first_mark, single_mark⟩ := closes
  have divided_more : Divided (body ++ '\n' :: more.toList) (some (body ++ '\n' :: before)) after := by
    refine .assignment ?_ ?_ single_mark
    · simp [more_eq]
    · simp [absent, first_mark]
  have parts := taken.parts_of_single (.unmarked absent) single_line starts
  have parts_more := (taken.append no_list).parts_eq (by rwa [marks_append_iff]) divided_more
  rw [← toList_append_line] at parts_more
  have same_target := (parts_alike parts parts_more read read_more).2.1
  -- Only a blank target could go unnoticed, but then there is nothing at all on the first line.
  have blank : ∀ c ∈ body, isBlank c = true := by
    intro c there
    exact trim_eq_nil_iff.mp (nonEmpty?_eq_none_iff.mp same_target) c (List.mem_append_left _ there)
  refine (madeOf_of_parse parts read).1 ⟨rfl, ?_⟩
  exact nonEmpty?_eq_none_iff.mpr (trim_eq_nil_iff.mpr blank)

/-- A property on the second line is a property where there was none. -/
lemma ne_of_fillsProperty {tags : Option (List Char)} {body : List Char}
    (single_line : '\n' ∉ first.toList) (read : Test.parse views runtime first right = .ok t)
    (no_list : ¬ ClosesList first.toList more.toList) (taken : TagsTaken first.toList tags body)
    (fills : FillsProperty body more.toList) :
    Test.parse views runtime (first ++ "\n" ++ more) right ≠ .ok t := by
  intro read_more
  have starts := not_marks_of_parse read single_line
  obtain ⟨⟨before, body_eq, first_mark⟩, filled⟩ := fills
  have divided : Divided body (some before) [] := .assignment body_eq first_mark (by simp)
  have no_target : ¬ ClosesTarget body more.toList := by
    rintro ⟨absent, -⟩
    rw [body_eq] at absent
    simp at absent
  have parts := taken.parts_of_single divided single_line starts
  have aims := (madeOf_of_parse parts read).1
  have parts_more := parts_append single_line starts taken divided no_list no_target aims
  rw [← toList_append_line, if_pos rfl] at parts_more
  have same_presence := (parts_alike parts parts_more read read_more).2.2
  have absent : (nonEmpty? (restOfLine more.toList)).isSome = false := same_presence
  rw [Option.isSome_eq_false_iff, Option.isNone_iff_eq_none] at absent
  exact filled absent

/-- More lines make no difference to a test exactly if its left side takes nothing from them. -/
lemma parse_append_iff (single_line : '\n' ∉ first.toList)
    (read : Test.parse views runtime first right = .ok t) :
    Test.parse views runtime (first ++ "\n" ++ more) right = .ok t ↔
      ¬ ReachesOn first.toList more.toList := by
  constructor
  · intro read_more reaches
    by_cases closes : ClosesList first.toList more.toList
    · exact ne_of_closesList single_line read closes read_more
    · obtain closed | ⟨tags, body, taken, closes_target | fills⟩ := reaches
      · exact closes closed
      · exact ne_of_closesTarget single_line read closes taken closes_target read_more
      · exact ne_of_fillsProperty single_line read closes taken fills read_more
  · intro stays
    have starts := not_marks_of_parse read single_line
    obtain ⟨tags, body, taken⟩ := exists_tagsTaken first.toList
    obtain ⟨target, behind, divided⟩ := exists_divided body
    have no_list : ¬ ClosesList first.toList more.toList := fun closes => stays (.inl closes)
    have no_target : ¬ ClosesTarget body more.toList :=
      fun closes => stays (.inr ⟨tags, body, taken, .inl closes⟩)
    have parts := taken.parts_of_single divided single_line starts
    have aims := (madeOf_of_parse parts read).1
    have parts_more := parts_append single_line starts taken divided no_list no_target aims
    have same_property : (if behind = [] then nonEmpty? (restOfLine more.toList)
        else nonEmpty? behind) = nonEmpty? behind := by
      split
      next nothing =>
        subst nothing
        by_contra filled
        exact stays (.inr ⟨tags, body, taken, .inr ⟨ends_in_mark divided aims, filled⟩⟩)
      next => rfl
    rw [same_property, ← toList_append_line] at parts_more
    exact parse_congr (parts_more.trans parts.symm) read

end Test

/-! ## Both kinds of entries -/

/-- **First lines.**  More lines behind a comment make no difference to it.  More lines behind the
left side of a test make none exactly if they do not close a tag list or a target that the first line
left open and do not begin with the property that the first line left out. -/
theorem first_line_decides_iff (views : Views) (runtime first more : String)
    (single_line : '\n' ∉ first.toList) :
    (∀ f, Feature.parse views runtime (.string first) = .ok f →
      Feature.parse views runtime (.string (first ++ "\n" ++ more)) = .ok f) ∧
    (∀ right f, Feature.parse views runtime (.object [(first, right)]) = .ok f →
      (Feature.parse views runtime (.object [(first ++ "\n" ++ more, right)]) = .ok f ↔
        ¬ ReachesOn first.toList more.toList)) := by
  constructor
  · intro f read
    obtain ⟨c, comment, rfl⟩ := Feature.parse_string_eq_ok_iff.mp read
    exact Feature.parse_string_eq_ok_iff.mpr ⟨c, Comment.parse_append single_line comment more, rfl⟩
  · intro right f read
    obtain ⟨t, test, rfl⟩ := Feature.parse_object_eq_ok_iff.mp read
    rw [← Test.parse_append_iff single_line test, Feature.parse_object_eq_ok_iff]
    constructor
    · rintro ⟨t', test', same⟩
      cases same
      exact test'
    · intro test'
      exact ⟨t, test', rfl⟩

/-- A target and a property on the first line leave nothing open. -/
theorem assigned_call_ignores_next_line :
    (∃ c, Feature.parse .none "rs" (.string "x = f\ny = g") = .ok (.comment c) ∧
      c.text = "x = f") ∧
    ∃ t, Feature.parse .none "rs" (.object [("x = f\ny = g", .array [])]) = .ok (.test t) ∧
      t.assign = some "x" ∧ t.property = some "f" := by
  have lines : "x = f" ++ "\n" ++ "y = g" = "x = f\ny = g" := by decide
  obtain ⟨comments, tests⟩ := first_line_decides_iff .none "rs" "x = f" "y = g" (by decide)
  rw [lines] at comments tests
  constructor
  · obtain ⟨c, parsed, words⟩ : ∃ c, Feature.parse .none "rs" (.string "x = f") = .ok (.comment c) ∧
        c.text = "x = f" := ⟨_, rfl, by decide +kernel⟩
    exact ⟨c, comments _ parsed, words⟩
  · obtain ⟨t, parsed, assign, property⟩ : ∃ t, Feature.parse .none "rs"
        (.object [("x = f", .array [])]) = .ok (.test t) ∧ t.assign = some "x" ∧
        t.property = some "f" := ⟨_, rfl, by decide, by decide⟩
    refine ⟨t, (tests _ _ parsed).mpr ?_, assign, property⟩
    have no_list : ¬ ClosesList "x = f".toList "y = g".toList := by
      rintro ⟨opened, inside, rest, begins, -⟩
      cases begins
    rintro (closes | ⟨tags, body, taken, reaches⟩)
    · exact no_list closes
    · have whole : body = "x = f".toList := by
        cases taken with
        | tagged begins _ _ => cases begins
        | untagged _ => rfl
      subst whole
      obtain ⟨absent, -⟩ | ⟨⟨before, ends, -⟩, -⟩ := reaches
      · exact absent (by decide)
      · have last := congrArg List.getLast? ends
        rw [List.getLast?_concat] at last
        cases last

/-- It is not so that later lines never make a difference. -/
theorem later_line_becomes_assignment :
    ¬ ∀ (views : Views) (runtime first more : String), '\n' ∉ first.toList →
      (∀ f, Feature.parse views runtime (.string first) = .ok f →
        Feature.parse views runtime (.string (first ++ "\n" ++ more)) = .ok f) ∧
      (∀ right f, Feature.parse views runtime (.object [(first, right)]) = .ok f →
        Feature.parse views runtime (.object [(first ++ "\n" ++ more, right)]) = .ok f) := by
  intro always
  obtain ⟨t, parsed, unassigned⟩ : ∃ t, Feature.parse .none "rs" (.object [("foo", .array [])]) =
      .ok (.test t) ∧ t.assign = none := ⟨_, rfl, rfl⟩
  obtain ⟨t', parsed', assigned⟩ : ∃ t, Feature.parse .none "rs"
      (.object [("foo" ++ "\n" ++ "x=1", .array [])]) = .ok (.test t) ∧
      t.assign = some "foo\nx" := ⟨_, rfl, by decide⟩
  have same := (always .none "rs" "foo" "x=1" (by decide)).2 _ _ parsed
  rw [parsed'] at same
  cases same
  simp [unassigned] at assigned

end Conformance
