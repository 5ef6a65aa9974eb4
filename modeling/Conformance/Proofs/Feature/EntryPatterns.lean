import Conformance.Proofs.Feature.LeadingTags
import Conformance.Proofs.Text.Trimming

/-!
# The patterns of entries

The two kinds of text that have a grammar are given by a pattern each:

    comments    ^(?:\(([^)]*)\))?\s*(\w.*)$
    left sides  ^(?:\(([^)]*)\))?\s*(?:([^=]*)=)?([^=].*)?$

Four parts of the second one may be empty, and three of them may be cut short for the sake of the
parts behind them.  The readers of the two kinds do without any of this: they cut at the first
closing parenthesis, behind the blanks and at the first equals sign.  They find the same parts
nevertheless.  There is one case where the parts are not the same letter by letter.  In front of two
equals signs the pattern gives a blank back and makes it the first character of the property, where
trimming takes it off again.

## Parts

* `commentPattern` and `leftPattern` are the patterns, with a name from `EntryPart` for each part.
* `commentLine?_eq_search` and `leftSide?_eq_search` say that the readers find what the patterns
  capture.
-/

namespace Conformance

open Text Pattern

/-! ## The patterns -/

/-- The parts of an entry that a pattern captures. -/
inductive EntryPart
  | tags
  | words
  | target
  | property
deriving DecidableEq

/-- A tag list in parentheses. -/
def tagPattern : Pattern EntryPart :=
  .seq (.one (· = '(')) (upTo .tags ')')

/-- Blanks, and the words of a comment. -/
def wordsPattern : Pattern EntryPart :=
  .seq (.many isBlank) (.seq (toLineEnd .words isWordChar) .lineEnd)

def commentPattern : Pattern EntryPart :=
  .seq .lineStart (.seq (.optional tagPattern) wordsPattern)

/-- A property, if there is one. -/
def propertyPattern : Pattern EntryPart :=
  .seq (.optional (toLineEnd .property (· ≠ '='))) .lineEnd

/-- Target and property, if there are any. -/
def bodyPattern : Pattern EntryPart :=
  .seq (.optional (upTo .target '=')) propertyPattern

def leftPattern : Pattern EntryPart :=
  .seq .lineStart (.seq (.optional tagPattern) (.seq (.many isBlank) bodyPattern))

/-! ## Tag lists -/

/-- A tag list is read in one way only. -/
lemma first?_tagPattern_seq {q : Pattern EntryPart} {last : Option Char} {text : List Char} :
    (seq tagPattern q).first? last text =
      (tagList? text).bind fun list =>
        (q.first? (some ')') list.2).map ((.tags, list.1) :: ·) := by
  rw [tagPattern, first?_seq_assoc]
  cases text with
  | nil => rfl
  | cons c text =>
    rw [first?_one_seq]
    by_cases opens : c = '('
    · subst opens
      by_cases closes : ')' ∈ text
      · obtain ⟨inside, rest, rfl, first⟩ := List.eq_append_cons_of_mem closes
        rw [first?_upTo_seq first, tagList?_of_notMem first]
        rfl
      · rw [first?_upTo_seq_of_notMem closes, tagList?, dropWhile_ne_of_notMem closes]
        rfl
    · have no_list : tagList? (c :: text) = none := by
        unfold tagList?
        split
        · simp_all
        · rfl
      simp [opens, no_list]

/-! ## Comments -/

/-- The words at the front of a body, behind the blanks. -/
def wordsHere? (body : List Char) : Option (List Char) :=
  match trimStart body with
  | c :: rest => if isWordChar c then some (restOfLine (c :: rest)) else none
  | [] => none

lemma commentHere?_eq (text : List Char) : commentHere? text =
    match tagList? text with
    | some (tags, body) => (wordsHere? body).map (some tags, ·)
    | none => (wordsHere? text).map (none, ·) := by
  have words (tags : Option (List Char)) (body : List Char) :
      (match trimStart body with
        | c :: _ => if isWordChar c then some (tags, restOfLine (trimStart body)) else none
        | [] => none) = (wordsHere? body).map (tags, ·) := by
    unfold wordsHere?
    cases trimStart body with
    | nil => rfl
    | cons c rest => by_cases word : isWordChar c = true <;> simp [word]
  unfold commentHere?
  cases tagList? text with
  | none => exact words none text
  | some list => exact words (some list.1) list.2

lemma restOfLine_cons {c : Char} (in_line : c ≠ '\n') (rest : List Char) :
    restOfLine (c :: rest) = c :: restOfLine rest := by
  simp [restOfLine, in_line]

lemma restOfLine_of_single {line : List Char} (single_line : '\n' ∉ line) :
    restOfLine line = line := by
  rw [restOfLine, List.takeWhile_eq_self_iff]
  exact ne_of_absent single_line

lemma first?_wordsPattern (last : Option Char) (text : List Char) :
    wordsPattern.first? last text = (wordsHere? text).map fun words => [(.words, words)] := by
  have refuses : ∀ last c rest, isBlank c = true →
      (seq (toLineEnd EntryPart.words isWordChar) lineEnd).readings last (c :: rest) = [] := by
    intro last c rest blank
    rw [readings_seq, readings_toLineEnd, isWordChar_eq_false_of_isBlank blank]
    rfl
  rw [wordsPattern, first?_many_seq_of_refuses refuses, wordsHere?]
  change first? _ _ (trimStart text) = _
  cases trimStart text with
  | nil => rfl
  | cons c rest =>
    rw [first?_toLineEnd_seq]
    dsimp only
    by_cases word : isWordChar c = true
    · have in_line : c ≠ '\n' := by
        rintro rfl
        rw [isWordChar_eq_false_of_isBlank (by decide)] at word
        cases word
      rw [if_pos word, if_pos word, restOfLine_cons in_line]
      rfl
    · rw [if_neg word, if_neg word]
      rfl

/-- Tags and words as the pattern captures them. -/
def commentParts (c : Captures EntryPart) : Option (List Char) × List Char :=
  (c.lookup .tags, (c.lookup .words).getD [])

/-- Without its tag list a text that has one is no comment, since it starts with a parenthesis. -/
lemma wordsHere?_of_tagList? {text : List Char} {list : List Char × List Char}
    (found : tagList? text = some list) : wordsHere? text = none := by
  cases text with
  | nil => cases found
  | cons c rest =>
    have opens : c = '(' := by simpa using head?_of_tagList? found
    subst opens
    have no_word : isWordChar '(' = false := by decide +kernel
    have kept : trimStart ('(' :: rest) = '(' :: rest := rfl
    simp [wordsHere?, kept, no_word]

lemma map_first?_comment (last : Option Char) (text : List Char) :
    ((seq (optional tagPattern) wordsPattern).first? last text).map commentParts =
      commentHere? text := by
  rw [first?_optional_seq, first?_tagPattern_seq, first?_wordsPattern, commentHere?_eq]
  cases list : tagList? text with
  | none =>
    rw [Option.bind_none, Option.none_or, Option.map_map]
    rfl
  | some list' =>
    rw [wordsHere?_of_tagList? list, Option.map_none, Option.or_none, Option.bind_some,
      first?_wordsPattern, Option.map_map, Option.map_map]
    rfl

/-- **Comments.**  The reader of comments finds what the pattern of comments captures. -/
theorem commentLine?_eq_search (text : List Char) :
    commentLine? text = (commentPattern.search? text).map commentParts :=
  (map_search_lineStart_seq map_first?_comment text).symm

/-! ## Left sides -/

/-- The parts of a left side as a test takes them over: tags divided, the others trimmed, and absent
if they are empty. -/
structure LeftParts where
  tags : Option (List String)
  target : Option String
  property : Option String
deriving DecidableEq

def LeftSide.parts (side : LeftSide) : LeftParts :=
  ⟨side.tags.map splitTags, side.target.bind nonEmpty?, side.property.bind nonEmpty?⟩

/-- The left side that the pattern captures. -/
def LeftSide.ofCaptures (c : Captures EntryPart) : LeftSide :=
  ⟨c.lookup .tags, c.lookup .target, c.lookup .property⟩

/-- Captures of a target and a property. -/
def bodyCaptures (body : Option (List Char) × Option (List Char)) : Captures EntryPart :=
  (body.1.map (EntryPart.target, ·)).toList ++ (body.2.map (EntryPart.property, ·)).toList

lemma first?_propertyPattern (last : Option Char) (text : List Char) :
    propertyPattern.first? last text =
      if text.head? = some '=' then none else some (bodyCaptures (none, propertyHere text)) := by
  rw [propertyPattern, first?_optional_seq, first?_lineEnd]
  cases text with
  | nil => rfl
  | cons c rest =>
    rw [first?_toLineEnd_seq]
    by_cases mark : c = '='
    · subst mark
      rfl
    · simp [mark, propertyHere, bodyCaptures, restOfLine]

/-- How a body divides at its first equals sign into a target and what is behind it.  If there is
none, or if a second one follows directly, there is no target. -/
inductive Divided (body : List Char) : Option (List Char) → List Char → Prop
  | unmarked (absent : '=' ∉ body) : Divided body none body
  | comparison {before after : List Char} (whole : body = before ++ '=' :: '=' :: after)
      (first : '=' ∉ before) : Divided body none body
  | assignment {before after : List Char} (whole : body = before ++ '=' :: after)
      (first : '=' ∉ before) (single : after.head? ≠ some '=') : Divided body (some before) after

lemma exists_divided (body : List Char) : ∃ target behind, Divided body target behind := by
  by_cases marked : '=' ∈ body
  · obtain ⟨before, after, whole, first⟩ := List.eq_append_cons_of_mem marked
    cases after with
    | nil => exact ⟨_, _, .assignment whole first (by simp)⟩
    | cons c after =>
      by_cases second : c = '='
      · subst second
        exact ⟨_, _, .comparison whole first⟩
      · exact ⟨_, _, .assignment whole first (by simpa using second)⟩
  · exact ⟨_, _, .unmarked marked⟩

namespace Divided

variable {body behind : List Char} {target : Option (List Char)}

lemma subset (divided : Divided body target behind) : behind ⊆ body := by
  cases divided with
  | unmarked _ => exact List.Subset.refl _
  | comparison _ _ => exact List.Subset.refl _
  | assignment whole _ _ =>
    intro c there
    rw [whole]
    simp [there]

lemma splitBody_eq (divided : Divided body target behind) :
    splitBody body = (target, propertyHere behind) := by
  unfold splitBody
  cases divided with
  | unmarked absent => rw [dropWhile_ne_of_notMem absent]
  | @comparison before after whole first =>
    have marks := dropWhile_ne_append first ('=' :: after)
    rw [← whole] at marks
    rw [marks]
    rfl
  | @assignment before _ whole first single =>
    rw [whole, dropWhile_ne_append first, takeWhile_ne_append first]
    cases behind with
    | nil => rfl
    | cons c after =>
      split
      · simp_all
      · simp_all
      · simp_all

/-- A body starts with two equals signs if it starts with one and has no target. -/
lemma marks_iff (divided : Divided body target behind) :
    ['=', '='] <+: body ↔ body.head? = some '=' ∧ target = none := by
  cases divided with
  | unmarked absent =>
    constructor
    · rintro ⟨rest, rfl⟩
      simp at absent
    · rintro ⟨mark, -⟩
      exact absurd (List.mem_of_head? mark) absent
  | @comparison before after whole first =>
    subst whole
    cases before with
    | nil => simp
    | cons c before =>
      have other : c ≠ '=' := by
        rintro rfl
        exact first List.mem_cons_self
      simp [other, other.symm]
  | @assignment before _ whole first single =>
    subst whole
    simp only [reduceCtorEq, and_false, iff_false]
    rintro ⟨rest, marks⟩
    cases before with
    | nil =>
      simp only [List.cons_append, List.nil_append, List.cons.injEq, true_and] at marks
      rw [← marks] at single
      exact single rfl
    | cons c before =>
      simp only [List.cons_append, List.cons.injEq] at marks
      exact first (List.mem_cons.mpr (.inl marks.1))

/-- Behind a target, or as a whole, the body is read as a property, unless it starts with two equals
signs. -/
lemma first?_bodyPattern (divided : Divided body target behind) (last : Option Char) :
    bodyPattern.first? last body =
      if ['=', '='] <+: body then none else some (bodyCaptures (target, propertyHere behind)) := by
  rw [bodyPattern, first?_optional_seq, if_congr divided.marks_iff rfl rfl]
  have whole_body : propertyPattern.first? last body =
      if body.head? = some '=' ∧ (none : Option (List Char)) = none then none
      else some (bodyCaptures (none, propertyHere body)) := by
    rw [first?_propertyPattern]
    simp
  cases divided with
  | unmarked absent => rw [first?_upTo_seq_of_notMem absent, Option.none_or, whole_body]
  | @comparison before after whole first =>
    have refused : (seq (upTo EntryPart.target '=') propertyPattern).first? last body = none := by
      rw [whole, first?_upTo_seq first, first?_propertyPattern]
      rfl
    rw [refused, Option.none_or, whole_body]
  | @assignment before _ whole first single =>
    have taken : (seq (upTo EntryPart.target '=') propertyPattern).first? last body =
        some (bodyCaptures (some before, propertyHere behind)) := by
      rw [whole, first?_upTo_seq first, first?_propertyPattern, if_neg single]
      rfl
    rw [taken, if_neg (by simp)]
    rfl

end Divided

/-- What the parts of a body come to. -/
def bodyParts (body : Option (List Char) × Option (List Char)) : LeftParts :=
  LeftSide.parts ⟨none, body.1, body.2⟩

lemma parts_bodyCaptures (body : Option (List Char) × Option (List Char)) :
    (LeftSide.ofCaptures (bodyCaptures body)).parts = bodyParts body := by
  obtain ⟨target, property⟩ := body
  cases target <;> cases property <;> rfl

/-- Blanks in front of a body are passed over. -/
lemma body?_eq (text : List Char) :
    body? text = if ['=', '='] <+: text then none else some (splitBody (trimStart text)) := by
  by_cases marks : ['=', '='] <+: text
  · rw [if_pos marks, body?_eq_none_iff]
    exact marks
  · rw [if_neg marks]
    have read : body? text ≠ none := by
      rw [Ne, body?_eq_none_iff]
      exact marks
    unfold body? at read ⊢
    dsimp only at read ⊢
    split at read
    · exact absurd rfl read
    · rw [if_neg ‹_›]

/-- There are blanks in front of a text that changes when they are cut off. -/
lemma exists_blanks {text : List Char} (moved : trimStart text ≠ text) :
    ∃ run b, text = run ++ b :: trimStart text ∧ ∀ c ∈ run ++ [b], isBlank c = true := by
  obtain ⟨blanks, whole, blank⟩ := exists_blanks_append text
  obtain rfl | ⟨run, b, rfl⟩ := List.eq_nil_or_concat blanks
  · exact absurd whole.symm moved
  · rw [List.concat_eq_append] at whole blank
    exact ⟨run, b, whole.trans (List.append_assoc run [b] _), blank⟩

/-- Two equals signs behind blanks become a property, and it makes no difference whether a blank is
taken with them. -/
lemma bodyParts_marks {b : Char} (blank : isBlank b = true) {body : List Char}
    (marks : ['=', '='] <+: body) :
    bodyParts (none, propertyHere (b :: body)) = bodyParts (splitBody body) := by
  obtain ⟨rest, rfl⟩ := marks
  have property : propertyHere ('=' :: '=' :: rest) = some (restOfLine ('=' :: '=' :: rest)) := by
    rw [restOfLine_cons (by decide), propertyHere]
  have trimmed_off : nonEmpty? (b :: restOfLine ('=' :: '=' :: rest)) =
      nonEmpty? (restOfLine ('=' :: '=' :: rest)) :=
    nonEmpty?_congr (trim_cons_of_blank blank _)
  change bodyParts (none, some (b :: restOfLine ('=' :: '=' :: rest))) =
    bodyParts (none, propertyHere ('=' :: '=' :: rest))
  rw [property]
  simp only [bodyParts, LeftSide.parts, Option.bind_some, trimmed_off]

lemma map_first?_blanks_body (last : Option Char) (text : List Char) :
    ((seq (many isBlank) bodyPattern).first? last text).map (fun c => (LeftSide.ofCaptures c).parts) =
      (body? text).map bodyParts := by
  obtain ⟨target, behind, divided⟩ := exists_divided (trimStart text)
  rw [first?_many_seq, body?_eq]
  by_cases marks : ['=', '='] <+: trimStart text
  · by_cases moved : trimStart text = text
    · -- there is no blank to give back, so there is no reading
      have single := splits_of_outside (start_trimStart text)
      rw [moved] at marks divided single
      simp [single, divided.first?_bodyPattern, marks]
    · obtain ⟨run, b, whole, blanks⟩ := exists_blanks moved
      obtain ⟨more, cuts⟩ := exists_splits_append blanks (start_trimStart text)
      have no_marks : ¬ ['=', '='] <+: text := by
        rintro ⟨rest, rfl⟩
        exact moved rfl
      have blank : isBlank b = true := blanks b (by simp)
      have divided_back : Divided (b :: trimStart text) none (b :: trimStart text) := by
        obtain ⟨rest, starts⟩ := marks
        have whole : b :: trimStart text = [b] ++ '=' :: '=' :: rest := by
          rw [← starts]
          rfl
        refine .comparison whole ?_
        rw [List.mem_singleton]
        rintro rfl
        cases blank
      have given_back : ¬ ['=', '='] <+: b :: trimStart text := by
        rw [List.cons_prefix_cons]
        rintro ⟨rfl, -⟩
        cases blank
      rw [← whole] at cuts
      simp [cuts, divided.first?_bodyPattern, marks, divided_back.first?_bodyPattern, given_back,
        no_marks, parts_bodyCaptures, bodyParts_marks blank marks]
  · obtain ⟨more, cuts⟩ := exists_splits isBlank text
    have no_marks : ¬ ['=', '='] <+: text := by
      rintro ⟨rest, rfl⟩
      exact marks ⟨rest, rfl⟩
    have longest : text.dropWhile isBlank = trimStart text := rfl
    simp [cuts, longest, divided.first?_bodyPattern, marks, no_marks, divided.splitBody_eq,
      parts_bodyCaptures]

/-! ## The left side as a whole -/

lemma leftSideHere?_eq (text : List Char) : leftSideHere? text =
    ((tagList? text).bind fun list =>
      (body? list.2).map fun body => ⟨some list.1, body.1, body.2⟩).or
    ((body? text).map fun body => ⟨none, body.1, body.2⟩) := by
  unfold leftSideHere?
  cases tagList? text with
  | none => cases body? text <;> rfl
  | some list =>
    obtain ⟨inside, rest⟩ := list
    cases tagged : body? rest with
    | none => cases body? text <;> simp [tagged]
    | some body => simp [tagged]

lemma map_first?_left (last : Option Char) (text : List Char) :
    ((seq (optional tagPattern) (seq (many isBlank) bodyPattern)).first? last text).map
        (fun c => (LeftSide.ofCaptures c).parts) =
      (leftSideHere? text).map LeftSide.parts := by
  rw [first?_optional_seq, first?_tagPattern_seq, leftSideHere?_eq, Option.map_or, Option.map_or,
    map_first?_blanks_body, Option.map_map]
  cases tagList? text with
  | none => rfl
  | some list =>
    have body := congrArg (Option.map fun parts => { parts with tags := some (splitTags list.1) })
      (map_first?_blanks_body (some ')') list.2)
    rw [Option.map_map, Option.map_map] at body
    rw [Option.bind_some, Option.bind_some, Option.map_map, Option.map_map]
    exact congrArg (fun tagged => Option.or tagged _) body

/-- **Left sides.**  The reader of left sides finds what the pattern of left sides captures, up to
blanks that are trimmed off. -/
theorem leftSide?_eq_search (text : List Char) :
    (leftSide? text).map LeftSide.parts =
      (leftPattern.search? text).map fun c => (LeftSide.ofCaptures c).parts := by
  rw [leftPattern, map_search_lineStart_seq map_first?_left, leftSide?, List.map_findSome?]
  rfl

end Conformance
