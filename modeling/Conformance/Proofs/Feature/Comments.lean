import Conformance.Proofs.Feature.EntryPatterns

/-!
# Comments

A comment begins at the start of some line.  There may be a tag list first, then there may be blanks,
and a word character has to follow.  Neither the tag list nor the blanks need to end on the line where
the comment begins.

What has been read is plainer than the text: the words are on one line and have no blanks behind them,
and the tags are trimmed and not empty.  Writing such a comment back gives a text that reads as the
same comment.  This includes a list that has no tags at all, since it is written as a pair of
parentheses and not left out.

## Parts

* `wordsHere?_eq_some_iff` and `commentHere?_eq_some_iff` say what is read at a place, and
  `StartsComment` where something is read.
* `IsTag` is what holds of every tag that is read, and `tagsOf_intercalate` reads a written list.
* `Comment.Plain` is what holds of every comment that is read, and `Comment.parse_canonical` reads a
  written comment.
* `comment_grammar_and_round_trip` is the result for all texts.
-/

namespace Conformance

open Text

/-! ## What is read at a place -/

/-- Words start with a word character behind the blanks and end with the line. -/
lemma wordsHere?_eq_some_iff {body words : List Char} :
    wordsHere? body = some words ↔
      ∃ blanks c rest, body = blanks ++ c :: rest ∧ (∀ b ∈ blanks, isBlank b = true) ∧
        isWordChar c = true ∧ words = restOfLine (c :: rest) := by
  constructor
  · intro found
    obtain ⟨blanks, whole, blank⟩ := exists_blanks_append body
    unfold wordsHere? at found
    cases starts : trimStart body with
    | nil =>
      simp [starts] at found
    | cons c rest =>
      rw [starts] at found whole
      dsimp only at found
      split at found
      next word =>
        cases found
        exact ⟨blanks, c, rest, whole, blank, word, rfl⟩
      next => cases found
  · rintro ⟨blanks, c, rest, rfl, blank, word, rfl⟩
    unfold wordsHere?
    rw [trimStart_of_blanks blank (isBlank_eq_false_of_isWordChar word)]
    dsimp only
    rw [if_pos word]

/-- There are no words in front of the tag list. -/
lemma commentHere?_eq_some_iff {text words : List Char} {tags : Option (List Char)} :
    commentHere? text = some (tags, words) ↔
      (tags = none ∧ wordsHere? text = some words) ∨
      ∃ inside body, text = '(' :: (inside ++ ')' :: body) ∧ ')' ∉ inside ∧ tags = some inside ∧
        wordsHere? body = some words := by
  rw [commentHere?_eq]
  constructor
  · intro found
    cases list : tagList? text with
    | none =>
      rw [list] at found
      obtain ⟨_, words_found, same⟩ := Option.map_eq_some_iff.mp found
      cases same
      exact .inl ⟨rfl, words_found⟩
    | some list' =>
      obtain ⟨inside, body⟩ := list'
      obtain ⟨whole, first⟩ := eq_of_tagList? list
      rw [list] at found
      obtain ⟨_, words_found, same⟩ := Option.map_eq_some_iff.mp found
      cases same
      exact .inr ⟨inside, body, whole, first, rfl, words_found⟩
  · rintro (⟨rfl, words_found⟩ | ⟨inside, body, rfl, first, rfl, words_found⟩)
    · have no_list : tagList? text = none := by
        by_contra listed
        obtain ⟨list, list_eq⟩ := Option.ne_none_iff_exists'.mp listed
        simp [wordsHere?_of_tagList? list_eq] at words_found
      simp [no_list, words_found]
    · simp [tagList?_of_notMem first, words_found]

/-! ## Where something is read -/

/-- The rest of a text from the start of one of its lines on. -/
def LineStart (text here : List Char) : Prop :=
  here = text ∨ ∃ before, text = before ++ '\n' :: here

/-- A tag list that may be missing, blanks and a word character. -/
def StartsComment (here : List Char) : Prop :=
  ∃ list blanks c rest, here = list ++ (blanks ++ c :: rest) ∧
    (list = [] ∨ ∃ inside, list = '(' :: (inside ++ [')']) ∧ ')' ∉ inside) ∧
    (∀ b ∈ blanks, isBlank b = true) ∧ isWordChar c = true

lemma mem_laterLines_iff {text here : List Char} :
    here ∈ laterLines text ↔ ∃ before, text = before ++ '\n' :: here := by
  induction text with
  | nil => simp [laterLines]
  | cons c rest ih =>
    have further : here ∈ laterLines rest ↔ ∃ before, c :: rest = c :: before ++ '\n' :: here := by
      rw [ih]
      simp
    by_cases feed : c = '\n'
    · rw [laterLines, if_pos feed, List.mem_cons, further]
      constructor
      · rintro (rfl | ⟨before, whole⟩)
        · exact ⟨[], by rw [feed, List.nil_append]⟩
        · exact ⟨c :: before, whole⟩
      · rintro ⟨before, whole⟩
        cases before with
        | nil =>
          cases whole
          exact .inl rfl
        | cons b before =>
          cases whole
          exact .inr ⟨before, rfl⟩
    · rw [laterLines, if_neg feed, further]
      constructor
      · rintro ⟨before, whole⟩
        exact ⟨c :: before, whole⟩
      · rintro ⟨before, whole⟩
        cases before with
        | nil =>
          cases whole
          exact absurd rfl feed
        | cons b before =>
          cases whole
          exact ⟨before, rfl⟩

lemma mem_lineStarts_iff {text here : List Char} : here ∈ lineStarts text ↔ LineStart text here := by
  rw [lineStarts, List.mem_cons, mem_laterLines_iff, LineStart]

lemma exists_commentHere?_iff {here : List Char} :
    (∃ parts, commentHere? here = some parts) ↔ StartsComment here := by
  constructor
  · rintro ⟨⟨tags, words⟩, found⟩
    obtain ⟨-, words_found⟩ | ⟨inside, body, rfl, first, -, words_found⟩ :=
      commentHere?_eq_some_iff.mp found
    · obtain ⟨blanks, c, rest, rfl, blank, word, -⟩ := wordsHere?_eq_some_iff.mp words_found
      exact ⟨[], blanks, c, rest, rfl, .inl rfl, blank, word⟩
    · obtain ⟨blanks, c, rest, rfl, blank, word, -⟩ := wordsHere?_eq_some_iff.mp words_found
      refine ⟨'(' :: (inside ++ [')']), blanks, c, rest, ?_, .inr ⟨inside, rfl, first⟩, blank, word⟩
      simp
  · rintro ⟨list, blanks, c, rest, rfl, listed, blank, word⟩
    have words_found : wordsHere? (blanks ++ c :: rest) = some (restOfLine (c :: rest)) :=
      wordsHere?_eq_some_iff.mpr ⟨blanks, c, rest, rfl, blank, word, rfl⟩
    obtain rfl | ⟨inside, rfl, first⟩ := listed
    · exact ⟨_, commentHere?_eq_some_iff.mpr (.inl ⟨rfl, words_found⟩)⟩
    · refine ⟨_, commentHere?_eq_some_iff.mpr (.inr ⟨inside, _, ?_, first, rfl, words_found⟩)⟩
      simp

/-- A comment begins at some line start, or there is none. -/
lemma exists_commentLine?_iff {text : List Char} :
    (∃ parts, commentLine? text = some parts) ↔ ∃ here, LineStart text here ∧ StartsComment here := by
  constructor
  · rintro ⟨parts, found⟩
    obtain ⟨here, line_start, at_place⟩ := List.exists_of_findSome?_eq_some found
    exact ⟨here, mem_lineStarts_iff.mp line_start, exists_commentHere?_iff.mp ⟨parts, at_place⟩⟩
  · rintro ⟨here, line_start, starts⟩
    obtain ⟨parts, at_place⟩ := exists_commentHere?_iff.mpr starts
    have some_place : ((lineStarts text).findSome? commentHere?).isSome = true := by
      rw [List.findSome?_isSome_iff]
      exact ⟨here, mem_lineStarts_iff.mpr line_start, by rw [at_place]; rfl⟩
    exact Option.isSome_iff_exists.mp some_place

/-! ## Tags -/

/-- What holds of every tag that is read. -/
structure IsTag (tag : String) : Prop where
  filled : tag ≠ ""
  trimmed : Trimmed tag.toList
  no_colon : ':' ∉ tag.toList
  no_paren : ')' ∉ tag.toList

/-- The stretches between separators are parts of the text and have none in them. -/
lemma mem_splitOn {separator : Char} {text piece : List Char}
    (there : piece ∈ text.splitOn separator) : separator ∉ piece ∧ piece ⊆ text := by
  induction text generalizing piece with
  | nil =>
    rw [List.splitOn_nil, List.mem_singleton] at there
    subst there
    simp
  | cons c rest ih =>
    rw [List.splitOn_cons_eq_if_modifyHead] at there
    obtain ⟨first, others, pieces_eq⟩ := List.exists_cons_of_ne_nil (List.splitOn_ne_nil separator rest)
    rw [pieces_eq] at there ih
    by_cases same : c = separator
    · simp only [same, beq_self_eq_true, if_true, List.mem_cons] at there
      obtain rfl | earlier := there
      · simp
      · obtain ⟨absent, part⟩ := ih (List.mem_cons.mpr earlier)
        exact ⟨absent, List.subset_cons_of_subset c part⟩
    · simp only [same, beq_iff_eq, if_false, List.modifyHead_cons, List.mem_cons] at there
      obtain rfl | later := there
      · obtain ⟨absent, part⟩ := ih List.mem_cons_self
        refine ⟨?_, List.cons_subset_cons c part⟩
        simp [Ne.symm same, absent]
      · obtain ⟨absent, part⟩ := ih (List.mem_cons_of_mem first later)
        exact ⟨absent, List.subset_cons_of_subset c part⟩

lemma isTag_of_mem_tagsOf {inside : List Char} (closes : ')' ∉ inside) {tag : String}
    (there : tag ∈ tagsOf inside) : IsTag tag := by
  simp only [tagsOf, List.mem_map, List.mem_filter, decide_eq_true_eq] at there
  obtain ⟨_, ⟨⟨piece, piece_there, rfl⟩, kept⟩, rfl⟩ := there
  obtain ⟨absent, part⟩ := mem_splitOn piece_there
  refine ⟨?_, ?_, ?_, ?_⟩
  · rw [Ne, ← String.toList_eq_nil_iff, String.toList_ofList]
    exact kept
  · rw [String.toList_ofList]
    exact trimmed_trim piece
  · rw [String.toList_ofList]
    exact fun colon => absent (trim_subset piece colon)
  · rw [String.toList_ofList]
    exact fun paren => closes (part (trim_subset piece paren))

/-- Tags that are written with colons between them are read as they are. -/
lemma tagsOf_intercalate {tags : List String} (clean : ∀ tag ∈ tags, IsTag tag) :
    tagsOf ([':'].intercalate (tags.map String.toList)) = tags := by
  cases tags with
  -- Cutting the empty text gives one empty piece, which is dropped.
  | nil => rfl
  | cons tag more =>
    have no_colons : ∀ piece ∈ (tag :: more).map String.toList, ':' ∉ piece := by
      rw [List.forall_mem_map]
      exact fun tag there => (clean tag there).no_colon
    have divided := List.splitOn_intercalate ':' no_colons (by simp)
    have trimmed : ((tag :: more).map String.toList).map trim = (tag :: more).map String.toList := by
      rw [List.map_map]
      exact List.map_congr_left fun tag there => trim_of_trimmed (clean tag there).trimmed
    have filled : ((tag :: more).map String.toList).filter (· ≠ []) =
        (tag :: more).map String.toList := by
      rw [List.filter_eq_self, List.forall_mem_map]
      intro tag there
      rw [decide_eq_true_iff, Ne, String.toList_eq_nil_iff]
      exact (clean tag there).filled
    have written : ((tag :: more).map String.toList).map String.ofList = tag :: more := by
      rw [List.map_map]
      exact List.map_id'' (fun tag => String.ofList_toList) _
    rw [tagsOf, divided, trimmed, filled, written]

/-- A written list is closed by its own parenthesis. -/
lemma paren_notMem_intercalate {tags : List String} (clean : ∀ tag ∈ tags, IsTag tag) :
    ')' ∉ [':'].intercalate (tags.map String.toList) := by
  induction tags with
  | nil => simp
  | cons tag more ih =>
    rw [List.forall_mem_cons] at clean
    cases more with
    | nil => simpa using clean.1.no_paren
    | cons tag' more =>
      have further := ih clean.2
      rw [List.map_cons] at further
      rw [List.map_cons, List.map_cons, List.intercalate_cons_cons]
      simp [clean.1.no_paren, further]

/-! ## Comments -/

namespace Comment

/-- What holds of every comment that is read. -/
structure Plain (c : Comment) : Prop where
  starts : ∃ first rest, c.text.toList = first :: rest ∧ isWordChar first = true
  single_line : '\n' ∉ c.text.toList
  finish : ∀ last, c.text.toList.getLast? = some last → isBlank last = false
  tags : ∀ tags, c.tags = some tags → ∀ tag ∈ tags, IsTag tag

variable {runtime text : String} {c : Comment}

lemma parse_eq_ok_iff : Comment.parse runtime text = .ok c ↔
    ∃ tags words, commentLine? text.toList = some (tags, words) ∧
      c = ⟨String.ofList (trimEnd words), tags.map tagsOf, skipsFor runtime (tags.map tagsOf)⟩ := by
  have same : splitTags = tagsOf := funext splitTags_eq
  unfold Comment.parse
  cases commentLine? text.toList with
  | none => simp
  | some parts =>
    obtain ⟨tags, words⟩ := parts
    simp [same, eq_comm]

lemma exists_parse_iff (runtime : String) : (∃ c, Comment.parse runtime text = .ok c) ↔
    ∃ parts, commentLine? text.toList = some parts := by
  constructor
  · rintro ⟨c, read⟩
    obtain ⟨tags, words, found, -⟩ := parse_eq_ok_iff.mp read
    exact ⟨_, found⟩
  · rintro ⟨⟨tags, words⟩, found⟩
    exact ⟨_, parse_eq_ok_iff.mpr ⟨tags, words, found, rfl⟩⟩

lemma plain_of_parse (read : Comment.parse runtime text = .ok c) : c.Plain := by
  obtain ⟨tags, words, found, rfl⟩ := parse_eq_ok_iff.mp read
  obtain ⟨here, -, at_place⟩ := List.exists_of_findSome?_eq_some found
  have tags_closed : ∀ inside, tags = some inside → ')' ∉ inside := by
    rintro inside rfl
    obtain ⟨no_tags, -⟩ | ⟨inside', body, -, closes, same, -⟩ := commentHere?_eq_some_iff.mp at_place
    · cases no_tags
    · cases same
      exact closes
  obtain ⟨body, words_found⟩ : ∃ body, wordsHere? body = some words := by
    obtain ⟨-, words_found⟩ | ⟨-, body, -, -, -, words_found⟩ := commentHere?_eq_some_iff.mp at_place
    · exact ⟨_, words_found⟩
    · exact ⟨body, words_found⟩
  obtain ⟨blanks, first, rest, -, -, word, words_eq⟩ := wordsHere?_eq_some_iff.mp words_found
  have not_blank := isBlank_eq_false_of_isWordChar word
  have in_line : first ≠ '\n' := by
    rintro rfl
    cases not_blank
  rw [restOfLine_cons in_line] at words_eq
  refine ⟨?_, ?_, ?_, ?_⟩
  · obtain ⟨kept, starts⟩ := trimEnd_cons not_blank (restOfLine rest)
    refine ⟨first, kept, ?_, word⟩
    rw [String.toList_ofList, words_eq, starts]
  · rw [String.toList_ofList, words_eq, ← restOfLine_cons in_line]
    intro there
    have on_line := List.mem_takeWhile_imp ((List.rdropWhile_prefix isBlank _).subset there)
    simp at on_line
  · rw [String.toList_ofList]
    exact finish_trimEnd words
  · intro list list_eq tag there
    obtain ⟨inside, rfl, rfl⟩ := Option.map_eq_some_iff.mp list_eq
    exact isTag_of_mem_tagsOf (tags_closed inside rfl) there

/-- The words of a plain comment are read as they are, with or without blanks in front of them. -/
lemma Plain.wordsHere?_eq (plain : c.Plain) (blanks : List Char)
    (blank : ∀ b ∈ blanks, isBlank b = true) :
    wordsHere? (blanks ++ c.text.toList) = some c.text.toList := by
  obtain ⟨first, rest, starts, word⟩ := plain.starts
  rw [wordsHere?_eq_some_iff]
  refine ⟨blanks, first, rest, by rw [starts], blank, word, ?_⟩
  rw [← starts, restOfLine_of_single plain.single_line]

lemma toList_canonical_of_tags {tags : List String} (tagged : c.tags = some tags) :
    c.canonical.toList =
      '(' :: ([':'].intercalate (tags.map String.toList) ++ ')' :: ([' '] ++ c.text.toList)) := by
  simp [canonical, tagged]

/-- Reading a written comment gives the comment. -/
lemma parse_canonical (plain : c.Plain) (skip : c.skip = skipsFor runtime c.tags) :
    Comment.parse runtime c.canonical = .ok c := by
  obtain ⟨list, list_eq, found⟩ : ∃ list, list.map tagsOf = c.tags ∧
      commentHere? c.canonical.toList = some (list, c.text.toList) := by
    cases tagged : c.tags with
    | none =>
      have written : c.canonical = c.text := by simp [canonical, tagged]
      have words := plain.wordsHere?_eq [] (by simp)
      rw [List.nil_append] at words
      refine ⟨none, rfl, ?_⟩
      rw [written, commentHere?_eq_some_iff]
      exact .inl ⟨rfl, words⟩
    | some tags =>
      have clean := plain.tags tags tagged
      have words := plain.wordsHere?_eq [' '] (by simp; decide)
      refine ⟨some ([':'].intercalate (tags.map String.toList)), ?_, ?_⟩
      · rw [Option.map_some, tagsOf_intercalate clean]
      · rw [toList_canonical_of_tags tagged, commentHere?_eq_some_iff]
        exact .inr ⟨_, _, rfl, paren_notMem_intercalate clean, rfl, words⟩
  rw [parse_eq_ok_iff]
  refine ⟨list, c.text.toList, ?_, ?_⟩
  · rw [commentLine?, lineStarts, List.findSome?_cons, found]
  · rw [trimEnd_of_finish plain.finish, String.ofList_toList, list_eq, ← skip]

end Comment

/-- **Comments.**  The reader of comments finds what the pattern captures.  A text is a comment
exactly if there is a line start where a tag list may follow, then blanks, and then a word character
has to.  Every comment that is read has words on one line without blanks behind them, and tags that are
trimmed, not empty and free of colons and closing parentheses.  Written back, it is read as the same
comment. -/
theorem comment_grammar_and_round_trip (views : Views) (runtime text : String) :
    commentLine? text.toList = (commentPattern.search? text.toList).map commentParts ∧
    ((∃ c, Feature.parse views runtime (.string text) = .ok (.comment c)) ↔
      ∃ here, LineStart text.toList here ∧ StartsComment here) ∧
    ∀ c, Feature.parse views runtime (.string text) = .ok (.comment c) →
      c.Plain ∧ Feature.parse views runtime (.string c.canonical) = .ok (.comment c) := by
  refine ⟨commentLine?_eq_search text.toList, ?_, ?_⟩
  · rw [← exists_commentLine?_iff, ← Comment.exists_parse_iff runtime]
    simp [Feature.parse_string_eq_ok_iff]
  · intro c read
    obtain ⟨c', comment, same⟩ := Feature.parse_string_eq_ok_iff.mp read
    cases same
    have plain := Comment.plain_of_parse comment
    have skip := Comment.skip_of_parse comment
    exact ⟨plain, Feature.parse_string_eq_ok_iff.mpr ⟨c, Comment.parse_canonical plain skip, rfl⟩⟩

/-- A list without a tag stays a list. -/
theorem list_of_separators_round_trip :
    ∃ c, Feature.parse .none "rs" (.string "-\n( :\n)\n Stats \nmore") = .ok (.comment c) ∧
      c.tags = some [] ∧ c.skip = true ∧ c.canonical = "() Stats" ∧
      Feature.parse .none "rs" (.string "() Stats") = .ok (.comment c) := by
  have found : commentLine? "-\n( :\n)\n Stats \nmore".toList =
      some (some " :\n".toList, "Stats ".toList) := by decide +kernel
  have read : Feature.parse .none "rs" (.string "-\n( :\n)\n Stats \nmore") =
      .ok (.comment ⟨"Stats", some [], true⟩) :=
    Feature.parse_string_eq_ok_iff.mpr
      ⟨_, Comment.parse_eq_ok_iff.mpr ⟨_, _, found, by decide⟩, rfl⟩
  have written : Comment.canonical ⟨"Stats", some [], true⟩ = "() Stats" := by decide
  obtain ⟨-, -, round_trip⟩ :=
    comment_grammar_and_round_trip .none "rs" "-\n( :\n)\n Stats \nmore"
  obtain ⟨-, again⟩ := round_trip _ read
  rw [written] at again
  exact ⟨_, read, rfl, rfl, written, again⟩

end Conformance
