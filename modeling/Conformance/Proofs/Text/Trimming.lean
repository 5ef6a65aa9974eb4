import Mathlib.Data.List.DropRight
import Conformance.Text.Blank
import Conformance.Text.WordChar

/-!
# Trimmed texts

All that is read from an entry is trimmed, and what is empty then counts as absent.  Trimming at both
ends is done once for most parts of an entry, but a property is trimmed again at its end when its mark
is stripped, and a comment is trimmed at its end only, because its start is found by another rule.

## Parts

* `Trimmed` says that a text has no blank at either end, `trimmed_trim` that trimming gives such a
  text, and `trim_of_trimmed` that it leaves one alone.
* `nonEmpty?_eq_some_iff` and `nonEmpty?_eq_none_iff` say what is present.
* `isWordChar_eq_false_of_isBlank` keeps the two classes of the grammar apart.
-/

namespace Conformance.Text

/-! ## The two ends -/

/-- There is no blank at either end. -/
structure Trimmed (text : List Char) : Prop where
  start : ∀ c, text.head? = some c → isBlank c = false
  finish : ∀ c, text.getLast? = some c → isBlank c = false

variable {text : List Char}

lemma trimStart_cons_of_blank {c : Char} (blank : isBlank c = true) (rest : List Char) :
    trimStart (c :: rest) = trimStart rest :=
  List.dropWhile_cons_of_pos blank

lemma trimStart_of_start (start : ∀ c, text.head? = some c → isBlank c = false) :
    trimStart text = text := by
  cases text with
  | nil => rfl
  | cons c rest =>
    refine List.dropWhile_cons_of_neg ?_
    simp [start c rfl]

lemma trimStart_subset (text : List Char) : trimStart text ⊆ text :=
  (List.dropWhile_suffix isBlank).subset

/-- What is cut off in front are blanks. -/
lemma exists_blanks_append (text : List Char) :
    ∃ blanks, text = blanks ++ trimStart text ∧ ∀ b ∈ blanks, isBlank b = true :=
  ⟨text.takeWhile isBlank, List.takeWhile_append_dropWhile.symm,
    List.all_eq_true.mp List.all_takeWhile⟩

/-- Cutting blanks off in front stops at the latest at a character that is none. -/
lemma trimStart_append {c : Char} (not_blank : isBlank c = false) (before rest : List Char) :
    trimStart (before ++ c :: rest) = trimStart before ++ c :: rest := by
  induction before with
  | nil => exact List.dropWhile_cons_of_neg (by simp [not_blank])
  | cons b before ih =>
    by_cases blank : isBlank b = true
    · rw [List.cons_append, trimStart_cons_of_blank blank, ih, trimStart_cons_of_blank blank]
    · rw [trimStart, trimStart, List.cons_append, List.dropWhile_cons_of_neg blank,
        List.dropWhile_cons_of_neg blank, List.cons_append]

lemma trimStart_of_blanks {blanks : List Char} (blank : ∀ b ∈ blanks, isBlank b = true) {c : Char}
    (not_blank : isBlank c = false) (rest : List Char) :
    trimStart (blanks ++ c :: rest) = c :: rest := by
  have gone : trimStart blanks = [] := List.dropWhile_eq_nil_iff.mpr blank
  rw [trimStart_append not_blank, gone, List.nil_append]

lemma start_trimStart (text : List Char) :
    ∀ c, (trimStart text).head? = some c → isBlank c = false := by
  intro c first
  have head := List.head?_dropWhile_not isBlank text
  rw [trimStart] at first
  rw [first] at head
  exact head

lemma trimEnd_eq_rdropWhile (text : List Char) : trimEnd text = text.rdropWhile isBlank := rfl

lemma finish_trimEnd (text : List Char) :
    ∀ c, (trimEnd text).getLast? = some c → isBlank c = false := by
  intro c last
  obtain ⟨front, ends⟩ := List.getLast?_eq_some_iff.mp last
  have not_blank := List.rdropWhile_last_not isBlank text (by
    rw [← trimEnd_eq_rdropWhile, ends]
    simp)
  simp only [← trimEnd_eq_rdropWhile, ends] at not_blank
  simpa using not_blank

/-- Trimming at the end does not touch the start. -/
lemma head?_trimEnd {c : Char} (first : (trimEnd text).head? = some c) : text.head? = some c := by
  obtain ⟨cut, whole⟩ := List.rdropWhile_prefix isBlank text
  rw [← whole, List.head?_append, ← trimEnd_eq_rdropWhile, first]
  rfl

lemma trimEnd_of_finish (finish : ∀ c, text.getLast? = some c → isBlank c = false) :
    trimEnd text = text := by
  rw [trimEnd_eq_rdropWhile, List.rdropWhile_eq_self_iff]
  intro filled
  have not_blank := finish _ (List.getLast?_eq_some_getLast filled)
  simp [not_blank]

lemma trimEnd_eq_nil_iff : trimEnd text = [] ↔ ∀ c ∈ text, isBlank c = true :=
  List.rdropWhile_eq_nil_iff

/-- A text that starts with a character other than a blank is not trimmed away. -/
lemma trimEnd_cons {c : Char} (not_blank : isBlank c = false) (rest : List Char) :
    ∃ kept, trimEnd (c :: rest) = c :: kept := by
  cases trimmed : trimEnd (c :: rest) with
  | nil =>
    have blank := trimEnd_eq_nil_iff.mp trimmed c List.mem_cons_self
    simp [not_blank] at blank
  | cons c' kept =>
    have first : (c :: rest).head? = some c' := head?_trimEnd (by rw [trimmed]; rfl)
    cases first
    exact ⟨kept, rfl⟩

/-! ## Trimming at both ends -/

lemma trimmed_trimEnd (start : ∀ c, text.head? = some c → isBlank c = false) :
    Trimmed (trimEnd text) where
  start c first := start c (head?_trimEnd first)
  finish := finish_trimEnd text

lemma trimmed_trim (text : List Char) : Trimmed (trim text) :=
  trimmed_trimEnd (start_trimStart text)

lemma trim_of_trimmed (trimmed : Trimmed text) : trim text = text := by
  rw [trim, trimStart_of_start trimmed.start, trimEnd_of_finish trimmed.finish]

/-- Blanks in front make no difference. -/
lemma trim_trimStart (text : List Char) : trim (trimStart text) = trim text := by
  rw [trim, trimStart_of_start (start_trimStart text), trim]

lemma trim_cons_of_blank {c : Char} (blank : isBlank c = true) (rest : List Char) :
    trim (c :: rest) = trim rest := by
  rw [trim, trimStart_cons_of_blank blank, trim]

lemma trim_eq_nil_iff : trim text = [] ↔ ∀ c ∈ text, isBlank c = true := by
  rw [trim, trimEnd_eq_nil_iff]
  constructor
  · intro blank c there
    obtain ⟨blanks, whole, blanks_blank⟩ := exists_blanks_append text
    rw [whole, List.mem_append] at there
    obtain before | behind := there
    · exact blanks_blank c before
    · exact blank c behind
  · intro blank c there
    exact blank c (trimStart_subset text there)

lemma trim_subset (text : List Char) : trim text ⊆ text := by
  intro c there
  have front : c ∈ trimStart text := (List.rdropWhile_prefix isBlank _).subset there
  exact trimStart_subset text front

/-! ## What is present -/

lemma nonEmpty?_eq_some_iff {s : String} :
    nonEmpty? text = some s ↔ s.toList = trim text ∧ s ≠ "" := by
  rw [nonEmpty?]
  cases kept : trim text with
  | nil =>
    simp only [reduceCtorEq, String.toList_eq_nil_iff, false_iff, not_and, not_not]
    exact id
  | cons c rest =>
    simp only [Option.some.injEq]
    constructor
    · rintro rfl
      simp
    · rintro ⟨same, -⟩
      rw [← same, String.ofList_toList]

lemma trimmed_of_nonEmpty? {s : String} (present : nonEmpty? text = some s) :
    Trimmed s.toList ∧ s ≠ "" := by
  obtain ⟨kept, filled⟩ := nonEmpty?_eq_some_iff.mp present
  rw [kept]
  exact ⟨trimmed_trim text, filled⟩

lemma nonEmpty?_eq_none_iff : nonEmpty? text = none ↔ trim text = [] := by
  rw [nonEmpty?]
  cases trim text <;> simp

/-- What counts is the trimmed text. -/
lemma nonEmpty?_congr {text' : List Char} (same : trim text = trim text') :
    nonEmpty? text = nonEmpty? text' := by
  rw [nonEmpty?, nonEmpty?, same]

/-! ## Blanks and word characters -/

/-- The blanks as a table of ranges. -/
def blankRanges : List (ℕ × ℕ) :=
  [(9, 13), (0x20, 0x20), (0x85, 0x85), (0xA0, 0xA0), (0x1680, 0x1680), (0x2000, 0x200A),
    (0x2028, 0x2029), (0x202F, 0x202F), (0x205F, 0x205F), (0x3000, 0x3000)]

lemma inRanges_iff {ranges : List (ℕ × ℕ)} {c : Char} :
    inRanges ranges c = true ↔ ∃ range ∈ ranges, range.1 ≤ c.toNat ∧ c.toNat ≤ range.2 := by
  simp [inRanges]

lemma inRanges_blankRanges {c : Char} (blank : isBlank c = true) :
    inRanges blankRanges c = true := by
  simp only [isBlank, Bool.or_eq_true, Bool.and_eq_true, decide_eq_true_eq, beq_iff_eq] at blank
  simp only [inRanges_iff, blankRanges, List.mem_cons, List.not_mem_nil, or_false, exists_eq_or_imp,
    exists_eq_left]
  omega

lemma isWordChar_eq_false_of_isBlank {c : Char} (blank : isBlank c = true) :
    isWordChar c = false := by
  have apart : ∀ b ∈ blankRanges, ∀ w ∈ wordRanges, b.2 < w.1 ∨ w.2 < b.1 := by decide +kernel
  by_contra word
  rw [Bool.not_eq_false, isWordChar, inRanges_iff] at word
  obtain ⟨w, w_there, w_le, le_w⟩ := word
  obtain ⟨b, b_there, b_le, le_b⟩ := inRanges_iff.mp (inRanges_blankRanges blank)
  have := apart b b_there w w_there
  omega

lemma isBlank_eq_false_of_isWordChar {c : Char} (word : isWordChar c = true) : isBlank c = false := by
  by_contra blank
  simp [isWordChar_eq_false_of_isBlank (by simpa using blank)] at word

end Conformance.Text
