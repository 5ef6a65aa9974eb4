import Conformance.Proofs.Specification.SkipState

/-!
# Specifications for other runtimes

A specification is left out if its leading comment carries a tag list that does not name the
runtime.  The comment is looked at last: all entries of the first document are read before, and an
entry that cannot be read is an error of the whole specification, also if nobody was going to run
it.  What follows the first document does not matter.

## Parts

* `Readable` says that an entry can be read.
* `parseEntries_eq_error_of_first` is the error of an entry that cannot.
* `other_runtime_left_out_iff` is the result: when a specification for other runtimes is left out,
  and which error it ends in otherwise.
-/

namespace Conformance

open Yaml (Node)

/-! ## Entries that can be read -/

/-- The entry reads as a feature. -/
def Readable (runtime : String) (entry : Node) : Prop :=
  ∃ f, Feature.parse .none runtime (.ofNode entry) = .ok f

/-- Why the entry cannot be read. -/
def refusal? (runtime : String) (entry : Node) : Option Error :=
  match Feature.parse .none runtime (.ofNode entry) with
  | .ok _ => none
  | .error e => some e

lemma refusal?_eq_none_iff {runtime : String} {entry : Node} :
    refusal? runtime entry = none ↔ Readable runtime entry := by
  unfold refusal? Readable
  cases Feature.parse .none runtime (.ofNode entry) <;> simp

lemma refusal?_eq_some_iff {runtime : String} {entry : Node} {e : Error} :
    refusal? runtime entry = some e ↔ Feature.parse .none runtime (.ofNode entry) = .error e := by
  unfold refusal?
  cases Feature.parse .none runtime (.ofNode entry) <;> simp

/-- Entries are read if each of them can be. -/
lemma exists_parseEntries_iff {runtime : String} {entries : List Node} :
    (∃ features, parseEntries runtime entries = .ok features) ↔
      ∀ entry ∈ entries, Readable runtime entry := by
  simp only [parseEntries_eq_ok_iff]
  induction entries with
  | nil => simp
  | cons entry entries ih =>
    rw [List.forall_mem_cons, ← ih]
    simp only [List.forall₂_cons_left_iff]
    constructor
    · rintro ⟨_, f, rest, parsed, others, rfl⟩
      exact ⟨⟨f, parsed⟩, rest, others⟩
    · rintro ⟨⟨f, parsed⟩, rest, others⟩
      exact ⟨f :: rest, f, rest, parsed, others, rfl⟩

/-- The first entry that cannot be read is the error of all. -/
lemma parseEntries_eq_error_of_first {runtime : String} {before after : List Node} {entry : Node}
    {e : Error} (readable : ∀ other ∈ before, Readable runtime other)
    (fails : Feature.parse .none runtime (.ofNode entry) = .error e) :
    parseEntries runtime (before ++ entry :: after) = .error e := by
  unfold parseEntries
  induction before with
  | nil =>
    rw [List.nil_append, List.mapM_cons, fails]
    rfl
  | cons other before ih =>
    rw [List.forall_mem_cons] at readable
    obtain ⟨⟨f, parsed⟩, rest⟩ := readable
    rw [List.cons_append, List.mapM_cons, parsed, ih rest]
    rfl

/-! ## Leading comments -/

/-- A string that is a comment reads as that comment. -/
lemma parse_of_comment {views : Views} {runtime words : String} {c : Comment}
    (parsed : Comment.parse runtime words = .ok c) :
    Feature.parse views runtime (.string words) = .ok (.comment c) :=
  Feature.parse_string_eq_ok_iff.mpr ⟨c, parsed, rfl⟩

namespace Specification

variable {σ : Type} {h : Host σ} {runtime : String} {serial : ℕ} {entries others : List Node}

/-- Nothing is loaded past an entry that cannot be read. -/
lemma ofNodes_of_parseEntries_error {e : Error} (fails : parseEntries runtime entries = .error e) :
    ofNodes h runtime serial (.sequence entries :: others) = .error e := by
  rw [ofNodes, fails]
  rfl

/-- A specification whose entries have been read is left out if the comment in front is skipped,
before the document with the hooks is looked at. -/
lemma ofNodes_of_skipped_comment {c : Comment} {features : List Feature}
    (each : parseEntries runtime entries = .ok (.comment c :: features)) (skipped : c.skip = true) :
    ofNodes h runtime serial (.sequence entries :: others) = .ok none := by
  have unnamed : packageName? (inheritSkip false (.comment c :: features)) = .ok none := by
    rw [inheritSkip, packageName?, if_pos skipped]
  simp only [ofNodes, each, bind, Except.bind, unnamed]
  rfl

end Specification

/-! ## The result -/

/-- **Specifications for other runtimes.**  Let the first document of a stream be a sequence that
starts with a comment whose tag list does not name the runtime.  The specification is left out
without an error exactly if all further entries of that document can be read, whatever the other
documents are.  Otherwise loading ends in the error of the first entry that cannot be read. -/
theorem other_runtime_left_out_iff {σ : Type} (h : Host σ) (runtime : String) (serial : ℕ)
    (text : String) (first : Node) (entries others : List Node)
    (documents : Yaml.nodes text = .ok (.sequence (first :: entries) :: others)) (words : String)
    (is_string : Value.ofNode first = .string words) (c : Comment)
    (is_comment : Comment.parse runtime words = .ok c) (for_others : MeantForOthers runtime c.tags) :
    (Specification.load h runtime serial text = .ok none ↔
      ∀ entry ∈ entries, Readable runtime entry) ∧
    ∀ before entry after e, entries = before ++ entry :: after →
      (∀ other ∈ before, Readable runtime other) →
      Feature.parse .none runtime (.ofNode entry) = .error e →
      Specification.load h runtime serial text = .error e := by
  have leads : Feature.parse .none runtime (.ofNode first) = .ok (.comment c) := by
    rw [is_string]
    exact parse_of_comment is_comment
  have skipped : c.skip = true := by
    have own : c.skip = skipsFor runtime c.tags := skip_of_parse leads
    rw [own]
    exact skipsFor_iff.mpr for_others
  have load_eq : Specification.load h runtime serial text =
      Specification.ofNodes h runtime serial (.sequence (first :: entries) :: others) := by
    rw [Specification.load, documents]
  rw [load_eq]
  refine ⟨⟨fun left_out => ?_, fun readable => ?_⟩, ?_⟩
  · cases each : parseEntries runtime (first :: entries) with
    | error e =>
      rw [Specification.ofNodes_of_parseEntries_error each] at left_out
      cases left_out
    | ok features =>
      have all := exists_parseEntries_iff.mp ⟨features, each⟩
      exact fun entry there => all entry (List.mem_cons_of_mem _ there)
  · obtain ⟨features, each⟩ := exists_parseEntries_iff.mpr readable
    have with_first : parseEntries runtime (first :: entries) = .ok (.comment c :: features) :=
      parseEntries_eq_ok_iff.mpr (.cons leads (parseEntries_eq_ok_iff.mp each))
    exact Specification.ofNodes_of_skipped_comment with_first skipped
  · rintro before entry after e rfl readable fails
    have from_first : ∀ other ∈ first :: before, Readable runtime other :=
      List.forall_mem_cons.mpr ⟨⟨_, leads⟩, readable⟩
    exact Specification.ofNodes_of_parseEntries_error
      (parseEntries_eq_error_of_first from_first fails)

/-! ### Streams for another runtime -/

/-- The words of a first document with a string in front, and what keeps the entries behind it from
being read. -/
def outline (runtime : String) : List Node → Option (String × List (Option Error))
  | .sequence (.string words :: entries) :: _ => some (words, entries.map (refusal? runtime))
  | _ => none

lemma exists_of_outline {runtime text words : String} {refusals : List (Option Error)}
    (seen : (Yaml.nodes text).toOption.bind (outline runtime) = some (words, refusals)) :
    ∃ entries others, Yaml.nodes text = .ok (.sequence (.string words :: entries) :: others) ∧
      entries.map (refusal? runtime) = refusals := by
  obtain ⟨nodes, read, seen⟩ := Option.bind_eq_some_iff.mp seen
  have documents : Yaml.nodes text = .ok nodes := by
    cases read_as : Yaml.nodes text with
    | error fault =>
      rw [read_as] at read
      cases read
    | ok nodes' =>
      rw [read_as] at read
      cases read
      rfl
  unfold outline at seen
  split at seen
  · rename_i words' entries others
    cases seen
    exact ⟨entries, others, documents, rfl⟩
  · cases seen

/-- A comment for other runtimes, an assignment, and hooks that are no mapping. -/
def leftOutText : String :=
  "- (py:js) Others\n- x=: 1\n---\n5\n"

/-- The same comment and assignment, with an entry behind them that is no feature. -/
def unreadableText : String :=
  "- (py:js) Others\n- x=: 1\n- \"==\": 1\n- 5\n"

lemma unreadableText_outline : (Yaml.nodes unreadableText).toOption.bind (outline "rs") =
    some ("(py:js) Others", [none, some (.malformedFeature "=="), some (.notAFeature "5")]) := by
  decide +kernel

theorem leftOutText_is_left_out :
    (∃ entries others, Yaml.nodes leftOutText =
        .ok (.sequence (.string "(py:js) Others" :: entries) :: others) ∧
      (∀ entry ∈ entries, Readable "rs" entry) ∧
      Specification.load emptyHost "rs" 0 leftOutText = .ok none) ∧
    Specification.load emptyHost "rs" 0 unreadableText = .error (.malformedFeature "==") := by
  obtain ⟨c, is_comment, tags⟩ : ∃ c, Comment.parse "rs" "(py:js) Others" = .ok c ∧
      c.tags = some ["py", "js"] := ⟨_, rfl, rfl⟩
  have for_others : MeantForOthers "rs" c.tags := ⟨_, tags, by decide⟩
  constructor
  · have seen : (Yaml.nodes leftOutText).toOption.bind (outline "rs") =
        some ("(py:js) Others", [none]) := by decide +kernel
    obtain ⟨entries, others, documents, refusals⟩ := exists_of_outline seen
    have readable : ∀ entry ∈ entries, Readable "rs" entry := by
      intro entry there
      have among := List.mem_map_of_mem (f := refusal? "rs") there
      rw [refusals, List.mem_singleton] at among
      exact refusal?_eq_none_iff.mp among
    exact ⟨entries, others, documents, readable, (other_runtime_left_out_iff emptyHost "rs" 0 _ _ _ _
      documents _ rfl c is_comment for_others).1.mpr readable⟩
  · obtain ⟨entries, others, documents, refusals⟩ := exists_of_outline unreadableText_outline
    obtain ⟨first, rest, rfl, first_read, rest_refusals⟩ := List.map_eq_cons_iff.mp refusals
    obtain ⟨second, later, rfl, second_fails, -⟩ := List.map_eq_cons_iff.mp rest_refusals
    refine (other_runtime_left_out_iff emptyHost "rs" 0 _ _ _ _ documents _ rfl c is_comment
      for_others).2 [first] second later _ rfl ?_ (refusal?_eq_some_iff.mp second_fails)
    rw [List.forall_mem_singleton]
    exact refusal?_eq_none_iff.mp first_read

/-- It is not so that a specification for other runtimes is always left out without an error. -/
theorem unreadable_entry_is_not_left_out :
    ¬ ∀ (runtime text : String) (first : Node) (entries others : List Node) (words : String)
      (c : Comment), Yaml.nodes text = .ok (.sequence (first :: entries) :: others) →
      Value.ofNode first = .string words → Comment.parse runtime words = .ok c →
      MeantForOthers runtime c.tags →
      Specification.load emptyHost runtime 0 text = .ok none := by
  intro always
  obtain ⟨entries, others, documents, -⟩ := exists_of_outline unreadableText_outline
  obtain ⟨c, is_comment, tags⟩ : ∃ c, Comment.parse "rs" "(py:js) Others" = .ok c ∧
      c.tags = some ["py", "js"] := ⟨_, rfl, rfl⟩
  have left_out := always "rs" unreadableText _ entries others _ c documents rfl is_comment
    ⟨_, tags, by decide⟩
  have refused : (Specification.load emptyHost "rs" 0 unreadableText).toBool = false := by
    decide +kernel
  rw [left_out] at refused
  cases refused

end Conformance
