import Conformance.Report.Console
import Conformance.Proofs.Feature.Comments
import Conformance.Proofs.Feature.LeftSides
import Conformance.Proofs.Run.Attempt
import Conformance.Proofs.Value.BareText

/-!
# One line for each feature

Reports show a feature by its text.  The words of a comment end with their line, and so does the
property of a test; strings and keys are quoted.  Nothing of this kind holds of the target of a test,
of the names of keyword arguments and of the texts that values write as they are, so a line feed in
one of these comes out in the text and breaks the line of the report.

## Parts

* `Test.newline_mem_line_iff` finds the line feeds in the text of a test.
* `Test.Unbroken` says that no part of a test brings one in.
* `Event.headline` is the line of an event in the report, and `Event.reason` what follows it.
* `feature_on_one_line_iff` is the result.
-/

namespace Conformance

open Text

/-! ## Properties -/

lemma newline_notMem_restOfLine (text : List Char) : '\n' ∉ restOfLine text := by
  intro mem
  simpa using List.mem_takeWhile_imp mem

/-- A property may start with a line feed, which is trimmed, and has no other. -/
lemma newline_notMem_property {text property : List Char} {name : String}
    (stands : propertyHere text = some property) (kept : nonEmpty? property = some name) :
    '\n' ∉ name.toList := by
  cases text with
  | nil => cases stands
  | cons c rest =>
    cases stands
    obtain ⟨name_eq, -⟩ := nonEmpty?_eq_some_iff.mp kept
    rw [name_eq]
    intro mem
    by_cases newline : c = '\n'
    · subst newline
      rw [trim_cons_of_blank (by decide)] at mem
      exact newline_notMem_restOfLine rest (trim_subset _ mem)
    · rcases List.mem_cons.mp (trim_subset _ mem) with first | later
      · exact newline first.symm
      · exact newline_notMem_restOfLine rest later

lemma exists_propertyHere_of_splitBody {body property : List Char} {target : Option (List Char)}
    (split : splitBody body = (target, some property)) :
    ∃ text, propertyHere text = some property := by
  unfold splitBody at split
  split at split <;> exact ⟨_, (Prod.mk.inj split).2⟩

lemma exists_propertyHere_of_body? {text property : List Char} {target : Option (List Char)}
    (found : body? text = some (target, some property)) :
    ∃ text, propertyHere text = some property := by
  unfold body? at found
  dsimp only at found
  split at found
  · cases found
  · exact exists_propertyHere_of_splitBody (Option.some.inj found)

lemma exists_propertyHere_of_leftSide? {text property : List Char} {side : LeftSide}
    (found : leftSide? text = some side) (present : side.property = some property) :
    ∃ text, propertyHere text = some property := by
  obtain ⟨here, -, found⟩ := List.exists_of_findSome?_eq_some found
  rw [leftSideHere?_eq, Option.or_eq_some_iff] at found
  have of_body {text : List Char} {body : Option (List Char) × Option (List Char)}
      (read : body? text = some body) (same : body.2 = some property) :
      ∃ text, propertyHere text = some property := by
    obtain ⟨target, behind⟩ := body
    obtain rfl : behind = some property := same
    exact exists_propertyHere_of_body? read
  rcases found with tagged | ⟨-, untagged⟩
  · obtain ⟨list, -, tagged⟩ := Option.bind_eq_some_iff.mp tagged
    obtain ⟨body, read, rfl⟩ := Option.map_eq_some_iff.mp tagged
    exact of_body read present
  · obtain ⟨body, read, rfl⟩ := Option.map_eq_some_iff.mp untagged
    exact of_body read present

namespace Test

variable {views : Views} {runtime left : String} {right : Value} {t : Test}

/-- The property of a test is on one line. -/
lemma newline_notMem_property_of_parse (read : Test.parse views runtime left right = .ok t)
    {name : String} (reads : t.property = some name) : '\n' ∉ name.toList := by
  obtain ⟨side, found, -, made⟩ := exists_side_of_parse read
  have clean : ∀ whole, side.parts.property = some whole → '\n' ∉ whole.toList := by
    intro whole present
    obtain ⟨property, stands, kept⟩ := Option.bind_eq_some_iff.mp present
    obtain ⟨text, here⟩ := exists_propertyHere_of_leftSide? found stands
    exact newline_notMem_property here kept
  have uses := made.property
  generalize property_eq : side.parts.property = property at uses
  cases uses with
  | absent name_eq _ =>
    rw [name_eq] at reads
    cases reads
  | @marked whole stem ends name_eq _ =>
    rw [name_eq, Option.some.injEq] at reads
    rw [← reads, String.toList_ofList]
    intro mem
    refine clean whole property_eq ?_
    rw [ends]
    exact List.mem_append_left _ ((List.rdropWhile_prefix isBlank stem).subset mem)
  | unmarked _ name_eq _ =>
    rw [name_eq] at reads
    exact clean name (property_eq.trans reads)

/-! ## The text of a test -/

lemma text_of_parse (read : Test.parse views runtime left right = .ok t) :
    t.text = Test.line views t.assign t.property t.call ⟨t.args, t.kwargs, t.result⟩ := by
  unfold Test.parse at read
  split at read
  · cases read
  · dsimp only at read
    split at read
    · cases read
    · cases read
      rfl

variable (views)

lemma newline_notMem_of_isNull {v : Value} (null : v.isNull = true) :
    '\n' ∉ (v.render views).toList := by
  cases v with
  | null =>
    rw [Value.render, String.toList_ofList, Value.renderUpTo_eq]
    exact Value.newline_notMem_null _
  | _ => cases null

lemma newline_notMem_of_isError {v : Value} (error : v.isError = true) :
    '\n' ∉ (v.render views).toList := by
  cases v with
  | string s =>
    rw [Value.render, String.toList_ofList, Value.renderUpTo_eq]
    exact Value.newline_notMem_string _ s
  | _ => cases error

lemma newline_mem_argumentList_iff (args : List Value) (kwargs : Mapping) :
    '\n' ∈ (argumentList views args kwargs).toList ↔
      (∃ v ∈ args, '\n' ∈ (v.render views).toList) ∨
      ∃ entry ∈ kwargs, '\n' ∈ entry.1.toList ∨ '\n' ∈ (entry.2.render views).toList := by
  have separator : '\n' ∉ ", ".toList := by decide
  have equals : '\n' ∉ "=".toList := by decide
  rw [argumentList, String.toList_intercalate, mem_intercalate_iff separator]
  simp only [List.map_append, List.map_map, List.mem_append, List.mem_map, or_and_right, exists_or,
    exists_exists_and_eq_and, Function.comp_apply, String.toList_append, equals, or_false]

lemma newline_mem_called_iff (subject arguments : String) (call : Bool) :
    '\n' ∈ (if call then subject ++ "(" ++ arguments ++ ")" else subject).toList ↔
      '\n' ∈ subject.toList ∨ call = true ∧ '\n' ∈ arguments.toList := by
  cases call <;> simp

/-- What a test expects is shown if there is a property and it is not null. -/
lemma newline_mem_expecting_iff (called : String) (expects : Bool) (result : Value) :
    '\n' ∈ (if expects && !result.isNull then
        called ++ " == " ++ (if result.isError then "ERROR" else result.render views)
      else called).toList ↔
      '\n' ∈ called.toList ∨ expects = true ∧ '\n' ∈ (result.render views).toList := by
  have shown : '\n' ∈ (if result.isError then "ERROR" else result.render views).toList ↔
      '\n' ∈ (result.render views).toList := by
    split
    case isTrue error => exact iff_of_false (by decide) (newline_notMem_of_isError views error)
    case isFalse => rfl
  cases expects with
  | false => simp
  | true =>
    by_cases null : result.isNull = true
    · simp [null, newline_notMem_of_isNull views null]
    · simp [null, shown]

/-- The line feeds in the line of a test come from its parts. -/
lemma newline_mem_line_iff (assign property : Option String) (call : Bool) (payload : Payload) :
    '\n' ∈ (Test.line views assign property call payload).toList ↔
      (∃ target, assign = some target ∧ '\n' ∈ target.toList) ∨
      (∃ name, property = some name ∧ '\n' ∈ name.toList) ∨
      (call = true ∧ '\n' ∈ (argumentList views payload.args payload.kwargs).toList) ∨
      ((assign.isSome = true ∨ property.isSome = true) ∧
        '\n' ∈ (payload.result.render views).toList) := by
  unfold Test.line
  dsimp only
  rw [newline_mem_expecting_iff, newline_mem_called_iff]
  cases property with
  | none => cases assign <;> simp [or_comm, or_left_comm]
  | some name => cases assign <;> simp [or_assoc]

/-- All values of a test: its expected result, its arguments and its keyword arguments. -/
def values (t : Test) : List Value :=
  t.result :: (t.args ++ t.kwargs.map Prod.snd)

/-- No part of the test brings a line feed into its text. -/
structure Unbroken (views : Views) (t : Test) : Prop where
  target : ∀ target, t.assign = some target → '\n' ∉ target.toList
  keywords : ∀ entry ∈ t.kwargs, '\n' ∉ entry.1.toList
  values : ∀ v ∈ t.values, ∀ text, v.WritesBare views.data views.depth text → '\n' ∉ text.toList

variable {views}

lemma Unbroken.newline_notMem_render (unbroken : t.Unbroken views) {v : Value}
    (mem : v ∈ t.values) : '\n' ∉ (v.render views).toList := by
  rw [Value.newline_mem_render_iff]
  rintro ⟨text, bare, newline⟩
  exact unbroken.values v mem text bare newline

lemma mem_values_of_arg {v : Value} (mem : v ∈ t.args) : v ∈ t.values :=
  List.mem_cons_of_mem _ (List.mem_append_left _ mem)

lemma mem_values_of_keyword {entry : String × Value} (mem : entry ∈ t.kwargs) :
    entry.2 ∈ t.values :=
  List.mem_cons_of_mem _ (List.mem_append_right _ (List.mem_map_of_mem mem))

/-- Arguments that are not called with are none at all, and so they have no text either. -/
lemma newline_mem_argumentList_of_orderly (orderly : t.Orderly) :
    '\n' ∈ (argumentList views t.args t.kwargs).toList ↔
      t.call = true ∧ '\n' ∈ (argumentList views t.args t.kwargs).toList := by
  refine ⟨fun newline => ⟨?_, newline⟩, And.right⟩
  by_contra uncalled
  obtain ⟨no_args, no_kwargs⟩ := orderly.uncalled (Bool.not_eq_true _ ▸ uncalled)
  rw [no_args, no_kwargs] at newline
  simp [argumentList] at newline

/-- The text of a test is one line exactly if no part of the test brings a line feed in. -/
lemma newline_notMem_text_iff (read : Test.parse views runtime left right = .ok t) :
    '\n' ∉ t.text.toList ↔ t.Unbroken views := by
  have orderly := orderly_of_parse read
  rw [text_of_parse read, newline_mem_line_iff, ← newline_mem_argumentList_of_orderly orderly,
    newline_mem_argumentList_iff]
  constructor
  · intro clean
    simp only [not_or] at clean
    obtain ⟨target, -, ⟨args, keywords⟩, result⟩ := clean
    refine ⟨fun name assigned newline => target ⟨name, assigned, newline⟩,
      fun entry mem newline => keywords ⟨entry, mem, .inl newline⟩, ?_⟩
    intro v mem text bare newline
    have shown := (Value.newline_mem_render_iff views v).mpr ⟨text, bare, newline⟩
    rcases List.mem_cons.mp mem with rfl | mem
    · exact result ⟨orderly.aims, shown⟩
    · rcases List.mem_append.mp mem with arg | keyword
      · exact args ⟨v, arg, shown⟩
      · obtain ⟨entry, there, rfl⟩ := List.mem_map.mp keyword
        exact keywords ⟨entry, there, .inr shown⟩
  · rintro unbroken (⟨target, assigned, newline⟩ | ⟨name, reads, newline⟩ |
      (⟨v, arg, newline⟩ | ⟨entry, keyword, newline | newline⟩) | ⟨-, newline⟩)
    · exact unbroken.target target assigned newline
    · exact newline_notMem_property_of_parse read reads newline
    · exact unbroken.newline_notMem_render (mem_values_of_arg arg) newline
    · exact unbroken.keywords entry keyword newline
    · exact unbroken.newline_notMem_render (mem_values_of_keyword keyword) newline
    · exact unbroken.newline_notMem_render List.mem_cons_self newline

end Test

/-! ## The line in the report -/

namespace Event

/-- The line that shows the text of a feature. -/
def headline : Event → String
  | fail text _ => " ✘  " ++ text
  | event => event.block

/-- What follows that line: the reason of a failure. -/
def reason : Event → String
  | fail _ failure => failure.text ++ "\n"
  | _ => ""

end Event

lemma Console.output_write (c : Console) (event : Event) :
    (c.write event).output = c.output ++ (if c.last.any (· ≠ event.kind) then "\n" else "") ++
      event.headline ++ "\n" ++ event.reason := by
  cases event with
  | fail text failure => simp [write, Event.block, Event.headline, Event.reason, String.append_assoc]
  | _ => simp [write, Event.headline, Event.reason]

lemma ReportedBy.newline_mem_headline_iff {f : Feature} {event : Event}
    (reported : ReportedBy f event) : '\n' ∈ event.headline.toList ↔ '\n' ∈ f.text.toList := by
  cases reported <;> simp [Event.headline, Event.block, Feature.text]

/-! ## The result -/

lemma Feature.newline_notMem_text_iff {views : Views} {runtime : String} {raw : Value} {f : Feature}
    (parsed : Feature.parse views runtime raw = .ok f) :
    '\n' ∉ f.text.toList ↔ ∀ t, f = .test t → t.Unbroken views := by
  match raw, parsed with
  | .string text, parsed =>
    obtain ⟨c, read, rfl⟩ := parse_string_eq_ok_iff.mp parsed
    exact iff_of_true (Comment.plain_of_parse read).single_line fun _ test => nomatch test
  | .object [(left, right)], parsed =>
    obtain ⟨t, read, rfl⟩ := parse_object_eq_ok_iff.mp parsed
    rw [text, Test.newline_notMem_text_iff read]
    simp only [Feature.test.injEq, forall_eq']
  | .null, parsed | .bool _, parsed | .int _, parsed | .float _, parsed | .array _, parsed
  | .object [], parsed | .object (_ :: _ :: _), parsed | .function _, parsed | .cls _, parsed
  | .inst _, parsed => cases parsed

/-- **Features on one line.**  The text of a comment that is read has no line feed.  That of a test
has none exactly if there is no line feed in its target, in the name of a keyword argument or in a
text that one of its values writes as it is: the path of a reference node at any depth, and the names
of host objects.  Exactly then a report shows the feature in one line, with an empty line in front of
it if the kind of line changes, and the reason of a failure behind it. -/
theorem feature_on_one_line_iff (views : Views) (runtime : String) (raw : Value) (f : Feature)
    (parsed : Feature.parse views runtime raw = .ok f) :
    ('\n' ∉ f.text.toList ↔ ∀ t, f = .test t → t.Unbroken views) ∧
    ∀ (c : Console) (event : Event), ReportedBy f event →
      (c.write event).output = c.output ++ (if c.last.any (· ≠ event.kind) then "\n" else "") ++
        event.headline ++ "\n" ++ event.reason ∧
      ('\n' ∉ event.headline.toList ↔ ∀ t, f = .test t → t.Unbroken views) := by
  have whole := Feature.newline_notMem_text_iff parsed
  refine ⟨whole, fun c event reported => ⟨c.output_write event, ?_⟩⟩
  rw [reported.newline_mem_headline_iff]
  exact whole

/-! ### Parts on two lines -/

/-- A call with a reference and a keyword argument, both with a line feed in their names. -/
def twoLineCall : Value :=
  .object [("f", .array [.reference "a\nb", .object [("k\nl=", .int 1)]])]

/-- The call comes out on three lines. -/
theorem two_line_call_broken :
    ∃ t, Feature.parse .none "rs" twoLineCall = .ok (.test t) ∧ t.text = "f(a\nb, k\nl=1)" ∧
      ¬ t.Unbroken .none := by
  obtain ⟨t, parsed, text⟩ : ∃ t, Feature.parse .none "rs" twoLineCall = .ok (.test t) ∧
      t.text = "f(a\nb, k\nl=1)" := ⟨_, rfl, by decide +kernel⟩
  refine ⟨t, parsed, text, fun unbroken => ?_⟩
  obtain ⟨single_line, -⟩ := feature_on_one_line_iff .none "rs" twoLineCall (.test t) parsed
  have clean := single_line.mpr fun t' same => Feature.test.inj same ▸ unbroken
  rw [Feature.text, text] at clean
  exact clean (by decide)

/-- It is not so that the text of every feature is one line: the target may be on two. -/
theorem not_feature_on_one_line :
    ¬ ∀ (views : Views) (runtime : String) (raw : Value) (f : Feature),
      Feature.parse views runtime raw = .ok f → '\n' ∉ f.text.toList := by
  intro always
  obtain ⟨t, parsed, text⟩ : ∃ t, Feature.parse .none "rs" (.object [("foo\nx=", .int 1)]) =
      .ok (.test t) ∧ t.text = "foo\nx = 1" := ⟨_, rfl, by decide +kernel⟩
  have clean := always .none "rs" _ _ parsed
  rw [Feature.text, text] at clean
  exact clean (by decide)

end Conformance
