import Mathlib.Data.List.TakeDrop
import Mathlib.Data.List.TakeWhile
import Conformance.Files.Name
import Conformance.Proofs.Text.Pattern

/-!
# Names at the end of paths

The files of a directory are asked about by paths, and a path that is made of a directory and a name
ends in that name.  So what such a file is for can be told from the name in the listing.

## Parts

* `IsEntryName` are the names that a directory can list.
* `FileName.ofPath?_joinPath` finds the name in the path.
* `HasYamlExtension` says which names are those of YAML files, and
  `FileName.isYaml_joinPath_iff` that these are the ones that are read.
-/

namespace Conformance

open Text

/-- A name that a directory can list: one part of a path, and not one that stays in place or steps
up. -/
structure IsEntryName (name : String) : Prop where
  ne_empty : name ≠ ""
  ne_here : name ≠ "."
  ne_above : name ≠ ".."
  one_part : '/' ∉ name.toList

instance (name : String) : Decidable (IsEntryName name) :=
  decidable_of_iff (name ≠ "" ∧ name ≠ "." ∧ name ≠ ".." ∧ '/' ∉ name.toList)
    ⟨fun ⟨ne_empty, ne_here, ne_above, one_part⟩ => ⟨ne_empty, ne_here, ne_above, one_part⟩,
      fun ⟨ne_empty, ne_here, ne_above, one_part⟩ => ⟨ne_empty, ne_here, ne_above, one_part⟩⟩

/-- The name ends in one of the two extensions, with something before it. -/
def HasYamlExtension (name : String) : Prop :=
  ∃ stem : List Char, stem ≠ [] ∧
    (name.toList = stem ++ ".yml".toList ∨ name.toList = stem ++ ".yaml".toList)

/-! ## Paths into a directory -/

lemma pieces_append_cons (separator : Char) (before after : List Char) :
    pieces separator (before ++ separator :: after) =
      pieces separator before ++ pieces separator after := by
  induction before with
  | nil => simp [pieces, cut]
  | cons c before ih =>
    simp only [pieces, List.cons_append, List.cons.injEq] at ih
    by_cases same : c = separator <;> simp [pieces, cut, same, ih]

lemma exists_toList_joinPath (directory name : String) :
    ∃ above, (joinPath directory name).toList = above ++ '/' :: name.toList := by
  unfold joinPath
  split
  case isTrue ends =>
    obtain ⟨above, eq⟩ := List.getLast?_eq_some_iff.mp ends
    exact ⟨above, by rw [String.toList_append, eq, List.append_assoc, List.singleton_append]⟩
  case isFalse =>
    exact ⟨directory.toList, by simp⟩

namespace FileName

/-- The name at the end of the path of an entry of a directory is the name of the entry. -/
lemma ofPath?_joinPath {name : String} (entry : IsEntryName name) (directory : String) :
    ofPath? (joinPath directory name) = some (ofName name.toList) := by
  obtain ⟨above, eq⟩ := exists_toList_joinPath directory name
  have chars_ne {other : String} (ne : name ≠ other) : name.toList ≠ other.toList :=
    fun same => ne (String.toList_injective same)
  have one_piece : pieces '/' name.toList = [name.toList] := by
    rw [pieces, cut_of_notMem entry.one_part]
  have counts : name.toList ≠ [] ∧ name.toList ≠ ['.'] :=
    ⟨chars_ne entry.ne_empty, chars_ne entry.ne_here⟩
  have not_above : name.toList ≠ ['.', '.'] := chars_ne entry.ne_above
  simp only [ofPath?, eq, pieces_append_cons, one_piece, List.filter_append, List.filter_cons,
    List.filter_nil, decide_eq_true counts, if_true, List.getLast?_concat, if_neg not_above]

end FileName

/-! ## Extensions -/

namespace FileName

/-- A name is divided at its last dot. -/
lemma ofName_append_dot {stem extension : List Char} (named : stem ≠ [])
    (last : '.' ∉ extension) :
    ofName (stem ++ '.' :: extension) =
      ⟨String.ofList stem, some (String.ofList extension)⟩ := by
  have reversed : (stem ++ '.' :: extension).reverse =
      extension.reverse ++ '.' :: stem.reverse := by
    simp
  have first : '.' ∉ extension.reverse := by simpa using last
  rw [ofName, reversed, List.span_eq_takeWhile_dropWhile, takeWhile_ne_append first,
    dropWhile_ne_append first]
  simp [named]

/-- A name that is divided is its stem, a dot and its extension. -/
lemma eq_of_ofName {name : List Char} {stem extension : String}
    (divided : ofName name = ⟨stem, some extension⟩) :
    name = stem.toList ++ '.' :: extension.toList := by
  unfold ofName at divided
  rw [List.span_eq_takeWhile_dropWhile] at divided
  have whole := List.takeWhile_append_dropWhile (p := (· ≠ '.')) (l := name.reverse)
  have stops := List.dropWhile_get_zero_not (· ≠ '.') name.reverse
  generalize List.takeWhile _ name.reverse = after at *
  cases rest : name.reverse.dropWhile (· ≠ '.') with
  | nil =>
    rw [rest] at divided
    cases divided
  | cons dot before =>
    rw [rest] at divided whole stops
    have at_dot : dot = '.' := by simpa using stops (by simp)
    dsimp only at divided
    split at divided
    · cases divided
    · obtain ⟨rfl, ends⟩ := FileName.mk.inj divided
      obtain rfl := Option.some.inj ends
      rw [← List.reverse_reverse name, ← whole, at_dot]
      simp

lemma isYaml_ofName_iff {name : String} :
    (ofName name.toList).isYaml = true ↔ HasYamlExtension name := by
  constructor
  · intro yaml
    obtain ⟨stem, extension, divided⟩ : ∃ stem extension,
        ofName name.toList = ⟨stem, extension⟩ := ⟨_, _, rfl⟩
    have extensions : extension = some "yml" ∨ extension = some "yaml" := by
      simpa [divided, isYaml] using yaml
    -- Without anything before the dot, the name would be hidden and not divided.
    rcases extensions with rfl | rfl
    · have chars := eq_of_ofName divided
      have hidden : (ofName ".yml".toList).extension = none := by decide
      refine ⟨stem.toList, fun empty => ?_, .inl chars⟩
      rw [chars, empty] at divided
      exact nomatch hidden.symm.trans (congrArg FileName.extension divided)
    · have chars := eq_of_ofName divided
      have hidden : (ofName ".yaml".toList).extension = none := by decide
      refine ⟨stem.toList, fun empty => ?_, .inr chars⟩
      rw [chars, empty] at divided
      exact nomatch hidden.symm.trans (congrArg FileName.extension divided)
  · rintro ⟨stem, named, chars | chars⟩
    · rw [chars, show ".yml".toList = '.' :: "yml".toList from rfl,
        ofName_append_dot named (by decide)]
      rfl
    · rw [chars, show ".yaml".toList = '.' :: "yaml".toList from rfl,
        ofName_append_dot named (by decide)]
      rfl

/-- The files of a directory that are read are those whose names have one of the two extensions. -/
lemma isYaml_joinPath_iff {name : String} (entry : IsEntryName name) (directory : String) :
    (ofPath? (joinPath directory name)).any isYaml = true ↔ HasYamlExtension name := by
  rw [ofPath?_joinPath entry, Option.any_some, isYaml_ofName_iff]

end FileName

end Conformance
