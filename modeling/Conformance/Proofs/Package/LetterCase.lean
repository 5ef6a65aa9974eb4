import Conformance.CommandLine.Program
import Conformance.Proofs.Package.Merging
import Conformance.Proofs.Text.LowerCase

/-!
# Letter case in an import

An import brings the names of the packages into lower case, and takes the name that it is asked for
as it is written.  So the name of a package does not matter up to letter case, and the name in the
call has to be in lower case already: a package is not found under its own name if that name has a
capital.

## Parts

* `Host.importing` is the call, `Host.Finds` says that it returns something, and `Host.Registers`
  that a package has the name if letter case is ignored.
* `Host.finds_iff` says when the call returns something.
* `Host.IgnoresCase` is what letter case should not matter for, and `import_ignores_case_iff` says
  when it does not.
-/

namespace Conformance

open Package

/-- A name that is its own lower-case form. -/
def InLowerCase (name : String) : Prop :=
  Text.lowerCase name = name

namespace Host

variable {σ : Type} (h : Host σ)

/-! ## The call -/

/-- The call of the import function of a scope with one name. -/
def importing (serial : ℕ) (name : String) : HostM σ Value :=
  h.invoke ⟨Scope.importName, .importer serial⟩ [.string name]

/-- The import returns something. -/
def Finds (serial : ℕ) (name : String) (w : World σ) : Prop :=
  ∃ v w', h.importing serial name w = .ok v w'

/-- The name of a registered package is the given one if letter case is ignored. -/
def Registers (name : String) : Prop :=
  ∃ package ∈ h.packages, Text.lowerCase package.name = Text.lowerCase name

lemma importing_eq (serial : ℕ) (name : String) :
    h.importing serial name = .object <$> importFrom h.packages name := rfl

variable {h} {serial : ℕ} {i j : String} {w : World σ}

lemma importing_of_not_named (none_found : named h.packages i = []) :
    h.importing serial i w = .error (.importFailed i) w := by
  rw [importing_eq, ← bind_pure_comp]
  exact bind_of_error (importFrom_of_not_named none_found w)

lemma finds_iff_named : h.Finds serial i w ↔ named h.packages i ≠ [] := by
  constructor
  · rintro ⟨v, w', ok⟩ none_found
    rw [importing_of_not_named none_found] at ok
    cases ok
  · intro found
    have answers := importFrom_of_named found w
    rw [Finds, importing_eq, ← bind_pure_comp, bind_of_ok answers]
    exact ⟨_, _, rfl⟩

lemma registers_congr (same : Text.lowerCase i = Text.lowerCase j) :
    h.Registers i ↔ h.Registers j := by
  rw [Registers, Registers, same]

lemma named_eq_nil_of_not_registers (unknown : ¬ h.Registers i) : named h.packages i = [] := by
  rw [named_eq_nil_iff]
  rintro package there rfl
  exact unknown ⟨package, there, (Text.lowerCase_lowerCase package.name).symm⟩

/-- A name is found exactly if a package has it up to letter case and it is in lower case. -/
lemma finds_iff : h.Finds serial i w ↔ h.Registers i ∧ InLowerCase i := by
  rw [finds_iff_named, ne_eq, named_eq_nil_iff]
  constructor
  · intro found
    simp only [not_forall, not_not] at found
    obtain ⟨package, there, rfl⟩ := found
    have settled := Text.lowerCase_lowerCase package.name
    exact ⟨⟨package, there, settled.symm⟩, settled⟩
  · rintro ⟨⟨package, there, same⟩, lower⟩ others
    exact others package there (same.trans lower)

/-! ## Letter case that does not matter -/

/-- Two imports return the same value and leave the same world, or neither finds a package. -/
def SameOutcome (h : Host σ) (serial : ℕ) (i j : String) (w : World σ) : Prop :=
  (∃ v w', h.importing serial i w = .ok v w' ∧ h.importing serial j w = .ok v w') ∨
    (h.importing serial i w = .error (.importFailed i) w ∧
      h.importing serial j w = .error (.importFailed j) w)

/-- What letter case should not matter for: two names of one lower-case form have the same outcome,
and both are found if and only if a package has the name up to letter case. -/
structure IgnoresCase (h : Host σ) (serial : ℕ) (i j : String) (w : World σ) : Prop where
  same_outcome : h.SameOutcome serial i j w
  first_found : h.Finds serial i w ↔ h.Registers i
  second_found : h.Finds serial j w ↔ h.Registers j

lemma ignoresCase_self (h : Host σ) (serial : ℕ) (lower : InLowerCase i) (w : World σ) :
    h.IgnoresCase serial i i w := by
  have found_iff : h.Finds serial i w ↔ h.Registers i := by
    rw [finds_iff]
    exact and_iff_left lower
  refine ⟨?_, found_iff, found_iff⟩
  by_cases found : named h.packages i = []
  · exact .inr ⟨importing_of_not_named found, importing_of_not_named found⟩
  · obtain ⟨v, w', ok⟩ : h.Finds serial i w := finds_iff_named.mpr found
    exact .inl ⟨v, w', ok, ok⟩

/-- Where there is no package to be found, all names are alike. -/
lemma ignoresCase_of_not_registers (same : Text.lowerCase i = Text.lowerCase j)
    (unknown : ¬ h.Registers i) : h.IgnoresCase serial i j w := by
  have other_unknown : ¬ h.Registers j := mt (registers_congr same).mpr unknown
  refine ⟨.inr ⟨importing_of_not_named (named_eq_nil_of_not_registers unknown),
    importing_of_not_named (named_eq_nil_of_not_registers other_unknown)⟩, ?_, ?_⟩
  · exact iff_of_false (fun found => unknown (finds_iff.mp found).1) unknown
  · exact iff_of_false (fun found => other_unknown (finds_iff.mp found).1) other_unknown

end Host

/-! ## The result -/

/-- **When an import ignores letter case.**  For two names with the same lower-case form an import
ignores letter case exactly if both are in lower case already, so that they are one name, or no
package has the name in any letter case.  In general a name is found exactly if a package has it up
to letter case and it is in lower case.  So the lower-case form of a name is found exactly if a
package has the name up to letter case, and a package is found under its own name exactly if that is
in lower case. -/
theorem import_ignores_case_iff {σ : Type} (h : Host σ) (serial : ℕ) (w : World σ) {i j : String}
    (same : Text.lowerCase i = Text.lowerCase j) :
    (h.IgnoresCase serial i j w ↔ (h.Registers i → InLowerCase i ∧ InLowerCase j)) ∧
    (∀ name, h.Finds serial name w ↔ h.Registers name ∧ InLowerCase name) ∧
    (h.Finds serial (Text.lowerCase i) w ↔ h.Registers i) ∧
    ∀ package ∈ h.packages, h.Finds serial package.name w ↔ InLowerCase package.name := by
  refine ⟨⟨?_, ?_⟩, fun _ => Host.finds_iff, ?_, ?_⟩
  · intro ignored registered
    have first := ignored.first_found.mpr registered
    have second := ignored.second_found.mpr ((Host.registers_congr same).mp registered)
    exact ⟨(Host.finds_iff.mp first).2, (Host.finds_iff.mp second).2⟩
  · intro lower
    by_cases registered : h.Registers i
    · obtain ⟨first, second⟩ := lower registered
      obtain rfl : i = j := first.symm.trans (same.trans second)
      exact h.ignoresCase_self serial first w
    · exact Host.ignoresCase_of_not_registers same registered
  · have settled := Text.lowerCase_lowerCase i
    rw [Host.finds_iff, Host.registers_congr settled]
    exact and_iff_left settled
  · intro package there
    rw [Host.finds_iff]
    exact and_iff_right ⟨package, there, rfl⟩

/-! ### A package with a capital -/

/-- A host with one package, whose name has a capital. -/
def geometryHost : Host Unit :=
  { emptyHost with packages := [⟨"Geometry", pure [("SCALE", .int 3)]⟩] }

lemma geometry_lowerCase : Text.lowerCase "Geometry" = "geometry" := by
  decide +kernel

lemma same_lowerCase : Text.lowerCase "geometry" = Text.lowerCase "Geometry" := by
  decide +kernel

lemma geometryHost_registers : geometryHost.Registers "geometry" :=
  ⟨⟨"Geometry", pure [("SCALE", .int 3)]⟩, List.mem_singleton_self _, same_lowerCase.symm⟩

lemma not_inLowerCase_geometry : ¬ InLowerCase "Geometry" := by
  rw [InLowerCase, geometry_lowerCase]
  decide

/-- The package is found in lower case, and not under its own name. -/
theorem geometry_imported_in_lower_case :
    Text.lowerCase "geometry" = Text.lowerCase "Geometry" ∧
    geometryHost.Finds 0 "geometry" ⟨[], ()⟩ ∧ ¬ geometryHost.Finds 0 "Geometry" ⟨[], ()⟩ := by
  obtain ⟨-, finds_iff, -, -⟩ := import_ignores_case_iff geometryHost 0 ⟨[], ()⟩ same_lowerCase
  have settled : InLowerCase "geometry" := same_lowerCase.trans geometry_lowerCase
  refine ⟨same_lowerCase, (finds_iff _).mpr ⟨geometryHost_registers, settled⟩, fun found => ?_⟩
  exact not_inLowerCase_geometry ((finds_iff _).mp found).2

/-- Letter case matters: the same package is found under one name and not under the other. -/
theorem not_import_ignores_case :
    ¬ ∀ (h : Host Unit) (serial : ℕ) (w : World Unit) (i j : String),
      Text.lowerCase i = Text.lowerCase j → h.IgnoresCase serial i j w := by
  intro always
  have ignored := always geometryHost 0 ⟨[], ()⟩ "geometry" "Geometry" same_lowerCase
  have registered := (Host.registers_congr same_lowerCase).mp geometryHost_registers
  have found := Host.finds_iff.mp (ignored.second_found.mpr registered)
  exact not_inLowerCase_geometry found.2

end Conformance
