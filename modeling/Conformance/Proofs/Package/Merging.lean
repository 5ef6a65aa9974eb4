import Conformance.Proofs.Action
import Conformance.Proofs.Assoc

/-!
# What an import brings in

Any number of packages may have the name that is imported.  Their exports are asked for in the order
of registration, each in the world that the ones before left, and merged into one mapping.  Nothing
but the absence of such a package makes the import fail: a package that exports nothing is found all
the same.

## Parts

* `Package.named` are the packages that an import finds, and `Package.exportsInTurn` are their
  exports before they are merged.
* `Package.ExportsOnce` says that what a package exports is a mapping, with each name once.
* `Package.importFrom_of_named` and `Package.importFrom_of_not_named` are the two outcomes.
* `imports_merged_in_order` is the result.
-/

namespace Conformance

namespace Package

variable {σ : Type}

/-! ## Finding packages -/

/-- The packages whose lower-case name is the given one, in the order of their registration. -/
def named (packages : List (Package σ)) (name : String) : List (Package σ) :=
  packages.filter fun package => Text.lowerCase package.name == name

lemma named_eq_nil_iff {packages : List (Package σ)} {name : String} :
    named packages name = [] ↔ ∀ package ∈ packages, Text.lowerCase package.name ≠ name := by
  simp [named]

lemma mem_of_mem_named {packages : List (Package σ)} {package : Package σ} {name : String}
    (there : package ∈ named packages name) : package ∈ packages :=
  List.mem_of_mem_filter there

lemma named_of_ne {before after : List (Package σ)} {package : Package σ} {name : String}
    (other : Text.lowerCase package.name ≠ name) :
    named (before ++ package :: after) name = named (before ++ after) name := by
  simp [named, other]

/-! ## Exporting one after the other -/

/-- The exports of the packages, one after the other. -/
def exportsInTurn (packages : List (Package σ)) : StateM (World σ) (List Mapping) :=
  packages.mapM Package.exports

/-- In no world does the package export two values under one name. -/
def ExportsOnce (package : Package σ) : Prop :=
  ∀ w, (package.exports.run w).1.keys.Nodup

lemma exportsInTurn_cons (package : Package σ) (rest : List (Package σ)) :
    exportsInTurn (package :: rest) = do
      let exports ← package.exports
      let others ← exportsInTurn rest
      return exports :: others :=
  List.mapM_cons

lemma nodup_of_mem_exportsInTurn {packages : List (Package σ)}
    (once : ∀ package ∈ packages, package.ExportsOnce) (w : World σ) :
    ∀ exports ∈ ((exportsInTurn packages).run w).1, exports.keys.Nodup := by
  induction packages generalizing w with
  | nil => exact List.forall_mem_nil _
  | cons package rest ih =>
    obtain ⟨first_once, rest_once⟩ := List.forall_mem_cons.mp once
    rw [exportsInTurn_cons]
    exact List.forall_mem_cons.mpr ⟨first_once w, ih rest_once (package.exports.run w).2⟩

lemma mergeExports_eq (packages : List (Package σ)) (merged : Mapping) :
    mergeExports packages merged =
      (fun mappings => mappings.foldl Assoc.merge merged) <$> exportsInTurn packages := by
  induction packages generalizing merged with
  | nil => rfl
  | cons package rest ih =>
    rw [mergeExports, exportsInTurn_cons]
    simp only [ih, map_bind, bind_pure_comp, Functor.map_map, List.foldl_cons]

/-! ## The two outcomes -/

lemma importFrom_of_not_named {packages : List (Package σ)} {name : String}
    (none_found : named packages name = []) (w : World σ) :
    importFrom packages name w = .error (.importFailed name) w := by
  rw [named] at none_found
  rw [importFrom, none_found]
  rfl

lemma importFrom_of_named {packages : List (Package σ)} {name : String}
    (found : named packages name ≠ []) (w : World σ) :
    importFrom packages name w =
      .ok (((exportsInTurn (named packages name)).run w).1.foldl Assoc.merge [])
        ((exportsInTurn (named packages name)).run w).2 := by
  have merging : importFrom packages name = .ofState (mergeExports (named packages name) []) := by
    rw [named] at found ⊢
    unfold importFrom
    split
    · contradiction
    · rfl
  rw [merging, mergeExports_eq, HostM.ofState_apply]
  rfl

/-- An import depends on the packages that it finds. -/
lemma importFrom_congr {packages others : List (Package σ)} {name : String}
    (same : named packages name = named others name) :
    importFrom packages name = importFrom others name := by
  unfold importFrom
  rw [named, named] at same
  rw [same]

end Package

/-! ## The result -/

open Package

/-- **What an import brings in.**  Importing a name ends in an error exactly if no package has it as
its lower-case name; the error then says so, and the world stays as it is.  Otherwise the packages
with that lower-case name export one after the other, in the order of their registration, and one
mapping is returned.  Its keys are all the exported names, each once and in the order of first
appearance, and a key reads what the last of these packages that has it exports.  A package with
another lower-case name might as well not be registered. -/
theorem imports_merged_in_order {σ : Type} (packages : List (Package σ))
    (once : ∀ package ∈ packages, package.ExportsOnce) (name : String) (w : World σ) :
    (∀ e w', importFrom packages name w = .error e w' ↔
      (∀ package ∈ packages, Text.lowerCase package.name ≠ name) ∧
        e = .importFailed name ∧ w' = w) ∧
    ((∃ package ∈ packages, Text.lowerCase package.name = name) →
      ∃ merged mappings w', importFrom packages name w = .ok merged w' ∧
        (exportsInTurn (named packages name)).run w = (mappings, w') ∧
        merged.keys = (mappings.flatMap Assoc.keys).eraseDups ∧ merged.keys.Nodup ∧
        ∀ key, merged.get? key = mappings.reverse.findSome? fun exports => exports.get? key) ∧
    ∀ before package after, packages = before ++ package :: after →
      Text.lowerCase package.name ≠ name →
      importFrom packages name = importFrom (before ++ after) name := by
  refine ⟨?_, ?_, ?_⟩
  · intro e w'
    rw [← named_eq_nil_iff]
    by_cases none_found : named packages name = []
    · simp [importFrom_of_not_named none_found, none_found, eq_comm]
    · simp [importFrom_of_named none_found, none_found]
  · rintro ⟨package, there, same⟩
    have found : named packages name ≠ [] := fun none_found =>
      named_eq_nil_iff.mp none_found package there same
    have found_once : ∀ package ∈ named packages name, package.ExportsOnce :=
      fun package there => once package (mem_of_mem_named there)
    refine ⟨_, ((exportsInTurn (named packages name)).run w).1, _, importFrom_of_named found w, rfl,
      Assoc.keys_foldl_merge _, ?_, fun key => ?_⟩
    · rw [Assoc.foldl_merge]
      exact Assoc.nodup_keys_ofList _
    · have distinct := nodup_of_mem_exportsInTurn found_once w
      rw [Assoc.get?_foldl_merge distinct, Assoc.get?, Option.or_none]
  · rintro before package after rfl other
    exact importFrom_congr (named_of_ne other)

/-! ### Two packages of one name -/

/-- A package that counts the imports it takes part in and exports the count under two names. -/
def countingPackage (name first second : String) : Package ℕ where
  name := name
  exports := do
    modify fun w => { w with state := w.state + 1 }
    let w ← get
    return [(first, .int (.ofNat w.state)), (second, .int (.ofNat (10 * w.state)))]

lemma countingPackage_exportsOnce {name first second : String} (differ : first ≠ second) :
    (countingPackage name first second).ExportsOnce := by
  intro w
  change [first, second].Nodup
  simp [differ]

/-- The names of two packages that differ in letter case are the same to an import, and one of
another name stands between them. -/
def shapePackages : List (Package ℕ) :=
  [countingPackage "Shape" "area" "size", countingPackage "Solid" "size" "mass",
    countingPackage "SHAPE" "name" "area"]

lemma lowerCase_shape : Text.lowerCase "Shape" = "shape" := by
  decide +kernel

lemma named_shapePackages : named shapePackages "shape" =
    [countingPackage "Shape" "area" "size", countingPackage "SHAPE" "name" "area"] := by
  have second : Text.lowerCase "Solid" ≠ "shape" := by decide +kernel
  have third : Text.lowerCase "SHAPE" = "shape" := by decide +kernel
  simp [shapePackages, named, countingPackage, lowerCase_shape, second, third]

/-- The later package has the last word on the shared name, which keeps its place. -/
theorem shape_packages_merged :
    (∀ package ∈ shapePackages, package.ExportsOnce) ∧
    ∃ merged w', importFrom shapePackages "shape" ⟨[], 0⟩ = .ok merged w' ∧
      merged.keys = ["area", "size", "name"] ∧ merged.get? "area" = some (.int 20) ∧
      merged.get? "size" = some (.int 10) ∧ merged.get? "mass" = none := by
  have once : ∀ package ∈ shapePackages, package.ExportsOnce := by
    intro package there
    simp only [shapePackages, List.mem_cons, List.not_mem_nil, or_false] at there
    obtain rfl | rfl | rfl := there <;> exact countingPackage_exportsOnce (by decide)
  obtain ⟨-, imported, -⟩ := imports_merged_in_order shapePackages once "shape" ⟨[], 0⟩
  obtain ⟨merged, mappings, w', ok, exported, keys, -, values⟩ :=
    imported ⟨_, List.mem_cons_self, lowerCase_shape⟩
  rw [named_shapePackages] at exported
  obtain ⟨rfl, -⟩ := Prod.mk.inj exported
  exact ⟨once, merged, w', ok, keys, values "area", values "size", values "mass"⟩

end Conformance
