import Conformance.Fixture.Tree
import Conformance.Proofs.Files.Found
import Conformance.Proofs.Files.Name

/-!
# The search without a path

Without a path, the package files of the working directory are meant, and the directory of
specifications only if there are none.  Which files these are is decided twice.  The search goes by
the stem of a name and takes any extension; loading goes by the extension and passes over what is
not YAML.  So a file that is never loaded can end the search, and then nothing is loaded at all.

## Parts

* `FileSystem.StaysInPlace` says that a leading step that stays in place makes no difference to
  where a path leads.
* `Specification.search_here` says that the search at such a path is the search without the step.
* `FileName.eq_of_isPackage_of_isYaml` says which names are those of package files and of YAML as
  well, and `FileSystem.HasFile` which regular files are in the working directory.
* `Specification.search_of_packageFile` and its neighbours say what the search without a path comes
  to, and `default_search_falls_back_iff` is the result.
-/

namespace Conformance

open Text

/-! ## A step that stays in place -/

/-- A path that starts from the working directory. -/
def Relative (path : String) : Prop :=
  ∃ c rest, path.toList = c :: rest ∧ c ≠ '/'

lemma Relative.joinPath {directory : String} (relative : Relative directory) (name : String) :
    Relative (joinPath directory name) := by
  obtain ⟨c, rest, chars, not_slash⟩ := relative
  unfold Conformance.joinPath
  split
  · exact ⟨c, rest ++ name.toList, by simp [chars], not_slash⟩
  · exact ⟨c, rest ++ '/' :: name.toList, by simp [chars], not_slash⟩

lemma joinPath_here {directory : String} (relative : Relative directory) (name : String) :
    joinPath ("./" ++ directory) name = "./" ++ joinPath directory name := by
  obtain ⟨c, rest, chars, -⟩ := relative
  have last : ("./" ++ directory).toList.getLast? = directory.toList.getLast? := by
    simp [chars, List.getLast?_cons]
  unfold joinPath
  rw [last]
  split <;> simp [String.append_assoc]

lemma joinPath_dot (name : String) : joinPath "." name = "./" ++ name := by
  rw [joinPath, if_neg (by decide)]
  rfl

/-- The step does not belong to the name at the end of a path. -/
lemma FileName.ofPath?_here (path : String) :
    FileName.ofPath? ("./" ++ path) = FileName.ofPath? path := by
  have parts : pieces '/' ("./" ++ path).toList = ['.'] :: pieces '/' path.toList := by
    simp [pieces, cut]
  rw [ofPath?, ofPath?, parts]
  simp

/-! ## The names of package files -/

namespace FileName

lemma ofName_of_ofPath? {name : String} {file : FileName} (plain : '/' ∉ name.toList)
    (found : ofPath? name = some file) : ofName name.toList = file := by
  have parts : pieces '/' name.toList = [name.toList] := by
    rw [pieces, cut_of_notMem plain]
  rw [ofPath?, parts] at found
  by_cases counts : name.toList ≠ [] ∧ name.toList ≠ ['.']
  · simp only [List.filter_cons, List.filter_nil, decide_eq_true counts, if_true,
      List.getLast?_singleton] at found
    split at found
    · cases found
    · exact Option.some.inj found
  · simp only [List.filter_cons, List.filter_nil, decide_eq_false counts] at found
    cases found

/-- There are two names of package files that are YAML. -/
lemma eq_of_isPackage_of_isYaml {name : String} (plain : '/' ∉ name.toList)
    (package : (ofPath? name).any isPackage = true) (yaml : (ofPath? name).any isYaml = true) :
    name = "package.yml" ∨ name = "package.yaml" := by
  cases found : ofPath? name with
  | none =>
    rw [found] at package
    cases package
  | some file =>
    obtain ⟨stem, extension⟩ := file
    rw [found, Option.any_some] at package yaml
    have divided := ofName_of_ofPath? plain found
    obtain rfl : stem = "package" := by simpa [isPackage] using package
    have extensions : extension = some "yml" ∨ extension = some "yaml" := by
      simpa [isYaml] using yaml
    rcases extensions with rfl | rfl
    · exact .inl (String.toList_injective (eq_of_ofName divided))
    · exact .inr (String.toList_injective (eq_of_ofName divided))

end FileName

/-! ## Searching at a path that stays in place -/

section Here

variable {m : Type → Type} [Monad m] (fs : FileSystem m)

/-- A leading step that stays in place makes no difference to where a path leads. -/
structure FileSystem.StaysInPlace : Prop where
  kind : ∀ path, Relative path → fs.kind? ("./" ++ path) = fs.kind? path
  entries : ∀ path, Relative path → fs.entries ("./" ++ path) = fs.entries path
  read : ∀ path, Relative path → fs.read ("./" ++ path) = fs.read path

variable {fs} [LawfulMonad m]

namespace FileSystem

lemma sortedFiles_relative {directory : String} (relative : Relative directory)
    (wanted : String → Bool) :
    FilesM.Answers (fun found => ∀ path ∈ found, Relative path)
      (fs.sortedFiles directory wanted) := by
  refine (FilesM.answers_trivial _).bind fun names _ => ?_
  refine (FilesM.answers_trivial _).bind fun regular _ => FilesM.answers_pure ?_
  rintro path there
  obtain ⟨name, -, rfl⟩ := List.mem_map.mp there
  exact relative.joinPath name

lemma filesAt_relative {path : String} (relative : Relative path) :
    FilesM.Answers (fun found => ∀ file ∈ found, Relative file) (fs.filesAt path) := by
  refine (FilesM.answers_trivial _).bind fun kind _ => ?_
  split
  · exact FilesM.answers_pure (by simpa using relative)
  · exact sortedFiles_relative relative _
  · exact FilesM.answers_pure (by simp)

section

variable (here : fs.StaysInPlace)
include here

omit [LawfulMonad m] in
lemma regularFiles_here {directory : String} (relative : Relative directory) (names : List String) :
    fs.regularFiles ("./" ++ directory) names = fs.regularFiles directory names := by
  induction names with
  | nil => rfl
  | cons name rest ih =>
    rw [regularFiles, regularFiles, isFile, isFile, joinPath_here relative,
      here.kind _ (relative.joinPath name), ih]

lemma sortedFiles_here {directory : String} (relative : Relative directory)
    (wanted : String → Bool) :
    fs.sortedFiles ("./" ++ directory) wanted =
      List.map ("./" ++ ·) <$> fs.sortedFiles directory wanted := by
  have paths (names : List String) : names.map (joinPath ("./" ++ directory)) =
      (names.map (joinPath directory)).map ("./" ++ ·) := by
    simp [joinPath_here relative]
  rw [sortedFiles, sortedFiles, here.entries _ relative]
  simp only [regularFiles_here here relative, paths, map_bind, map_pure]

lemma filesAt_here {path : String} (relative : Relative path) :
    fs.filesAt ("./" ++ path) = List.map ("./" ++ ·) <$> fs.filesAt path := by
  rw [filesAt, filesAt, here.kind _ relative, map_bind]
  refine bind_congr fun kind => ?_
  split
  · simp
  · exact sortedFiles_here here relative _
  · simp

end

end FileSystem

namespace Specification

variable {σ : Type} (h : Host σ) (runtime : String)

section

variable (here : fs.StaysInPlace)
include here

omit [LawfulMonad m] in
lemma ofFile_here (serial : ℕ) {path : String} (relative : Relative path) :
    ofFile fs h runtime serial ("./" ++ path) = ofFile fs h runtime serial path := by
  rw [ofFile, ofFile, FileName.ofPath?_here, FileSystem.text, FileSystem.text,
    here.read _ relative]

omit [LawfulMonad m] in
lemma ofFiles_here (serial : ℕ) (paths : List String) (relative : ∀ path ∈ paths, Relative path) :
    ofFiles fs h runtime serial (paths.map ("./" ++ ·)) = ofFiles fs h runtime serial paths := by
  induction paths generalizing serial with
  | nil => rfl
  | cons path rest ih =>
    obtain ⟨first, later⟩ := List.forall_mem_cons.mp relative
    rw [List.map_cons, ofFiles, ofFiles, ofFile_here h runtime here serial first,
      ih (serial + 1) later]

/-- A leading step that stays in place makes no difference to the search. -/
lemma search_here {path : String} (relative : Relative path) :
    search fs h runtime (some ("./" ++ path)) = search fs h runtime (some path) := by
  rw [search, search, FileSystem.candidates, FileSystem.candidates,
    FileSystem.filesAt_here here relative, bind_map_left]
  exact (FileSystem.filesAt_relative relative).bind_congr fun paths all =>
    ofFiles_here h runtime here 0 paths all

end

/-- Files that are not YAML by their names are passed over. -/
lemma ofFiles_of_not_yaml (serial : ℕ) (paths : List String)
    (others : ∀ path ∈ paths, (FileName.ofPath? path).any FileName.isYaml = false) :
    ofFiles fs h runtime serial paths = pure [] := by
  induction paths generalizing serial with
  | nil => rfl
  | cons path rest ih =>
    obtain ⟨first, later⟩ := List.forall_mem_cons.mp others
    rw [ofFiles, ofFile, first, ih (serial + 1) later]
    simp

/-- The search without a path loads the package files of the working directory, or searches at the
default directory if there are none. -/
lemma search_default (here : fs.StaysInPlace) :
    search fs h runtime none = (do
      let packages ← fs.sortedFiles "." FileSystem.isPackageFile
      if packages.isEmpty then search fs h runtime (some FileSystem.defaultDirectory)
      else ofFiles fs h runtime 0 packages) := by
  have joined : joinPath "." FileSystem.defaultDirectory =
      "./" ++ FileSystem.defaultDirectory := by
    decide +kernel
  have relative : Relative FileSystem.defaultDirectory :=
    ⟨'p', "ackspec".toList, by decide +kernel, by decide⟩
  rw [← search_here h runtime here relative, ← joined, search, FileSystem.candidates, bind_assoc]
  refine bind_congr fun packages => ?_
  split
  · rfl
  · rw [pure_bind]

end Specification

end Here

/-! ## Searching without a path -/

section Snapshot

variable {fs : FileSystem Id}

namespace FileSystem

/-- The name is listed in the working directory as that of a regular file. -/
def HasFile (fs : FileSystem Id) (name : String) : Prop :=
  ∃ names, Id.run (fs.entries ".") = .ok names ∧ name ∈ names ∧
    Id.run (fs.kind? (joinPath "." name)) = some .file

instance (fs : FileSystem Id) (name : String) : Decidable (fs.HasFile name) :=
  match listed : Id.run (fs.entries ".") with
  | .ok names =>
    decidable_of_iff (name ∈ names ∧ Id.run (fs.kind? (joinPath "." name)) = some .file)
      ⟨fun found => ⟨names, listed, found⟩, fun ⟨_, listed', found⟩ => by
        obtain rfl := Except.ok.inj (listed'.symm.trans listed)
        exact found⟩
  | .error _ => .isFalse fun ⟨_, listed', _⟩ => nomatch listed'.symm.trans listed

lemma HasFile.mem {name : String} (found : fs.HasFile name) {names : List String}
    (listed : Id.run (fs.entries ".") = .ok names) : name ∈ names := by
  obtain ⟨_, listed', there, -⟩ := found
  exact Except.ok.inj (listed'.symm.trans listed) ▸ there

lemma regularFiles_eq_filter (directory : String) (names : List String) :
    fs.regularFiles directory names = pure (names.filter fun name =>
      Id.run (fs.kind? (joinPath directory name)) == some .file) := by
  induction names with
  | nil => rfl
  | cons name rest ih =>
    rw [regularFiles, ih, List.filter_cons]
    rfl

lemma sortedFiles_of_listed {directory : String} {names : List String}
    (listed : Id.run (fs.entries directory) = .ok names) (wanted : String → Bool) :
    fs.sortedFiles directory wanted = pure ((((names.filter fun name =>
      Id.run (fs.kind? (joinPath directory name)) == some .file).filter wanted).mergeSort
        (· ≤ ·)).map (joinPath directory)) := by
  have answered : fs.entries directory = pure (.ok names) := listed
  rw [sortedFiles, orError, answered]
  simp only [liftM_pure, pure_bind, regularFiles_eq_filter]

/-- The package files that the search finds. -/
lemma exists_packageFiles {names : List String} (listed : Id.run (fs.entries ".") = .ok names) :
    ∃ packages : List String,
      fs.sortedFiles "." isPackageFile = pure (packages.map (joinPath ".")) ∧
      ∀ name, name ∈ packages ↔ fs.HasFile name ∧ isPackageFile name = true := by
  refine ⟨_, sortedFiles_of_listed listed _, fun name => ?_⟩
  rw [List.mem_mergeSort, List.mem_filter, List.mem_filter, beq_iff_eq]
  constructor
  · rintro ⟨⟨there, is_file⟩, package⟩
    exact ⟨⟨names, listed, there, is_file⟩, package⟩
  · rintro ⟨found, package⟩
    obtain ⟨-, -, -, is_file⟩ := id found
    exact ⟨⟨found.mem listed, is_file⟩, package⟩

end FileSystem

namespace Specification

variable {σ : Type} (h : Host σ) (runtime : String)

lemma search_of_no_packageFile (here : fs.StaysInPlace) {names : List String}
    (listed : Id.run (fs.entries ".") = .ok names)
    (others : ∀ name, fs.HasFile name → FileSystem.isPackageFile name = false) :
    search fs h runtime none = search fs h runtime (some FileSystem.defaultDirectory) := by
  obtain ⟨packages, sorted, mem_packages⟩ := FileSystem.exists_packageFiles listed
  have empty : packages = [] := by
    refine List.eq_nil_iff_forall_not_mem.mpr fun name there => ?_
    obtain ⟨found, package⟩ := (mem_packages name).mp there
    rw [others name found] at package
    cases package
  rw [search_default h runtime here, sorted, empty, pure_bind, List.map_nil, List.isEmpty_nil,
    if_pos rfl]

/-- The package files end the search, also if none of them is read. -/
lemma search_of_packageFile (here : fs.StaysInPlace)
    (plain : ∀ name, fs.HasFile name → '/' ∉ name.toList)
    (no_yml : ¬fs.HasFile "package.yml") (no_yaml : ¬fs.HasFile "package.yaml") {name : String}
    (found : fs.HasFile name) (package : FileSystem.isPackageFile name = true) :
    search fs h runtime none = pure [] := by
  obtain ⟨names, listed, -⟩ := id found
  obtain ⟨packages, sorted, mem_packages⟩ := FileSystem.exists_packageFiles listed
  have some_package : (packages.map (joinPath ".")).isEmpty = false := by
    rw [List.isEmpty_map]
    exact List.isEmpty_eq_false_iff_exists_mem.mpr ⟨name, (mem_packages name).mpr ⟨found, package⟩⟩
  have not_yaml : ∀ path ∈ packages.map (joinPath "."),
      (FileName.ofPath? path).any FileName.isYaml = false := by
    intro path there
    obtain ⟨other, among, rfl⟩ := List.mem_map.mp there
    obtain ⟨other_found, other_package⟩ := (mem_packages other).mp among
    rw [joinPath_dot, FileName.ofPath?_here]
    -- A package file that is YAML would be one of the two that are not there.
    refine eq_false_of_ne_true fun yaml => ?_
    rcases FileName.eq_of_isPackage_of_isYaml (plain other other_found) other_package yaml with
      rfl | rfl
    · exact no_yml other_found
    · exact no_yaml other_found
  rw [search_default h runtime here, sorted, pure_bind, some_package,
    if_neg Bool.false_ne_true, ofFiles_of_not_yaml h runtime 0 _ not_yaml]

lemma search_of_unlisted {reason : String} (unlisted : Id.run (fs.entries ".") = .error reason) :
    search fs h runtime none = throw (.io reason) := by
  have answered : fs.entries "." = pure (.error reason) := unlisted
  rw [search, FileSystem.candidates, FileSystem.sortedFiles, FileSystem.orError, answered]
  rfl

end Specification

/-! ## The result -/

/-- **The search without a path.**  Let the working directory hold neither of the two package files
that are YAML.  If its names can be listed, then the search without a path is the search at the
default directory exactly if no other file has the stem of a package file, or nothing is found at
the default directory anyway.  One such file is enough for the search to find nothing.  If the names
cannot be listed, that is the error of the search. -/
theorem default_search_falls_back_iff {σ : Type} (h : Host σ) (runtime : String)
    (fs : FileSystem Id) (here : fs.StaysInPlace)
    (plain : ∀ name, fs.HasFile name → '/' ∉ name.toList)
    (no_yml : ¬fs.HasFile "package.yml") (no_yaml : ¬fs.HasFile "package.yaml") :
    (∀ names, Id.run (fs.entries ".") = .ok names →
      (Specification.search fs h runtime none =
          Specification.search fs h runtime (some FileSystem.defaultDirectory) ↔
        (∀ name, fs.HasFile name → FileSystem.isPackageFile name = false) ∨
        Specification.search fs h runtime (some FileSystem.defaultDirectory) = pure [])) ∧
    (∀ name, fs.HasFile name → FileSystem.isPackageFile name = true →
      Specification.search fs h runtime none = pure []) ∧
    ∀ reason, Id.run (fs.entries ".") = .error reason →
      Specification.search fs h runtime none = throw (.io reason) := by
  refine ⟨fun names listed => ?_, fun name found package => ?_, fun reason unlisted => ?_⟩
  · by_cases others : ∀ name, fs.HasFile name → FileSystem.isPackageFile name = false
    · have falls_back := Specification.search_of_no_packageFile h runtime here listed others
      exact ⟨fun _ => .inl others, fun _ => falls_back⟩
    · obtain ⟨name, found, package⟩ : ∃ name, fs.HasFile name ∧
          FileSystem.isPackageFile name = true := by
        simpa using others
      rw [Specification.search_of_packageFile h runtime here plain no_yml no_yaml found package]
      exact ⟨fun same => .inr same.symm, fun either => (either.resolve_left others).symm⟩
  · exact Specification.search_of_packageFile h runtime here plain no_yml no_yaml found package
  · exact Specification.search_of_unlisted h runtime unlisted

end Snapshot

/-! ### Trees with and without package files -/

namespace Fixture.FileTree

lemma find_of_parts {tree : FileTree} {path part : String} {rest : List String}
    (parts_eq : parts path = part :: rest) (named : part ≠ "") :
    tree.find path = walk [] tree (part :: rest) := by
  unfold find
  rw [parts_eq]
  split
  · next empty => cases empty
  · next starts => exact absurd (List.cons.inj starts).1 named
  · next same => rw [← same]

lemma find_here (tree : FileTree) {path : String} (relative : Relative path) :
    tree.find ("./" ++ path) = tree.find path := by
  obtain ⟨c, chars, path_eq, not_slash⟩ := relative
  obtain ⟨part, rest, parts_eq, named⟩ : ∃ part rest, parts path = part :: rest ∧ part ≠ "" :=
    ⟨String.ofList (c :: (cut '/' chars).1), (cut '/' chars).2.map String.ofList,
      by simp [parts, pieces, cut, path_eq, not_slash],
      fun empty => by simpa using congrArg String.toList empty⟩
  have parts_here : parts ("./" ++ path) = "." :: part :: rest := by
    rw [← parts_eq]
    simp [parts, pieces, cut]
  rw [find_of_parts parts_here (by decide), find_of_parts parts_eq named]
  cases tree <;> simp [walk]

/-- Nothing in a tree depends on a step that stays in place. -/
lemma system_staysInPlace (tree : FileTree) : tree.system.StaysInPlace := by
  constructor <;> intro path relative <;> simp only [system, find_here tree relative]

/-- A working directory with a specification in the default directory, and with a directory that has
the name of a package file. -/
def besideDirectory : FileTree :=
  .build [("package.yml", none), ("notes.txt", some "notes".toUTF8),
    ("packspec/one.yml", some "- One\n".toUTF8)]

/-- The same specification beside a package file that is not YAML. -/
def besidePackage : FileTree :=
  .build [("package.txt", some "notes".toUTF8), ("packspec/one.yml", some "- One\n".toUTF8)]

lemma besidePackage_plain {name : String} (found : besidePackage.system.HasFile name) :
    '/' ∉ name.toList := by
  have listed : Id.run (besidePackage.system.entries ".") = .ok ["package.txt", "packspec"] := by
    decide +kernel
  have all : ∀ name ∈ ["package.txt", "packspec"], '/' ∉ name.toList := by decide +kernel
  exact all name (found.mem listed)

end Fixture.FileTree

open Fixture

/-- The packages that are found. -/
def foundPackages (found : FilesM Id (List Specification)) : Option (List String) :=
  (Id.run found.run).toOption.map (List.map Specification.package)

lemma foundPackages_besidePackage :
    foundPackages (Specification.search FileTree.besidePackage.system emptyHost "rs"
      (some FileSystem.defaultDirectory)) = some ["One"] := by
  decide +kernel

/-- The directory is not a package file, so the search goes on to the default directory; the text
file is, so it ends there. -/
theorem search_beside_package_files :
    (Specification.search FileTree.besideDirectory.system emptyHost "rs" none =
        Specification.search FileTree.besideDirectory.system emptyHost "rs" (some "packspec") ∧
      foundPackages (Specification.search FileTree.besideDirectory.system emptyHost "rs" none) =
        some ["One"]) ∧
    Specification.search FileTree.besidePackage.system emptyHost "rs" none = pure [] ∧
      foundPackages
        (Specification.search FileTree.besidePackage.system emptyHost "rs" (some "packspec")) =
        some ["One"] := by
  constructor
  · have listed : Id.run (FileTree.besideDirectory.system.entries ".") =
        .ok ["package.yml", "notes.txt", "packspec"] := by decide +kernel
    have plain : ∀ name ∈ ["package.yml", "notes.txt", "packspec"], '/' ∉ name.toList := by
      decide +kernel
    have others : ∀ name ∈ ["package.yml", "notes.txt", "packspec"],
        FileTree.besideDirectory.system.HasFile name → FileSystem.isPackageFile name = false := by
      decide +kernel
    have falls_back := ((default_search_falls_back_iff emptyHost "rs" _
      (FileTree.system_staysInPlace _) (fun name found => plain name (found.mem listed))
      (by decide +kernel) (by decide +kernel)).1 _ listed).mpr
      (.inl fun name found => others name (found.mem listed) found)
    exact ⟨falls_back, by decide +kernel⟩
  · have ends := (default_search_falls_back_iff emptyHost "rs" _
      (FileTree.system_staysInPlace _) (fun _ => FileTree.besidePackage_plain)
      (by decide +kernel) (by decide +kernel)).2.1 "package.txt" (by decide +kernel)
      (by decide +kernel)
    exact ⟨ends, foundPackages_besidePackage⟩

/-- The search does not fall back in all directories without a package file that is YAML. -/
theorem default_search_stops_early :
    ¬∀ (σ : Type) (h : Host σ) (runtime : String) (fs : FileSystem Id), fs.StaysInPlace →
      (∀ name, fs.HasFile name → '/' ∉ name.toList) →
      ¬fs.HasFile "package.yml" → ¬fs.HasFile "package.yaml" →
      Specification.search fs h runtime none =
        Specification.search fs h runtime (some FileSystem.defaultDirectory) := by
  intro falls_back
  have same := congrArg foundPackages (falls_back _ emptyHost "rs" _
    (FileTree.system_staysInPlace _) (fun _ => FileTree.besidePackage_plain)
    (by decide +kernel) (by decide +kernel))
  have without_path : foundPackages
      (Specification.search FileTree.besidePackage.system emptyHost "rs" none) = some [] := by
    decide +kernel
  rw [without_path, foundPackages_besidePackage] at same
  cases same

end Conformance
