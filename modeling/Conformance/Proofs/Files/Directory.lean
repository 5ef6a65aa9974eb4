import Mathlib.Data.List.Sort
import Conformance.Proofs.Files.DefaultSearch
import Conformance.Proofs.Specification.Serial
import Conformance.Proofs.Text.Octets

/-!
# The search in a directory

A directory is listed in an order that nothing promises.  The search at a directory sorts the names
of the regular files and loads those that are YAML, so it depends on which YAML files there are and
on their contents, and on nothing else: not on the order of the listing, not on directories inside
of the directory and not on other files.

## Parts

* `FileSystem.Lists` says how a directory is listed and `FileSystem.HasYamlFile` which YAML files
  are in it; `FileSystem.YamlNames` are their names in ascending order of the bytes.
* `Specification.search_of_lists` says what the search comes to and `Specification.renumber_search`
  what it finds.
* `Specification.search_of_perm` is about listings in two orders, `Specification.failure?_search`
  about files that cannot be loaded, and `directory_search_in_byte_order` is the result.
-/

namespace Conformance

open Text

/-! ## Listings -/

namespace FileSystem

/-- The path is that of a directory, which is listed in this order. -/
structure Lists (fs : FileSystem Id) (directory : String) (names : List String) : Prop where
  is_directory : Id.run (fs.kind? directory) = some .directory
  listed : Id.run (fs.entries directory) = .ok names
  distinct : names.Nodup
  proper : ∀ name ∈ names, IsEntryName name

/-- The name is listed in the directory as that of a regular file, and is that of a YAML file. -/
def HasYamlFile (fs : FileSystem Id) (directory name : String) : Prop :=
  ∃ names, Id.run (fs.entries directory) = .ok names ∧ name ∈ names ∧
    Id.run (fs.kind? (joinPath directory name)) = some .file ∧ HasYamlExtension name

/-- The names of the YAML files in a directory, each once and in ascending order of their bytes. -/
structure YamlNames (fs : FileSystem Id) (directory : String) (files : List String) : Prop where
  ascending : files.Pairwise fun name other => octets name < octets other
  mem_iff : ∀ name, name ∈ files ↔ fs.HasYamlFile directory name

/-- The names in a list that are those of regular files, in ascending order. -/
def sortedNames (fs : FileSystem Id) (directory : String) (names : List String) : List String :=
  (names.filter fun name => Id.run (fs.kind? (joinPath directory name)) == some .file).mergeSort
    (· ≤ ·)

variable {fs fs' : FileSystem Id} {directory : String} {names names' : List String}

lemma mem_sortedNames {name : String} :
    name ∈ fs.sortedNames directory names ↔
      name ∈ names ∧ Id.run (fs.kind? (joinPath directory name)) = some .file := by
  rw [sortedNames, List.mem_mergeSort, List.mem_filter, beq_iff_eq]

lemma sortedNames_sortedLT (distinct : names.Nodup) :
    (fs.sortedNames directory names).SortedLT :=
  List.sortedLE_mergeSort.sortedLT_of_nodup
    ((List.mergeSort_perm _ _).nodup_iff.mpr (distinct.filter _))

/-- Sorting forgets the order of a listing. -/
lemma sortedNames_eq_of_perm (distinct : names.Nodup) (reordered : names'.Perm names)
    (same : ∀ name ∈ names, fs'.kind? (joinPath directory name) =
      fs.kind? (joinPath directory name)) :
    fs'.sortedNames directory names' = fs.sortedNames directory names := by
  refine (sortedNames_sortedLT (reordered.nodup_iff.mpr distinct)).eq_of_mem_iff
    (sortedNames_sortedLT distinct) fun name => ?_
  rw [mem_sortedNames, mem_sortedNames, reordered.mem_iff]
  exact and_congr_right fun there => by rw [same name there]

lemma Lists.hasYamlFile_iff (lists : fs.Lists directory names) {name : String} :
    fs.HasYamlFile directory name ↔
      name ∈ names ∧ Id.run (fs.kind? (joinPath directory name)) = some .file ∧
        HasYamlExtension name := by
  constructor
  · rintro ⟨names', listed, found⟩
    obtain rfl := Except.ok.inj (listed.symm.trans lists.listed)
    exact found
  · intro found
    exact ⟨names, lists.listed, found⟩

/-- A list in ascending order is that of the YAML files if it has the same names as the listing
without the others. -/
lemma Lists.yamlNames_of_perm (lists : fs.Lists directory names) {files : List String}
    (ascending : files.Pairwise fun name other => octets name < octets other)
    (same : files.Perm (names.filter fun name =>
      Id.run (fs.kind? (joinPath directory name)) == some .file &&
        (FileName.ofPath? (joinPath directory name)).any FileName.isYaml)) :
    fs.YamlNames directory files where
  ascending := ascending
  mem_iff name := by
    rw [same.mem_iff, List.mem_filter, Bool.and_eq_true, beq_iff_eq, lists.hasYamlFile_iff]
    refine and_congr_right fun there => and_congr_right fun _ => ?_
    exact FileName.isYaml_joinPath_iff (lists.proper name there) directory

/-- The names of the YAML files are the sorted names without the others. -/
lemma Lists.yamlNames (lists : fs.Lists directory names) :
    fs.YamlNames directory ((fs.sortedNames directory names).filter fun name =>
      (FileName.ofPath? (joinPath directory name)).any FileName.isYaml) := by
  refine lists.yamlNames_of_perm ?_ ?_
  · exact ((sortedNames_sortedLT lists.distinct).pairwise.filter _).imp octets_lt_iff.mpr
  · refine ((List.mergeSort_perm _ _).filter _).trans (List.Perm.of_eq ?_)
    rw [List.filter_filter]
    exact List.filter_congr fun name _ => Bool.and_comm _ _

/-- The YAML files of a directory have one list of names. -/
lemma YamlNames.unique {files files' : List String} (yaml : fs.YamlNames directory files)
    (yaml' : fs'.YamlNames directory files')
    (same : ∀ name, fs'.HasYamlFile directory name ↔ fs.HasYamlFile directory name) :
    files' = files := by
  have sorted {fs : FileSystem Id} {files : List String} (yaml : fs.YamlNames directory files) :
      files.SortedLT :=
    (yaml.ascending.imp fun lt => octets_lt_iff.mp lt).sortedLT
  refine (sorted yaml').eq_of_mem_iff (sorted yaml) fun name => ?_
  rw [yaml'.mem_iff, yaml.mem_iff, same]

end FileSystem

/-! ## Errors -/

namespace FilesM

variable {α β : Type}

/-- The error that an action on a snapshot of files ends in, if it ends in one. -/
def failure? (x : FilesM Id α) : Option Error :=
  match Id.run x.run with
  | .ok _ => none
  | .error e => some e

lemma eq_pure_or_throw (x : FilesM Id α) : (∃ a, x = pure a) ∨ ∃ e, x = throw e := by
  cases answer : x.run with
  | ok a => exact .inl ⟨a, answer⟩
  | error e => exact .inr ⟨e, answer⟩

lemma failure?_map (f : α → β) (x : FilesM Id α) : failure? (f <$> x) = failure? x := by
  rcases eq_pure_or_throw x with ⟨a, rfl⟩ | ⟨e, rfl⟩ <;> rfl

/-- Of several actions, the first that fails decides. -/
lemma failure?_mapM (f : α → FilesM Id β) (l : List α) :
    failure? (l.mapM f) = l.findSome? fun a => failure? (f a) := by
  induction l with
  | nil => rfl
  | cons a l ih =>
    rw [List.mapM_cons, List.findSome?_cons, ← ih]
    rcases eq_pure_or_throw (f a) with ⟨b, first⟩ | ⟨e, first⟩
    · rw [first, pure_bind]
      exact failure?_map (b :: ·) (l.mapM f)
    · rw [first]
      rfl

lemma mapM_congr {f g : α → FilesM Id β} {l : List α} (agree : ∀ a ∈ l, f a = g a) :
    l.mapM f = l.mapM g := by
  induction l with
  | nil => rfl
  | cons a l ih =>
    obtain ⟨first, later⟩ := List.forall_mem_cons.mp agree
    rw [List.mapM_cons, List.mapM_cons, first, ih later]

end FilesM

/-! ## The search -/

namespace Specification

variable {σ : Type} (h : Host σ) (runtime : String) {fs fs' : FileSystem Id} {directory : String}
  {names names' : List String}

/-- The search loads the regular files of the directory in the order of their names. -/
lemma search_of_lists (lists : fs.Lists directory names) :
    search fs h runtime (some directory) =
      ofFiles fs h runtime 0 ((fs.sortedNames directory names).map (joinPath directory)) := by
  have found : fs.candidates (some directory) =
      pure ((fs.sortedNames directory names).map (joinPath directory)) := by
    have answered : fs.kind? directory = pure (some .directory) := lists.is_directory
    rw [FileSystem.candidates, FileSystem.filesAt, answered, liftM_pure, pure_bind]
    simp only [FileSystem.sortedFiles_of_listed lists.listed, List.filter_true,
      FileSystem.sortedNames]
  rw [search, found, pure_bind]

/-- Of a file only the content counts, and that only if the file is YAML. -/
lemma ofFiles_congr (serial : ℕ) {paths : List String}
    (same : ∀ path ∈ paths, (FileName.ofPath? path).any FileName.isYaml = true →
      fs'.read path = fs.read path) :
    ofFiles fs' h runtime serial paths = ofFiles fs h runtime serial paths := by
  induction paths generalizing serial with
  | nil => rfl
  | cons path rest ih =>
    obtain ⟨first, later⟩ := List.forall_mem_cons.mp same
    have file : ofFile fs' h runtime serial path = ofFile fs h runtime serial path := by
      unfold ofFile
      split
      case isTrue yaml => rw [FileSystem.text, FileSystem.text, first yaml]
      case isFalse => rfl
    rw [ofFiles, ofFiles, file, ih (serial + 1) later]

/-- A listing in another order makes no difference. -/
lemma search_of_perm (lists : fs.Lists directory names) (lists' : fs'.Lists directory names')
    (reordered : names'.Perm names)
    (kinds : ∀ name ∈ names, fs'.kind? (joinPath directory name) =
      fs.kind? (joinPath directory name))
    (contents : ∀ name, fs.HasYamlFile directory name →
      fs'.read (joinPath directory name) = fs.read (joinPath directory name)) :
    search fs' h runtime (some directory) = search fs h runtime (some directory) := by
  rw [search_of_lists h runtime lists, search_of_lists h runtime lists',
    FileSystem.sortedNames_eq_of_perm lists.distinct reordered kinds]
  -- A file of another kind may have changed its content, but nothing reads it.
  refine ofFiles_congr h runtime 0 fun path there yaml => ?_
  obtain ⟨name, sorted, rfl⟩ := List.mem_map.mp there
  obtain ⟨listed, is_file⟩ := FileSystem.mem_sortedNames.mp sorted
  exact contents name (lists.hasYamlFile_iff.mpr ⟨listed, is_file,
    (FileName.isYaml_joinPath_iff (lists.proper name listed) directory).mp yaml⟩)

/-- The search finds what the contents of the YAML files give. -/
lemma renumber_search (lists : fs.Lists directory names) {files : List String}
    (yaml : fs.YamlNames directory files) :
    List.map (renumber 0) <$> search fs h runtime (some directory) =
      List.reduceOption <$>
        files.mapM fun name => ofContent fs h runtime (joinPath directory name) := by
  obtain rfl := lists.yamlNames.unique yaml fun _ => Iff.rfl
  rw [search_of_lists h runtime lists, renumber_ofFiles, List.filter_map, List.mapM_map]
  rfl

lemma ofContent_congr {path : String} (same : fs'.read path = fs.read path) :
    ofContent fs' h runtime path = ofContent fs h runtime path := by
  rw [ofContent, ofContent, FileSystem.text, FileSystem.text, same]

/-- Where a directory has the same YAML files with the same contents, the search finds the same. -/
lemma renumber_search_congr (lists : fs.Lists directory names) (lists' : fs'.Lists directory names')
    (same : ∀ name, fs'.HasYamlFile directory name ↔ fs.HasYamlFile directory name)
    (contents : ∀ name, fs.HasYamlFile directory name →
      fs'.read (joinPath directory name) = fs.read (joinPath directory name)) :
    List.map (renumber 0) <$> search fs' h runtime (some directory) =
      List.map (renumber 0) <$> search fs h runtime (some directory) := by
  -- The listings may have nothing else in common, so the names are compared without them.
  have yaml := lists.yamlNames
  have yaml' : fs'.YamlNames directory _ :=
    ⟨yaml.ascending, fun name => (yaml.mem_iff name).trans (same name).symm⟩
  rw [renumber_search h runtime lists yaml, renumber_search h runtime lists' yaml']
  exact congrArg (List.reduceOption <$> ·) (FilesM.mapM_congr fun name there =>
    ofContent_congr h runtime (contents name ((yaml.mem_iff name).mp there)))

/-- The first YAML file that cannot be loaded gives the error of the search. -/
lemma failure?_search (lists : fs.Lists directory names) {files : List String}
    (yaml : fs.YamlNames directory files) :
    (search fs h runtime (some directory)).failure? = files.findSome? fun name =>
      (ofContent fs h runtime (joinPath directory name)).failure? := by
  rw [← FilesM.failure?_map (List.map (renumber 0)), renumber_search h runtime lists yaml,
    FilesM.failure?_map, FilesM.failure?_mapM]

end Specification

/-! ## The result -/

/-- **The search in a directory.**  Let a directory be listed in some order.  Its YAML files have
one list of names in ascending order of the bytes, each name once.  Apart from the serial numbers of
the scopes, the search finds what the contents of these files give, in this order and without those
that give nothing; and the first of them that cannot be loaded gives the error of the search.  The
answer is the same in another order of the listing.  And apart from the serial numbers it is the
same wherever the directory has the same YAML files with the same contents, whatever else is
there. -/
theorem directory_search_in_byte_order {σ : Type} (h : Host σ) (runtime : String)
    {fs : FileSystem Id} {directory : String} {names : List String}
    (lists : fs.Lists directory names) :
    (∃ files, fs.YamlNames directory files ∧
      List.map (Specification.renumber 0) <$> Specification.search fs h runtime (some directory) =
        List.reduceOption <$> files.mapM (fun name =>
          Specification.ofContent fs h runtime (joinPath directory name)) ∧
      (Specification.search fs h runtime (some directory)).failure? =
        files.findSome? fun name =>
          (Specification.ofContent fs h runtime (joinPath directory name)).failure?) ∧
    (∀ fs' names', fs'.Lists directory names' → names'.Perm names →
      (∀ name ∈ names, fs'.kind? (joinPath directory name) =
        fs.kind? (joinPath directory name)) →
      (∀ name, fs.HasYamlFile directory name →
        fs'.read (joinPath directory name) = fs.read (joinPath directory name)) →
      Specification.search fs' h runtime (some directory) =
        Specification.search fs h runtime (some directory)) ∧
    ∀ fs' names', fs'.Lists directory names' →
      (∀ name, fs'.HasYamlFile directory name ↔ fs.HasYamlFile directory name) →
      (∀ name, fs.HasYamlFile directory name →
        fs'.read (joinPath directory name) = fs.read (joinPath directory name)) →
      List.map (Specification.renumber 0) <$> Specification.search fs' h runtime (some directory) =
        List.map (Specification.renumber 0) <$>
          Specification.search fs h runtime (some directory) := by
  have yaml := lists.yamlNames
  refine ⟨⟨_, yaml, ?_, ?_⟩, fun fs' names' lists' => ?_, fun fs' names' lists' => ?_⟩
  · exact Specification.renumber_search h runtime lists yaml
  · exact Specification.failure?_search h runtime lists yaml
  · exact Specification.search_of_perm h runtime lists lists'
  · exact Specification.renumber_search_congr h runtime lists lists'

/-! ### Shelves -/

open Fixture

/-- Three specifications, one of them for other runtimes, and what is none: a file of notes, a
hidden file and a directory with the name of a YAML file. -/
def shelf : FileTree :=
  .build [("specs/b.yml", some "- Beta\n".toUTF8), ("specs/notes.txt", some "notes".toUTF8),
    ("specs/.yml", some "[".toUTF8), ("specs/c.yml", some "- (py) Gamma\n".toUTF8),
    ("specs/d.yml/e.yml", some "[".toUTF8), ("specs/a.yaml", some "- Alpha\n".toUTF8)]

/-- The same in another order. -/
def shuffledShelf : FileTree :=
  .build [("specs/a.yaml", some "- Alpha\n".toUTF8), ("specs/d.yml/e.yml", some "[".toUTF8),
    ("specs/c.yml", some "- (py) Gamma\n".toUTF8), ("specs/.yml", some "[".toUTF8),
    ("specs/notes.txt", some "notes".toUTF8), ("specs/b.yml", some "- Beta\n".toUTF8)]

/-- The same specifications with nothing else. -/
def weededShelf : FileTree :=
  .build [("specs/c.yml", some "- (py) Gamma\n".toUTF8), ("specs/b.yml", some "- Beta\n".toUTF8),
    ("specs/a.yaml", some "- Alpha\n".toUTF8)]

/-- Two files that cannot be loaded. -/
def tornShelf : FileTree :=
  .build [("specs/c.yml", some "[".toUTF8), ("specs/b.yml", some "5\n".toUTF8),
    ("specs/a.yml", some "- Alpha\n".toUTF8)]

lemma foundPackages_renumber (found : FilesM Id (List Specification)) :
    foundPackages (List.map (Specification.renumber 0) <$> found) = foundPackages found := by
  rcases FilesM.eq_pure_or_throw found with ⟨specs, rfl⟩ | ⟨e, rfl⟩
  · exact congrArg some (List.map_map ..)
  · rfl

/-- Both packages are found, in the order of the files, whatever is listed beside them and in
whichever order.  Of two broken files the one with the smaller name is reported. -/
theorem shelf_in_any_order :
    (shelf.system.Lists "specs" ["b.yml", "notes.txt", ".yml", "c.yml", "d.yml", "a.yaml"] ∧
      foundPackages (Specification.search shelf.system emptyHost "rs" (some "specs")) =
        some ["Alpha", "Beta"]) ∧
    (shuffledShelf.system.Lists "specs"
        ["a.yaml", "d.yml", "c.yml", ".yml", "notes.txt", "b.yml"] ∧
      Specification.search shuffledShelf.system emptyHost "rs" (some "specs") =
        Specification.search shelf.system emptyHost "rs" (some "specs")) ∧
    (weededShelf.system.Lists "specs" ["c.yml", "b.yml", "a.yaml"] ∧
      foundPackages (Specification.search weededShelf.system emptyHost "rs" (some "specs")) =
        some ["Alpha", "Beta"]) ∧
    tornShelf.system.Lists "specs" ["c.yml", "b.yml", "a.yml"] ∧
      (Specification.search tornShelf.system emptyHost "rs" (some "specs")).failure? =
        some .notASequence := by
  have lists : shelf.system.Lists "specs"
      ["b.yml", "notes.txt", ".yml", "c.yml", "d.yml", "a.yaml"] :=
    ⟨by decide +kernel, by decide +kernel, by decide +kernel, by decide +kernel⟩
  have shuffled : shuffledShelf.system.Lists "specs"
      ["a.yaml", "d.yml", "c.yml", ".yml", "notes.txt", "b.yml"] :=
    ⟨by decide +kernel, by decide +kernel, by decide +kernel, by decide +kernel⟩
  have weeded : weededShelf.system.Lists "specs" ["c.yml", "b.yml", "a.yaml"] :=
    ⟨by decide +kernel, by decide +kernel, by decide +kernel, by decide +kernel⟩
  have torn : tornShelf.system.Lists "specs" ["c.yml", "b.yml", "a.yml"] :=
    ⟨by decide +kernel, by decide +kernel, by decide +kernel, by decide +kernel⟩
  have yaml : shelf.system.YamlNames "specs" ["a.yaml", "b.yml", "c.yml"] :=
    lists.yamlNames_of_perm (by decide +kernel) (by decide +kernel)
  have weeded_yaml : weededShelf.system.YamlNames "specs" ["a.yaml", "b.yml", "c.yml"] :=
    weeded.yamlNames_of_perm (by decide +kernel) (by decide +kernel)
  have torn_yaml : tornShelf.system.YamlNames "specs" ["a.yml", "b.yml", "c.yml"] :=
    torn.yamlNames_of_perm (by decide +kernel) (by decide +kernel)
  have reads {fs : FileSystem Id} (same : ∀ name ∈ ["a.yaml", "b.yml", "c.yml"],
      Id.run (fs.read (joinPath "specs" name)) =
        Id.run (shelf.system.read (joinPath "specs" name)))
      (name : String) (there : shelf.system.HasYamlFile "specs" name) :
      fs.read (joinPath "specs" name) = shelf.system.read (joinPath "specs" name) :=
    same name ((yaml.mem_iff name).mpr there)
  obtain ⟨⟨files, files_yaml, found, -⟩, in_any_order, wherever⟩ :=
    directory_search_in_byte_order emptyHost "rs" lists
  obtain rfl := yaml.unique files_yaml fun _ => Iff.rfl
  have packages : foundPackages (Specification.search shelf.system emptyHost "rs" (some "specs")) =
      some ["Alpha", "Beta"] := by
    rw [← foundPackages_renumber, found]
    decide +kernel
  refine ⟨⟨lists, packages⟩, ⟨shuffled, ?_⟩, ⟨weeded, ?_⟩, torn, ?_⟩
  · have kinds : ∀ name ∈ ["b.yml", "notes.txt", ".yml", "c.yml", "d.yml", "a.yaml"],
        Id.run (shuffledShelf.system.kind? (joinPath "specs" name)) =
          Id.run (shelf.system.kind? (joinPath "specs" name)) := by
      decide +kernel
    exact in_any_order _ _ shuffled (by decide +kernel) kinds (reads (by decide +kernel))
  · rw [← foundPackages_renumber, wherever _ _ weeded
      (fun name => (weeded_yaml.mem_iff name).symm.trans (yaml.mem_iff name))
      (reads (by decide +kernel)), foundPackages_renumber, packages]
  · obtain ⟨⟨files, files_yaml, -, fails⟩, -⟩ :=
      directory_search_in_byte_order emptyHost "rs" torn
    obtain rfl := torn_yaml.unique files_yaml fun _ => Iff.rfl
    rw [fails]
    decide +kernel

end Conformance
