import Mathlib.Data.List.ReduceOption
import Conformance.Files.Search

/-!
# The serial numbers of scopes

Every specification that is loaded gets a scope with an import function of its own, and a serial
number tells these functions apart.  Nothing else in a specification depends on the number.  So what
is loaded from a text is the same under every number, once the import function is renumbered, and
what is loaded from several files is what the content of each of them gives.

## Parts

* `Specification.renumber` replaces the serial number.
* `Specification.renumber_load` says that a text gives the same under all numbers.
* `Specification.renumber_ofFiles` says what files give together.
-/

namespace Conformance

/-! ## Renumbering -/

def Code.renumber (serial : ℕ) : Code → Code
  | importer _ => importer serial
  | host id => host id

/-- The value with another number for the import function.  Scopes hold functions themselves and not
inside of data when they are loaded, so data is left as it is. -/
def Value.renumber (serial : ℕ) : Value → Value
  | function f => function { f with code := f.code.renumber serial }
  | v => v

def Scope.renumber (serial : ℕ) (s : Scope) : Scope :=
  ⟨s.entries.map fun entry => (entry.1, entry.2.renumber serial)⟩

/-- The specification with another serial number for its scope. -/
def Specification.renumber (serial : ℕ) (spec : Specification) : Specification :=
  { spec with scope := spec.scope.renumber serial }

lemma Assoc.map_insert {κ α β : Type} [DecidableEq κ] (f : α → β) (entries : Assoc κ α) (key : κ)
    (value : α) :
    (entries.insert key value).map (fun entry => (entry.1, f entry.2)) =
      insert (entries.map fun entry => (entry.1, f entry.2)) key (f value) := by
  induction entries with
  | nil => rfl
  | cons entry rest ih =>
    obtain ⟨k, v⟩ := entry
    rw [insert, List.map_cons, insert]
    split
    · rfl
    · rw [List.map_cons, ih]

variable {serial : ℕ}

namespace Scope

lemma renumber_insert (s : Scope) (name : String) (value : Value) :
    (s.insert name value).renumber serial =
      (s.renumber serial).insert name (value.renumber serial) :=
  congrArg Scope.mk (Assoc.map_insert (Value.renumber serial) s.entries name value)

lemma renumber_new (first second : ℕ) :
    (new first).renumber serial = (new second).renumber serial := rfl

lemma renumber_addHooks {s s' : Scope} (same : s.renumber serial = s'.renumber serial)
    (functions : List FunctionRef) :
    (s.addHooks functions).renumber serial = (s'.addHooks functions).renumber serial := by
  unfold addHooks
  induction functions generalizing s s' with
  | nil => exact same
  | cons f functions ih =>
    rw [List.foldl_cons, List.foldl_cons]
    exact ih (by rw [renumber_insert, renumber_insert, same])

end Scope

section Loading

variable {σ : Type} (h : Host σ) (runtime : String)

lemma renumber_hookScope {s s' : Scope} (same : s.renumber serial = s'.renumber serial)
    (names : List String) :
    Scope.renumber serial <$> hookScope h names s =
      Scope.renumber serial <$> hookScope h names s' := by
  induction names generalizing s s' with
  | nil => exact congrArg Except.ok same
  | cons name names ih =>
    rw [hookScope, hookScope]
    cases h.extension name with
    | error e => rfl
    | ok functions => exact ih (Scope.renumber_addHooks same functions)

namespace Specification

lemma renumber_ofNodes (first second : ℕ) (nodes : List Yaml.Node) :
    Option.map (renumber serial) <$> ofNodes h runtime first nodes =
      Option.map (renumber serial) <$> ofNodes h runtime second nodes := by
  unfold ofNodes
  split
  case h_1 => rfl
  case h_3 => rfl
  case h_2 entries others =>
    simp only [map_bind]
    refine bind_congr fun features => bind_congr fun package => ?_
    cases package with
    | none => rfl
    | some package =>
      simp only [map_bind, map_pure]
      refine bind_congr fun names => ?_
      have renumbered (s : Scope) : Option.map (renumber serial) (some ⟨package,
          inheritSkip false features, s, .count (inheritSkip false features)⟩) =
          some ⟨package, inheritSkip false features, s.renumber serial,
            .count (inheritSkip false features)⟩ := rfl
      have scopes := congrArg (fun answer : Except Error Scope => answer >>= fun s => pure (some
        (⟨package, inheritSkip false features, s, .count (inheritSkip false features)⟩ :
          Specification)))
        (renumber_hookScope h (@Scope.renumber_new serial first second) names)
      simpa only [bind_map_left, renumbered] using scopes

/-- A text gives the same specification under every serial number. -/
theorem renumber_load (first second : ℕ) (text : String) :
    Option.map (renumber serial) <$> load h runtime first text =
      Option.map (renumber serial) <$> load h runtime second text := by
  unfold load
  cases Yaml.nodes text with
  | error fault => rfl
  | ok nodes => exact renumber_ofNodes h runtime first second nodes

end Specification

end Loading

namespace Specification

variable {m : Type → Type} [Monad m] [LawfulMonad m] (fs : FileSystem m) {σ : Type} (h : Host σ)
  (runtime : String)

/-- What the content of a file gives, apart from the serial number. -/
def ofContent (path : String) : FilesM m (Option Specification) := do
  let text ← fs.text path
  ExceptT.mk (pure (Option.map (renumber 0) <$> load h runtime 0 text))

lemma renumber_ofFile (serial : ℕ) {path : String}
    (yaml : (FileName.ofPath? path).any FileName.isYaml = true) :
    Option.map (renumber 0) <$> ofFile fs h runtime serial path =
      ofContent fs h runtime path := by
  rw [ofFile, if_pos yaml, map_bind, ofContent]
  refine bind_congr fun text => ExceptT.ext ?_
  rw [ExceptT.run_map, ExceptT.run_mk, ExceptT.run_mk, map_pure]
  exact congrArg pure (renumber_load h runtime serial 0 text)

lemma reduceOption_cons {α : Type} (found : Option α) (rest : List (Option α)) :
    (found :: rest).reduceOption = found.toList ++ rest.reduceOption := by
  cases found with
  | none => rw [List.reduceOption_cons_of_none, Option.toList_none, List.nil_append]
  | some a => rw [List.reduceOption_cons_of_some, Option.toList_some, List.singleton_append]

/-- Files give what the content of each YAML file among them gives, in order and without those that
give nothing. -/
theorem renumber_ofFiles (first : ℕ) (paths : List String) :
    List.map (renumber 0) <$> ofFiles fs h runtime first paths =
      List.reduceOption <$> (paths.filter fun path =>
        (FileName.ofPath? path).any FileName.isYaml).mapM (ofContent fs h runtime) := by
  induction paths generalizing first with
  | nil => simp [ofFiles, List.reduceOption]
  | cons path rest ih =>
    have both : List.map (renumber 0) <$> ofFiles fs h runtime first (path :: rest) = (do
        let found ← Option.map (renumber 0) <$> ofFile fs h runtime first path
        let specs ← List.map (renumber 0) <$> ofFiles fs h runtime (first + 1) rest
        return found.toList ++ specs) := by
      simp only [ofFiles, map_bind, bind_map_left, map_pure, List.map_append, Option.toList_map]
    rw [both, ih]
    by_cases yaml : (FileName.ofPath? path).any FileName.isYaml = true
    · rw [renumber_ofFile fs h runtime first yaml, List.filter_cons, if_pos yaml]
      simp only [List.mapM_cons, map_bind, bind_map_left, map_pure, reduceOption_cons]
    · rw [ofFile, if_neg yaml, List.filter_cons, if_neg yaml]
      simp

end Specification

end Conformance
