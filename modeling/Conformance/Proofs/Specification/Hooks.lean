import Mathlib.Data.List.Forall2
import Conformance.CommandLine.Program
import Conformance.Proofs.Specification.Statistics

/-!
# The hooks of a specification

The second document of a specification lists extension sets for each runtime, by their names.  Their
functions come into the scope one set after the other, each under its marked name, behind the import
function that is there from the start.  A scope holds every name once, so a later function takes the
place of an earlier one, and a hook may take the place of the import function.

## Parts

* `Listed` says which extension sets the documents list, and `listedHooks_eq_ok_iff` that this is
  what loading goes by.
* `Host.hooks` are the functions of the sets in a list, and `Host.firstUnknown?` is the first name
  in it that nothing is registered under; `hookScope_eq` says how they decide.
* `Scope.names_addHooks` and `Scope.get?_addHooks` say what is in the scope.
* `hooks_merged_at_load` is the result.
-/

namespace Conformance

open Yaml (Node)

/-! ## Listing extension sets -/

/-- The mapping with these entries has the value under the key.  Of entries with one key the first
would count, but no document holds two. -/
def HasEntry (entries : List (Node × Node)) (key : String) (value : Node) : Prop :=
  ∃ before after, entries = before ++ (.string key, value) :: after ∧
    ∀ entry ∈ before, entry.1 ≠ .string key

/-- The names of the extension sets that the documents behind the first one list for a runtime.
There may be no document or an empty one, and a mapping may have nothing for the runtime; otherwise
it has one name for it or several in a sequence, where local tags do not count. -/
inductive Listed (runtime : String) : List Node → List String → Prop
  | no_document : Listed runtime [] []
  | null (rest : List Node) : Listed runtime (.null :: rest) []
  | absent {entries : List (Node × Node)} (rest : List Node)
      (others : ∀ entry ∈ entries, entry.1 ≠ .string runtime) :
      Listed runtime (.mapping entries :: rest) []
  | one {entries : List (Node × Node)} {name : String} (rest : List Node)
      (entry : HasEntry entries runtime (.string name)) :
      Listed runtime (.mapping entries :: rest) [name]
  | several {entries : List (Node × Node)} {items : List Node} {names : List String}
      (rest : List Node) (entry : HasEntry entries runtime (.sequence items))
      (each : items.map Node.untagged = names.map .string) :
      Listed runtime (.mapping entries :: rest) names

lemma asString?_beq_iff {key : Node} {name : String} :
    (key.asString? == some name) = true ↔ key = .string name := by
  cases key <;> simp [Node.asString?]

lemma findValue_eq_none_iff {entries : List (Node × Node)} {key : String} :
    Node.findValue (fun node => node.asString? == some key) entries = none ↔
      ∀ entry ∈ entries, entry.1 ≠ .string key := by
  induction entries with
  | nil => simp [Node.findValue]
  | cons entry rest ih =>
    obtain ⟨node, value⟩ := entry
    rw [Node.findValue, List.forall_mem_cons]
    split
    case isTrue same => simp [asString?_beq_iff.mp same]
    case isFalse differs => simp [ih, mt asString?_beq_iff.mpr differs]

lemma hasEntry_cons_iff {node content value : Node} {rest : List (Node × Node)} {key : String} :
    HasEntry ((node, content) :: rest) key value ↔
      node = .string key ∧ content = value ∨ node ≠ .string key ∧ HasEntry rest key value := by
  constructor
  · rintro ⟨before, after, split, others⟩
    cases before with
    | nil =>
      obtain ⟨here, -⟩ := List.cons.inj split
      obtain ⟨same, holds⟩ := Prod.mk.inj here
      exact .inl ⟨same, holds⟩
    | cons entry before =>
      obtain ⟨rfl, behind⟩ := List.cons.inj split
      obtain ⟨differs, others⟩ := List.forall_mem_cons.mp others
      exact .inr ⟨differs, before, after, behind, others⟩
  · rintro (⟨rfl, rfl⟩ | ⟨differs, before, after, rfl, others⟩)
    · exact ⟨[], rest, rfl, by simp⟩
    · exact ⟨(node, content) :: before, after, rfl, List.forall_mem_cons.mpr ⟨differs, others⟩⟩

lemma findValue_eq_some_iff {entries : List (Node × Node)} {key : String} {value : Node} :
    Node.findValue (fun node => node.asString? == some key) entries = some value ↔
      HasEntry entries key value := by
  induction entries with
  | nil => simp [Node.findValue, HasEntry]
  | cons entry rest ih =>
    obtain ⟨node, content⟩ := entry
    rw [Node.findValue, hasEntry_cons_iff]
    split
    case isTrue same => simp [asString?_beq_iff.mp same]
    case isFalse differs => simp [ih, mt asString?_beq_iff.mpr differs]

lemma listedName_eq_ok_iff {node : Node} {name : String} :
    listedName node = .ok name ↔ node.untagged = .string name := by
  unfold listedName
  cases node.untagged <;> simp [Node.asString?]

lemma mapM_listedName_eq_ok_iff {items : List Node} {names : List String} :
    items.mapM listedName = .ok names ↔ items.map Node.untagged = names.map .string := by
  rw [except_mapM_eq_ok_iff, ← List.forall₂_eq_eq_eq, List.forall₂_map_left_iff,
    List.forall₂_map_right_iff]
  simp only [listedName_eq_ok_iff]

lemma hookNames_eq_ok_iff {runtime : String} {hooks : Node} {rest : List Node}
    {names : List String} :
    hookNames runtime hooks = .ok names ↔ Listed runtime (hooks :: rest) names := by
  constructor
  · intro ok
    unfold hookNames at ok
    split at ok
    · cases ok
      exact .null rest
    · split at ok
      next nothing =>
        cases ok
        exact .absent rest (findValue_eq_none_iff.mp nothing)
      next name found =>
        cases ok
        exact .one rest (findValue_eq_some_iff.mp found)
      next items found =>
        exact .several rest (findValue_eq_some_iff.mp found) (mapM_listedName_eq_ok_iff.mp ok)
      next => cases ok
    · cases ok
  · intro listed
    cases listed with
    | null => rfl
    | absent _ others => rw [hookNames, findValue_eq_none_iff.mpr others]
    | one _ entry => rw [hookNames, findValue_eq_some_iff.mpr entry]
    | several _ entry each =>
      rw [hookNames, findValue_eq_some_iff.mpr entry]
      exact mapM_listedName_eq_ok_iff.mpr each

/-- Loading goes by the extension sets that are listed. -/
lemma listedHooks_eq_ok_iff {runtime : String} {others : List Node} {names : List String} :
    listedHooks runtime others = .ok names ↔ Listed runtime others names := by
  cases others with
  | nil =>
    constructor
    · intro ok
      cases ok
      exact .no_document
    · intro listed
      cases listed
      rfl
  | cons hooks rest => exact hookNames_eq_ok_iff

/-! ## What is in the scope -/

/-- A function under its marked name. -/
def hookBinding (f : FunctionRef) : String × Value :=
  (Scope.hookMark ++ f.name, .function f)

namespace Scope

lemma addHooks_entries (s : Scope) (functions : List FunctionRef) :
    (s.addHooks functions).entries = s.entries.merge (functions.map hookBinding) := by
  unfold addHooks
  induction functions generalizing s with
  | nil => rfl
  | cons f functions ih =>
    rw [List.foldl_cons, ih]
    rfl

lemma addHooks_append (s : Scope) (functions more : List FunctionRef) :
    s.addHooks (functions ++ more) = (s.addHooks functions).addHooks more :=
  List.foldl_append

lemma addHooks_new_entries (serial : ℕ) (functions : List FunctionRef) :
    ((new serial).addHooks functions).entries =
      .ofList ((importName, .function ⟨importName, .importer serial⟩) ::
        functions.map hookBinding) :=
  addHooks_entries _ _

/-- Behind the name of the import function come those of the hooks, as they first appear. -/
lemma names_addHooks (serial : ℕ) (functions : List FunctionRef) :
    ((new serial).addHooks functions).names =
      (importName :: functions.map fun f => hookMark ++ f.name).eraseDups := by
  rw [names, addHooks_new_entries, Assoc.keys_ofList, List.map_cons, List.map_map]
  rfl

lemma get?_addHooks_of_forall_ne (s : Scope) {functions : List FunctionRef} {name : String}
    (others : ∀ f ∈ functions, hookMark ++ f.name ≠ name) :
    (s.addHooks functions).get? name = s.get? name := by
  unfold addHooks
  induction functions generalizing s with
  | nil => rfl
  | cons f functions ih =>
    obtain ⟨first, later⟩ := List.forall_mem_cons.mp others
    rw [List.foldl_cons, ih _ later]
    exact Assoc.get?_insert_of_ne _ _ first

/-- A name reads the last function that comes under it. -/
lemma get?_addHooks_self (s : Scope) {before after : List FunctionRef} {f : FunctionRef}
    (last : ∀ g ∈ after, g.name ≠ f.name) :
    (s.addHooks (before ++ f :: after)).get? (hookMark ++ f.name) = some (.function f) := by
  have others : ∀ g ∈ after, hookMark ++ g.name ≠ hookMark ++ f.name := fun g there =>
    fun same => last g there (String.append_right_inj hookMark |>.mp same)
  rw [addHooks_append, ← List.singleton_append, addHooks_append,
    get?_addHooks_of_forall_ne _ others]
  exact Assoc.get?_insert_self _ _ _

end Scope

/-! ## Registered and unknown sets -/

namespace Host

variable {σ : Type} (h : Host σ)

/-- The functions of the extension sets in a list, in order. -/
def hooks (names : List String) : List FunctionRef :=
  names.flatMap fun name => (h.extensions.get? name).getD []

/-- The first name in a list that no extension set is registered under. -/
def firstUnknown? (names : List String) : Option String :=
  names.find? fun name => name ∉ h.extensions.keys

end Host

section Loading

variable {σ : Type} (h : Host σ)

/-- The functions of all sets come into the scope, unless one of the sets is unknown. -/
lemma hookScope_eq (names : List String) (s : Scope) :
    hookScope h names s = match h.firstUnknown? names with
      | none => .ok (s.addHooks (h.hooks names))
      | some name => .error (.unknownExtension name) := by
  induction names generalizing s with
  | nil => rfl
  | cons name names ih =>
    rw [hookScope, Host.extension, Host.firstUnknown?, List.find?_cons, Host.hooks,
      List.flatMap_cons, Scope.addHooks_append]
    -- An unknown set ends the walk; what the sets before it have added is dropped with the scope.
    cases registered : h.extensions.get? name with
    | none =>
      have unknown := (Assoc.get?_eq_none_iff _ _).mp registered
      simp only [unknown, not_false_eq_true, decide_true]
      rfl
    | some functions =>
      have known : name ∈ h.extensions.keys := by
        by_contra unknown
        rw [(Assoc.get?_eq_none_iff _ _).mpr unknown] at registered
        cases registered
      simp only [known, not_true_eq_false, decide_false]
      exact ih (s.addHooks functions)

namespace Specification

variable {runtime : String} {serial : ℕ} {text : String} {first : Node} {others : List Node}
  {names : List String} {alone : Specification}

/-- What the first document gives by itself comes with hooks if others follow it. -/
lemma ofNodes_of_first (loads : ofNodes h runtime serial [first] = .ok (some alone))
    (listed : Listed runtime others names) :
    ofNodes h runtime serial (first :: others) =
      (fun scope => some { alone with scope := scope }) <$> hookScope h names (.new serial) := by
  obtain ⟨entries, _, parsed, package, _, scope, split, read, named, -, -, rfl⟩ :=
    ofNodes_eq_some_iff.mp loads
  obtain ⟨rfl, rfl⟩ := List.cons.inj split
  have hooks := listedHooks_eq_ok_iff.mpr listed
  simp only [ofNodes, read, named, hooks, bind, Except.bind]
  cases hookScope h names (.new serial) <;> rfl

end Specification

end Loading

/-! ## The result -/

/-- **The hooks of a loaded specification.**  If a text loads to a specification, every extension
set that its second document lists for the runtime is registered.  The names of the scope are that
of the import function and the marked names of all functions of these sets, each once and in the
order of first appearance.  A marked name reads the last function that comes under it, and the name
of the import function reads that one unless a hook takes its place.

If the first document loads by itself and all listed names are strings, the text fails to load
exactly if one of the listed sets is unknown, and the first of these gives the error; otherwise it
loads to the same specification with its hooks. -/
theorem hooks_merged_at_load {σ : Type} (h : Host σ) (runtime : String) (serial : ℕ)
    (text : String) :
    (∀ spec, Specification.load h runtime serial text = .ok (some spec) →
      ∃ first others names, Yaml.nodes text = .ok (first :: others) ∧
        Listed runtime others names ∧ (∀ name ∈ names, name ∈ h.extensions.keys) ∧
        spec.scope.names = (Scope.importName ::
          (h.hooks names).map fun f => Scope.hookMark ++ f.name).eraseDups ∧
        (∀ before f after, h.hooks names = before ++ f :: after →
          (∀ g ∈ after, g.name ≠ f.name) →
          spec.scope.get? (Scope.hookMark ++ f.name) = some (.function f)) ∧
        ((∀ f ∈ h.hooks names, Scope.hookMark ++ f.name ≠ Scope.importName) →
          spec.scope.get? Scope.importName =
            some (.function ⟨Scope.importName, .importer serial⟩))) ∧
    ∀ first others names alone, Yaml.nodes text = .ok (first :: others) →
      Specification.ofNodes h runtime serial [first] = .ok (some alone) →
      Listed runtime others names →
      (∀ e, Specification.load h runtime serial text = .error e ↔
        ∃ name, h.firstUnknown? names = some name ∧ e = .unknownExtension name) ∧
      (h.firstUnknown? names = none → ∃ scope,
        Specification.load h runtime serial text = .ok (some { alone with scope := scope })) := by
  constructor
  · intro spec ok
    obtain ⟨nodes, documents, ok⟩ := Specification.ofNodes_of_load ok
    obtain ⟨entries, others, _, _, names, scope, rfl, -, -, listed, hooked, rfl⟩ :=
      Specification.ofNodes_eq_some_iff.mp ok
    rw [hookScope_eq] at hooked
    cases unknown : h.firstUnknown? names with
    | some name =>
      rw [unknown] at hooked
      cases hooked
    | none =>
      rw [unknown] at hooked
      cases hooked
      refine ⟨_, others, names, documents, listedHooks_eq_ok_iff.mp listed, ?_,
        Scope.names_addHooks serial _, ?_, Scope.get?_addHooks_of_forall_ne _⟩
      · simpa [Host.firstUnknown?] using unknown
      · intro before f after split last
        dsimp only
        rw [split]
        exact Scope.get?_addHooks_self _ last
  · intro first others names alone documents loads listed
    have merged : Specification.load h runtime serial text =
        (fun scope => some { alone with scope := scope }) <$>
          hookScope h names (.new serial) := by
      rw [Specification.load, documents]
      exact Specification.ofNodes_of_first h loads listed
    rw [merged, hookScope_eq]
    cases h.firstUnknown? names with
    | none => exact ⟨fun e => by simp, fun _ => ⟨_, rfl⟩⟩
    | some name => exact ⟨fun e => by simp [eq_comm], fun known => nomatch known⟩

/-! ### Two sets that share a name -/

/-- A host with two extension sets.  Both have a function of one name, and one has that name twice
and the name of the import function. -/
def twoSetHost : Host Unit :=
  { emptyHost with extensions := [("a", [⟨"x", .host 0⟩, ⟨"import", .host 1⟩, ⟨"x", .host 2⟩]),
    ("b", [⟨"x", .host 3⟩, ⟨"y", .host 4⟩])] }

/-- One of the sets is listed twice, the second time under a local tag. -/
def hookedText : String :=
  "- Pkg\n---\njs: b\nrs: [b, a, !again b]\n"

/-- Two sets are unknown. -/
def unknownSetText : String :=
  "- Pkg\n---\nrs: [a, d, c]\n"

/-- The package that the first document of a text gives by itself, and what the others list. -/
def hookOutline (text : String) : Option (Option String × Except Error (List String)) :=
  (Yaml.nodes text).toOption.map fun nodes =>
    ((Specification.ofNodes twoSetHost "rs" 0 (nodes.take 1)).toOption.join.map
      Specification.package, listedHooks "rs" nodes.tail)

lemma exists_of_hookOutline {text package : String} {names : List String}
    (seen : hookOutline text = some (some package, .ok names)) :
    ∃ first others alone, Yaml.nodes text = .ok (first :: others) ∧
      Specification.ofNodes twoSetHost "rs" 0 [first] = .ok (some alone) ∧
      Listed "rs" others names := by
  unfold hookOutline at seen
  cases documents : Yaml.nodes text with
  | error fault =>
    rw [documents] at seen
    cases seen
  | ok nodes =>
    rw [documents] at seen
    obtain ⟨loads, listed⟩ := Prod.mk.inj (Option.some.inj seen)
    obtain ⟨alone, loads, -⟩ := Option.map_eq_some_iff.mp loads
    cases nodes with
    | nil => cases loads
    | cons first others =>
      cases answer : Specification.ofNodes twoSetHost "rs" 0 [first] with
      | error e =>
        rw [List.take_succ_cons, List.take_zero, answer] at loads
        cases loads
      | ok found =>
        rw [List.take_succ_cons, List.take_zero, answer] at loads
        obtain rfl : found = some alone := loads
        exact ⟨first, others, alone, rfl, answer, listedHooks_eq_ok_iff.mp listed⟩

/-- The set that is listed last has the last word on the shared name, and the import function gives
way to a hook. -/
theorem two_sets_hooked :
    (∃ spec, Specification.load twoSetHost "rs" 0 hookedText = .ok (some spec) ∧
      spec.scope.names = ["$import", "$x", "$y"] ∧
      spec.scope.get? "$x" = some (.function ⟨"x", .host 3⟩) ∧
      spec.scope.get? "$import" = some (.function ⟨"import", .host 1⟩)) ∧
    Specification.load twoSetHost "rs" 0 unknownSetText = .error (.unknownExtension "d") := by
  constructor
  · obtain ⟨whenever_loaded, with_first⟩ := hooks_merged_at_load twoSetHost "rs" 0 hookedText
    have seen : hookOutline hookedText = some (some "Pkg", .ok ["b", "a", "b"]) := by
      decide +kernel
    obtain ⟨first, others, alone, documents, loads, listed⟩ := exists_of_hookOutline seen
    obtain ⟨scope, loaded⟩ := (with_first _ _ _ _ documents loads listed).2 (by decide)
    obtain ⟨first', others', names, documents', listed', -, scope_names, last, -⟩ :=
      whenever_loaded _ loaded
    obtain ⟨-, rfl⟩ := List.cons.inj (Except.ok.inj (documents'.symm.trans documents))
    obtain rfl : names = ["b", "a", "b"] := Except.ok.inj
      ((listedHooks_eq_ok_iff.mpr listed').symm.trans (listedHooks_eq_ok_iff.mpr listed))
    refine ⟨_, loaded, scope_names.trans (by decide +kernel), ?_, ?_⟩
    · exact last [⟨"x", .host 3⟩, ⟨"y", .host 4⟩, ⟨"x", .host 0⟩, ⟨"import", .host 1⟩,
        ⟨"x", .host 2⟩] ⟨"x", .host 3⟩ [⟨"y", .host 4⟩] rfl (by decide)
    · exact last [⟨"x", .host 3⟩, ⟨"y", .host 4⟩, ⟨"x", .host 0⟩] ⟨"import", .host 1⟩
        [⟨"x", .host 2⟩, ⟨"x", .host 3⟩, ⟨"y", .host 4⟩] rfl (by decide)
  · have seen : hookOutline unknownSetText = some (some "Pkg", .ok ["a", "d", "c"]) := by
      decide +kernel
    obtain ⟨first, others, alone, documents, loads, listed⟩ := exists_of_hookOutline seen
    exact (((hooks_merged_at_load twoSetHost "rs" 0 unknownSetText).2 _ _ _ _ documents loads
      listed).1 _).mpr ⟨"d", by decide, rfl⟩

end Conformance
