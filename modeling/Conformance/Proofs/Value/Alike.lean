import Mathlib.Data.List.Forall2
import Mathlib.Logic.Relator
import Mathlib.Order.Basic
import Conformance.Host
import Conformance.Proofs.Value.Equality
import Conformance.Scope.Assign
import Conformance.Value.OfNode

/-!
# Values that differ in the identity of functions only

A package may make its functions anew at every import.  Two runs that import the same package then
hold functions with different identities that do the same.  What the runs have in common is said
with a pairing, which tells which function of the one corresponds to which of the other: two values
are alike if they are the same data, with paired functions at the same places.

Nothing that is done with data can tell alike values apart.  Text does not show identities, and
equality looks at them only to compare two functions, which a one-to-one pairing carries over.
Alike values hold no class and no instance, so the world has no part in any of this.

## Parts

* `Pairing`, `Value.Alike`, `Value.ItemsAlike` and `Value.EntriesAlike` are the relations.
* `Value.Alike.mono` says that a larger pairing keeps values alike.
* `Value.Alike.render_eq` and `Value.Alike.equal_eq` say what looking at alike values gives.
* `Value.EntriesAlike.get?`, `insert` and `merge` are the operations on mappings, and
  `Value.ItemsAlike.getElem?` and `putAt` those on sequences.
* `Value.alike_ofNode` says that the content of a document is alike to itself under every pairing.
-/

namespace Conformance

/-! ## The relations -/

/-- Which function of one world corresponds to which of another, by their identities.  Pairings are
ordered by inclusion. -/
abbrev Pairing := ℕ → ℕ → Prop

/-- Import functions of the same scope, or functions of the host that are a pair. -/
inductive Code.Alike (β : Pairing) : Code → Code → Prop
  | importer (scope : ℕ) : Alike β (.importer scope) (.importer scope)
  | host {i j : ℕ} (paired : β i j) : Alike β (.host i) (.host j)

namespace Value

mutual

/-- The same data, with paired functions at the same places and no class or instance. -/
inductive Alike (β : Pairing) : Value → Value → Prop
  | null : Alike β .null .null
  | bool (b : Bool) : Alike β (.bool b) (.bool b)
  | int (i : Int64) : Alike β (.int i) (.int i)
  | float (x : Binary64) : Alike β (.float x) (.float x)
  | string (s : String) : Alike β (.string s) (.string s)
  | array {items items' : List Value} (each : ItemsAlike β items items') :
      Alike β (.array items) (.array items')
  | object {entries entries' : List (String × Value)} (each : EntriesAlike β entries entries') :
      Alike β (.object entries) (.object entries')
  | function (name : String) {code code' : Code} (codes : code.Alike β code') :
      Alike β (.function ⟨name, code⟩) (.function ⟨name, code'⟩)

/-- Alike item by item. -/
inductive ItemsAlike (β : Pairing) : List Value → List Value → Prop
  | nil : ItemsAlike β [] []
  | cons {v v' : Value} {items items' : List Value} (first : Alike β v v')
      (rest : ItemsAlike β items items') : ItemsAlike β (v :: items) (v' :: items')

/-- Alike entry by entry, with the same keys. -/
inductive EntriesAlike (β : Pairing) : List (String × Value) → List (String × Value) → Prop
  | nil : EntriesAlike β [] []
  | cons (key : String) {v v' : Value} {entries entries' : List (String × Value)}
      (first : Alike β v v') (rest : EntriesAlike β entries entries') :
      EntriesAlike β ((key, v) :: entries) ((key, v') :: entries')

end

end Value

/-! ## Larger pairings -/

variable {β γ : Pairing}

lemma Code.Alike.mono (le : β ≤ γ) {c c' : Code} (alike : c.Alike β c') : c.Alike γ c' := by
  cases alike with
  | importer scope => exact .importer scope
  | host paired => exact .host (le _ _ paired)

/-- Paired functions are the same on both sides or on neither. -/
lemma Code.Alike.beq_eq (one : Relator.BiUnique β) {c c' d d' : Code}
    (alike : c.Alike β c') (other : d.Alike β d') : (c == d) = (c' == d') := by
  cases alike with
  | importer scope =>
    cases other with
    | importer scope' => rfl
    | host paired => rfl
  | @host i i' paired =>
    cases other with
    | importer scope' => rfl
    | @host j j' paired' =>
      have same : i = j ↔ i' = j' := by
        constructor
        · rintro rfl
          exact one.2 paired paired'
        · rintro rfl
          exact one.1 paired paired'
      rw [Bool.eq_iff_iff, beq_iff_eq, beq_iff_eq, Code.host.injEq, Code.host.injEq, same]

namespace Value

mutual

lemma Alike.mono (le : β ≤ γ) : ∀ {v v' : Value}, v.Alike β v' → v.Alike γ v'
  | _, _, .null => .null
  | _, _, .bool b => .bool b
  | _, _, .int i => .int i
  | _, _, .float x => .float x
  | _, _, .string s => .string s
  | _, _, .array each => .array (each.mono le)
  | _, _, .object each => .object (each.mono le)
  | _, _, .function name codes => .function name (codes.mono le)

lemma ItemsAlike.mono (le : β ≤ γ) : ∀ {items items' : List Value},
    ItemsAlike β items items' → ItemsAlike γ items items'
  | _, _, .nil => .nil
  | _, _, .cons first rest => .cons (first.mono le) (rest.mono le)

lemma EntriesAlike.mono (le : β ≤ γ) : ∀ {entries entries' : List (String × Value)},
    EntriesAlike β entries entries' → EntriesAlike γ entries entries'
  | _, _, .nil => .nil
  | _, _, .cons key first rest => .cons key (first.mono le) (rest.mono le)

end

/-! ## Sequences -/

section Sequences

variable {items items' : List Value}

lemma ItemsAlike.length_eq (each : ItemsAlike β items items') : items.length = items'.length := by
  induction items generalizing items' with
  | nil =>
    cases each
    rfl
  | cons item items ih =>
    cases each with
    | cons first rest => rw [List.length_cons, List.length_cons, ih rest]

lemma ItemsAlike.getElem? (each : ItemsAlike β items items') (n : ℕ) :
    Option.Rel (Alike β) items[n]? items'[n]? := by
  induction items generalizing items' n with
  | nil =>
    cases each
    exact .none
  | cons item items ih =>
    cases each with
    | cons first rest =>
      cases n with
      | zero => exact .some first
      | succ n => exact ih rest n

/-- Items at a position that may lie outside. -/
lemma ItemsAlike.at_position (each : ItemsAlike β items items') (position : Option ℕ) :
    Option.Rel (Alike β) (position.bind (items[·]?)) (position.bind (items'[·]?)) := by
  cases position with
  | none => exact .none
  | some n => exact each.getElem? n

lemma ItemsAlike.append {more more' : List Value} (each : ItemsAlike β items items')
    (each_more : ItemsAlike β more more') : ItemsAlike β (items ++ more) (items' ++ more') := by
  induction items generalizing items' with
  | nil =>
    cases each
    exact each_more
  | cons item items ih =>
    cases each with
    | cons first rest => exact .cons first (ih rest)

lemma ItemsAlike.set {v v' : Value} (each : ItemsAlike β items items') (n : ℕ)
    (alike : v.Alike β v') : ItemsAlike β (items.set n v) (items'.set n v') := by
  induction items generalizing items' n with
  | nil =>
    cases each
    exact .nil
  | cons item items ih =>
    cases each with
    | cons first rest =>
      cases n with
      | zero => exact .cons alike rest
      | succ n => exact .cons first (ih rest n)

lemma itemsAlike_replicate_null (n : ℕ) :
    ItemsAlike β (List.replicate n .null) (List.replicate n .null) := by
  induction n with
  | zero => exact .nil
  | succ n ih => exact .cons .null ih

lemma ItemsAlike.putAt {v v' : Value} (each : ItemsAlike β items items') (n : ℕ)
    (alike : v.Alike β v') : ItemsAlike β (putAt items n v) (putAt items' n v') := by
  unfold Conformance.putAt
  rw [each.length_eq]
  split
  · exact each.set n alike
  · exact (each.append (itemsAlike_replicate_null _)).append (.cons alike .nil)

/-- Reading a place that may be missing gives alike values, null standing for what is missing. -/
lemma alike_getD_null {v v' : Option Value} (related : Option.Rel (Alike β) v v') :
    (v.getD .null).Alike β (v'.getD .null) := by
  cases related with
  | none => exact .null
  | some alike => exact alike

end Sequences

/-! ## Mappings -/

section Mappings

variable {entries entries' : Mapping} {v v' : Value}

lemma EntriesAlike.get? (each : EntriesAlike β entries entries') (key : String) :
    Option.Rel (Alike β) (Assoc.get? entries key) (Assoc.get? entries' key) := by
  induction entries generalizing entries' with
  | nil =>
    cases each
    exact .none
  | cons entry entries ih =>
    cases each with
    | cons other first rest =>
      rw [Assoc.get?, Assoc.get?]
      split
      · exact .some first
      · exact ih rest

lemma EntriesAlike.insert (each : EntriesAlike β entries entries') (key : String)
    (alike : v.Alike β v') :
    EntriesAlike β (Assoc.insert entries key v) (Assoc.insert entries' key v') := by
  induction entries generalizing entries' with
  | nil =>
    cases each
    exact .cons key alike .nil
  | cons entry entries ih =>
    cases each with
    | cons other first rest =>
      rw [Assoc.insert, Assoc.insert]
      split
      · exact .cons other alike rest
      · exact .cons other first (ih rest)

lemma EntriesAlike.merge {more more' : Mapping} (each : EntriesAlike β entries entries')
    (each_more : EntriesAlike β more more') :
    EntriesAlike β (Assoc.merge entries more) (Assoc.merge entries' more') := by
  induction more generalizing entries entries' more' with
  | nil =>
    cases each_more
    exact each
  | cons entry more ih =>
    cases each_more with
    | cons key first rest =>
      rw [Assoc.merge_cons, Assoc.merge_cons]
      exact ih (each.insert key first) rest

lemma EntriesAlike.length_eq (each : EntriesAlike β entries entries') :
    entries.length = entries'.length := by
  induction entries generalizing entries' with
  | nil =>
    cases each
    rfl
  | cons entry entries ih =>
    cases each with
    | cons key first rest => rw [List.length_cons, List.length_cons, ih rest]

lemma EntriesAlike.isEmpty_eq (each : EntriesAlike β entries entries') :
    entries.isEmpty = entries'.isEmpty := by
  cases each with
  | nil => rfl
  | cons key first rest => rfl

end Mappings

/-! ## Looking at alike values -/

section Looking

variable {v v' : Value}

namespace Alike

lemma isNull_eq (alike : v.Alike β v') : v.isNull = v'.isNull := by
  cases alike <;> rfl

lemma asString?_eq (alike : v.Alike β v') : v.asString? = v'.asString? := by
  cases alike <;> rfl

lemma isError_eq (alike : v.Alike β v') : v.isError = v'.isError := by
  rw [isError, isError, alike.asString?_eq]

lemma typeName_eq (alike : v.Alike β v') : v.typeName = v'.typeName := by
  cases alike <;> rfl

lemma isHostObject_eq (alike : v.Alike β v') : v.isHostObject = v'.isHostObject := by
  cases alike <;> rfl

lemma isShared_eq_false (alike : v.Alike β v') : v.isShared = false := by
  cases alike <;> rfl

lemma symm_isShared_eq_false (alike : v.Alike β v') : v'.isShared = false := by
  cases alike <;> rfl

end Alike

/-- Alike mappings are reference nodes of the same path, or none of them is one. -/
lemma EntriesAlike.reference_cases {entries entries' : List (String × Value)}
    (each : EntriesAlike β entries entries') :
    (∃ path, entries = [(path, .null)] ∧ entries' = [(path, .null)]) ∨
      (∀ path, entries ≠ [(path, .null)]) ∧ ∀ path, entries' ≠ [(path, .null)] := by
  cases each with
  | nil => exact Or.inr ⟨by simp, by simp⟩
  | cons key first rest =>
    cases rest with
    | nil =>
      cases first with
      | null => exact Or.inl ⟨key, rfl, rfl⟩
      | _ => exact Or.inr ⟨by simp, by simp⟩
    | cons other second rest => exact Or.inr ⟨by simp, by simp⟩

/-! ### Text -/

mutual

lemma Alike.renderWith_eq (shown shown' : InstanceRef → List Char) : ∀ {v v' : Value},
    v.Alike β v' → v.renderWith shown = v'.renderWith shown'
  | _, _, .null => by rw [renderWith.eq_def, renderWith.eq_def]
  | _, _, .bool b => by cases b <;> rw [renderWith.eq_def, renderWith.eq_def]
  | _, _, .int i => by rw [renderWith.eq_def, renderWith.eq_def]
  | _, _, .float x => by rw [renderWith.eq_def, renderWith.eq_def]
  | _, _, .string s => by rw [renderWith.eq_def, renderWith.eq_def]
  | _, _, .array each => by
    rw [renderWith.eq_def, renderWith.eq_def]
    simp only [each.renderItems_eq shown shown']
  | _, _, .object each => by
    rcases each.reference_cases with ⟨path, rfl, rfl⟩ | ⟨no_node, no_node'⟩
    · rw [renderWith.eq_def, renderWith.eq_def]
    · rw [renderWith_object no_node, renderWith_object no_node',
        each.renderEntries_eq shown shown']
  | _, _, .function name codes => by rw [renderWith.eq_def, renderWith.eq_def]

lemma ItemsAlike.renderItems_eq (shown shown' : InstanceRef → List Char) :
    ∀ {items items' : List Value}, ItemsAlike β items items' →
      renderItems shown items = renderItems shown' items'
  | _, _, .nil => rfl
  | _, _, .cons first rest => by
    rw [renderItems, renderItems, first.renderWith_eq shown shown',
      rest.renderItems_eq shown shown']

lemma EntriesAlike.renderEntries_eq (shown shown' : InstanceRef → List Char) :
    ∀ {entries entries' : List (String × Value)}, EntriesAlike β entries entries' →
      renderEntries shown entries = renderEntries shown' entries'
  | _, _, .nil => rfl
  | _, _, .cons key first rest => by
    rw [renderEntries, renderEntries, first.renderWith_eq shown shown',
      rest.renderEntries_eq shown shown']

end

/-- Alike values have the same text, however instances look. -/
lemma Alike.render_eq (alike : v.Alike β v') (views views' : Views) :
    v.render views = v'.render views' := by
  obtain ⟨shown, eq⟩ := exists_renderWith views
  obtain ⟨shown', eq'⟩ := exists_renderWith views'
  rw [eq, eq', alike.renderWith_eq shown shown']

/-! ### Equality -/

mutual

lemma Alike.equalWith_eq (one : Relator.BiUnique β) (shows shows' : InstanceRef → Value → Bool) :
    ∀ {v v' u u' : Value}, v.Alike β v' → u.Alike β u' →
      equalWith shows v u = equalWith shows' v' u'
  | _, _, _, _, .null, other => by cases other <;> rfl
  | _, _, _, _, .bool b, other => by cases other <;> rfl
  | _, _, _, _, .int i, other => by cases other <;> rfl
  | _, _, _, _, .float x, other => by cases other <;> rfl
  | _, _, _, _, .string s, other => by cases other <;> rfl
  | _, _, _, _, .array each, other => by
    cases other with
    | array each' => rw [equalWith, equalWith, each.equalItems_eq one shows shows' each']
    | _ => rfl
  | _, _, _, _, .object each, other => by
    cases other with
    | object each' =>
      rw [equalWith, equalWith, each.length_eq, each'.length_eq,
        each.entriesWithin_eq one shows shows' each']
    | _ => rfl
  | _, _, _, _, .function name codes, other => by
    cases other with
    | function name' codes' => exact codes.beq_eq one codes'
    | _ => rfl

lemma ItemsAlike.equalItems_eq (one : Relator.BiUnique β)
    (shows shows' : InstanceRef → Value → Bool) : ∀ {items items' others others' : List Value},
    ItemsAlike β items items' → ItemsAlike β others others' →
      equalItems shows items others = equalItems shows' items' others'
  | _, _, _, _, .nil, other => by cases other <;> rfl
  | _, _, _, _, .cons first rest, other => by
    cases other with
    | nil => rfl
    | cons first' rest' =>
      rw [equalItems, equalItems, first.equalWith_eq one shows shows' first',
        rest.equalItems_eq one shows shows' rest']

lemma EntriesAlike.entriesWithin_eq (one : Relator.BiUnique β)
    (shows shows' : InstanceRef → Value → Bool) :
    ∀ {entries entries' others others' : List (String × Value)},
      EntriesAlike β entries entries' → EntriesAlike β others others' →
        entriesWithin shows entries others = entriesWithin shows' entries' others'
  | _, _, _, _, .nil, _ => rfl
  | _, _, others, others', .cons key first rest, other => by
    have found := other.get? key
    rw [entriesWithin, entriesWithin, rest.entriesWithin_eq one shows shows' other]
    congr 1
    generalize Assoc.get? others key = there at found ⊢
    generalize Assoc.get? others' key = there' at found ⊢
    cases found with
    | none => rfl
    | some alike => exact first.equalWith_eq one shows shows' alike

end

/-- Alike values are equal to alike values, however instances look. -/
lemma Alike.equal_eq (one : Relator.BiUnique β) {u u' : Value} (alike : v.Alike β v')
    (other : u.Alike β u') (views views' : Views) :
    v.equal views u = v'.equal views' u' := by
  obtain ⟨shows, eq⟩ := exists_equalWith views
  obtain ⟨shows', eq'⟩ := exists_equalWith views'
  rw [eq, eq', alike.equalWith_eq one shows shows' other]

end Looking

/-! ## Documents -/

lemma alike_ofNumber (β : Pairing) (n : Yaml.Number) : (ofNumber n).Alike β (ofNumber n) := by
  cases n with
  | int i =>
    rw [ofNumber]
    by_cases fits : Text.fitsInt64 i = true
    · rw [if_pos fits]
      exact .int _
    · rw [if_neg fits]
      exact .float _
  | float x => exact .float x

mutual

/-- The content of a document holds no functions. -/
lemma alike_ofNode (β : Pairing) : ∀ node : Yaml.Node, (ofNode node).Alike β (ofNode node)
  | .null => .null
  | .bool b => .bool b
  | .number n => alike_ofNumber β n
  | .string s => .string s
  | .sequence items => .array (alike_ofItems β items)
  | .mapping entries => .object (EntriesAlike.merge .nil (alike_ofEntries β entries))
  | .tagged _ content => alike_ofNode β content

lemma alike_ofItems (β : Pairing) : ∀ items : List Yaml.Node,
    ItemsAlike β (ofItems items) (ofItems items)
  | [] => .nil
  | item :: rest => .cons (alike_ofNode β item) (alike_ofItems β rest)

lemma alike_ofEntries (β : Pairing) : ∀ entries : List (Yaml.Node × Yaml.Node),
    EntriesAlike β (ofEntries entries) (ofEntries entries)
  | [] => .nil
  | (_, value) :: rest => .cons _ (alike_ofNode β value) (alike_ofEntries β rest)

end

end Value

end Conformance
