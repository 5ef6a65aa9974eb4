import Mathlib.Data.List.Nodup
import Mathlib.Data.String.Basic
import Conformance.Proofs.Value.Layers

/-!
# The sorted form of plain data

Mappings are equal whatever the order of their entries, at every depth.  For plain data, which is
built from null, booleans, integers, strings, sequences and mappings, this is all that equality
forgives: two plain values are equal exactly if they become the same value once the entries of every
mapping are sorted by their keys.

The comparison of two mappings is one-sided.  It compares their sizes and looks the keys of the
first up in the second.  Since no key is repeated, that is enough for the entries of one to be a
permutation of the entries of the other.

## Parts

* `Value.Plain` is plain data.
* `Value.sorted` is the sorted form, and `Value.sortEntries_eq_sortEntries_iff` says when two
  mappings have the same one.
* `Value.Plain.equalWith_iff` compares plain values through their sorted forms.
* `plain_equality_is_sorted_identity` is the result.
-/

namespace Conformance

namespace Value

/-! ## Plain data -/

/-- Data without floating-point numbers and host objects.  A mapping has each key once. -/
inductive Plain : Value → Prop
  | null : Plain .null
  | bool (b : Bool) : Plain (.bool b)
  | int (i : Int64) : Plain (.int i)
  | string (s : String) : Plain (.string s)
  | array {items : List Value} (each : ∀ item ∈ items, Plain item) : Plain (.array items)
  | object {entries : List (String × Value)} (distinct : (Assoc.keys entries).Nodup)
      (each : ∀ entry ∈ entries, Plain entry.2) : Plain (.object entries)

/-! ## Sorting -/

/-- Sort the entries of a mapping by their keys. -/
def sortEntries (entries : List (String × Value)) : List (String × Value) :=
  entries.mergeSort fun a b => a.1 ≤ b.1

mutual

/-- The value with the entries of every mapping, at every depth, sorted by their keys. -/
def sorted : Value → Value
  | .array items => .array (sortedItems items)
  | .object entries => .object (sortEntries (sortedEntries entries))
  | v => v

def sortedItems : List Value → List Value
  | [] => []
  | item :: rest => item.sorted :: sortedItems rest

def sortedEntries : List (String × Value) → List (String × Value)
  | [] => []
  | (key, item) :: rest => (key, item.sorted) :: sortedEntries rest

end

lemma sortedItems_eq_map (items : List Value) : sortedItems items = items.map sorted := by
  induction items with
  | nil => rfl
  | cons item rest ih => rw [sortedItems, ih, List.map_cons]

lemma sortedEntries_eq_map (entries : List (String × Value)) :
    sortedEntries entries = entries.map fun entry => (entry.1, entry.2.sorted) := by
  induction entries with
  | nil => rfl
  | cons entry rest ih => rw [sortedEntries, ih, List.map_cons]

lemma keys_sortedEntries (entries : List (String × Value)) :
    Assoc.keys (sortedEntries entries) = Assoc.keys entries := by
  rw [sortedEntries_eq_map, Assoc.keys, Assoc.keys, List.map_map]
  rfl

/-- Mappings without repeated keys have the same sorted entries exactly if one permutes the
other. -/
lemma sortEntries_eq_sortEntries_iff {entries others : List (String × Value)}
    (distinct : (Assoc.keys others).Nodup) :
    sortEntries entries = sortEntries others ↔ entries.Perm others := by
  have perm (entries : List (String × Value)) : (sortEntries entries).Perm entries :=
    List.mergeSort_perm _ _
  have ascending (entries : List (String × Value)) :
      (sortEntries entries).Pairwise fun a b => decide (a.1 ≤ b.1) = true :=
    List.pairwise_mergeSort (fun a b c => by simpa using le_trans)
      (fun a b => by simpa using le_total a.1 b.1) entries
  constructor
  · intro same
    exact (perm entries).symm.trans (same ▸ perm others)
  · intro permuted
    refine List.Perm.eq_of_pairwise ?_ (ascending entries) (ascending others)
      ((perm entries).trans (permuted.trans (perm others).symm))
    -- Entries that may stand in either order have one key, and there is one entry of a key.
    intro a b mem_a mem_b below above
    have same_key : a.1 = b.1 := le_antisymm (by simpa using below) (by simpa using above)
    have at_a := (Assoc.get?_eq_some_iff_mem distinct).mpr
      (permuted.mem_iff.mp ((perm entries).mem_iff.mp mem_a))
    have at_b := (Assoc.get?_eq_some_iff_mem distinct).mpr ((perm others).mem_iff.mp mem_b)
    rw [same_key, at_b, Option.some.injEq] at at_a
    exact Prod.ext same_key at_a.symm

/-- A mapping without repeated keys permutes another one as soon as it is not shorter and all of its
entries are there. -/
lemma perm_iff_of_keys_nodup {entries others : List (String × Value)}
    (distinct : (Assoc.keys entries).Nodup) :
    entries.Perm others ↔ entries.length = others.length ∧ ∀ entry ∈ entries, entry ∈ others := by
  constructor
  · intro permuted
    exact ⟨permuted.length_eq, fun entry => permuted.mem_iff.mp⟩
  · rintro ⟨same_length, within⟩
    have entries_distinct : entries.Nodup := List.Nodup.of_map Prod.fst distinct
    exact (List.subperm_of_subset entries_distinct within).perm_of_length_le same_length.ge

/-! ## Comparing plain data -/

variable {shows : InstanceRef → Value → Bool} {a b : Value}

/-- Sequences are equal exactly if their items have the same sorted forms. -/
lemma forall₂_equalWith_iff {items others : List Value}
    (each : ∀ item ∈ items, ∀ b, b.Plain → (equalWith shows item b = true ↔ item.sorted = b.sorted))
    (plain : ∀ other ∈ others, other.Plain) :
    List.Forall₂ (fun a b => equalWith shows a b = true) items others ↔
      items.map sorted = others.map sorted := by
  induction items generalizing others with
  | nil => simp
  | cons item rest ih =>
    cases others with
    | nil => simp
    | cons other others =>
      rw [List.forall_mem_cons] at each plain
      rw [List.forall₂_cons, List.map_cons, List.map_cons, List.cons.injEq,
        each.1 other plain.1, ih each.2 plain.2]

/-- An entry has an equal one on the other side exactly if its sorted form is there. -/
lemma exists_equalWith_iff {others : List (String × Value)} {key : String} {a : Value}
    (distinct : (Assoc.keys others).Nodup) (plain : ∀ entry ∈ others, entry.2.Plain)
    (compares : ∀ b, b.Plain → (equalWith shows a b = true ↔ a.sorted = b.sorted)) :
    (∃ b, Assoc.get? others key = some b ∧ equalWith shows a b = true) ↔
      (key, a.sorted) ∈ sortedEntries others := by
  rw [sortedEntries_eq_map, List.mem_map]
  constructor
  · rintro ⟨b, there, equal⟩
    have mem := (Assoc.get?_eq_some_iff_mem distinct).mp there
    exact ⟨(key, b), mem, by rw [(compares b (plain _ mem)).mp equal]⟩
  · rintro ⟨⟨other, b⟩, mem, same⟩
    obtain ⟨rfl, same_value⟩ := Prod.mk.inj same
    exact ⟨b, (Assoc.get?_eq_some_iff_mem distinct).mpr mem,
      (compares b (plain _ mem)).mpr same_value.symm⟩

/-- Plain values are equal exactly if they have the same sorted form. -/
theorem Plain.equalWith_iff (plain : a.Plain) (plain' : b.Plain) :
    equalWith shows a b = true ↔ a.sorted = b.sorted := by
  induction plain generalizing b with
  | null => cases plain' <;> simp [equalWith, sorted]
  | bool x => cases plain' <;> simp [equalWith, sorted]
  | int i => cases plain' <;> simp [equalWith, sorted]
  | string s => cases plain' <;> simp [equalWith, sorted]
  | @array items each ih =>
    cases plain' with
    | @array others each' =>
      rw [equalWith, equalItems_iff, forall₂_equalWith_iff (fun item mem b => ih item mem) each',
        sorted, sorted, sortedItems_eq_map, sortedItems_eq_map, array.injEq]
    | _ => simp [equalWith, sorted]
  | @object entries distinct each ih =>
    cases plain' with
    | @object others distinct' each' =>
      have keys_distinct : (Assoc.keys (sortedEntries entries)).Nodup := by
        rwa [keys_sortedEntries]
      have keys_distinct' : (Assoc.keys (sortedEntries others)).Nodup := by
        rwa [keys_sortedEntries]
      have lengths (entries : List (String × Value)) :
          (sortedEntries entries).length = entries.length := by
        rw [sortedEntries_eq_map, List.length_map]
      calc equalWith shows (.object entries) (.object others) = true
          ↔ entries.length = others.length ∧ ∀ entry ∈ entries, ∃ b,
              Assoc.get? others entry.1 = some b ∧ equalWith shows entry.2 b = true := by
            rw [equalWith, Bool.and_eq_true, beq_iff_eq, entriesWithin_iff]
        _ ↔ entries.length = others.length ∧ ∀ entry ∈ entries,
              (entry.1, entry.2.sorted) ∈ sortedEntries others :=
            and_congr_right fun _ => forall₂_congr fun entry mem =>
              exists_equalWith_iff distinct' each' fun b => ih entry mem
        _ ↔ (sortedEntries entries).Perm (sortedEntries others) := by
            rw [perm_iff_of_keys_nodup keys_distinct, lengths, lengths,
              sortedEntries_eq_map entries, List.forall_mem_map]
        _ ↔ (Value.object entries).sorted = (Value.object others).sorted := by
            rw [← sortEntries_eq_sortEntries_iff keys_distinct', sorted, sorted, object.injEq]
    | _ => simp [equalWith, sorted]

/-- However instances look, plain values are compared through their sorted forms. -/
theorem Plain.equal_iff (plain : a.Plain) (plain' : b.Plain) (views : Views) :
    a.equal views b = true ↔ a.sorted = b.sorted := by
  obtain ⟨shows, eq⟩ := exists_equalWith views
  rw [eq, plain.equalWith_iff plain']

/-- Equal mappings are of one size and have the same keys. -/
lemma keys_of_equal {entries others : List (String × Value)} {views : Views}
    (distinct : (Assoc.keys entries).Nodup)
    (equal : (Value.object entries).equal views (.object others) = true) :
    entries.length = others.length ∧ ∀ key, key ∈ Assoc.keys entries ↔ key ∈ Assoc.keys others := by
  obtain ⟨shows, eq⟩ := exists_equalWith views
  rw [eq, equalWith, Bool.and_eq_true, beq_iff_eq, entriesWithin_iff_keys] at equal
  obtain ⟨same_length, within, -⟩ := equal
  have without := keys_subset_of_length_eq distinct same_length within
  exact ⟨same_length, fun key => ⟨fun mem => within mem, fun mem => without mem⟩⟩

end Value

/-- **Equality of plain data is equality up to the order of mappings.**  Two plain values are equal
exactly if they are the same value once the entries of every mapping at every depth are sorted by
their keys.  So equality is an equivalence relation on plain values, and equal mappings are of one
size and have the same keys. -/
theorem plain_equality_is_sorted_identity (views : Views) :
    (∀ a b : Value, a.Plain → b.Plain → (a.equal views b = true ↔ a.sorted = b.sorted)) ∧
    Equivalence (fun a b : { v : Value // v.Plain } => a.1.equal views b.1 = true) ∧
    ∀ entries others : Mapping, (Value.object entries).Plain → (Value.object others).Plain →
      (Value.object entries).equal views (.object others) = true →
        entries.length = others.length ∧ ∀ key, key ∈ entries.keys ↔ key ∈ others.keys := by
  have through_sorted (a b : { v : Value // v.Plain }) :
      a.1.equal views b.1 = true ↔ a.1.sorted = b.1.sorted := a.2.equal_iff b.2 views
  refine ⟨fun a b plain plain' => plain.equal_iff plain' views, ?_, ?_⟩
  · constructor
    · intro a
      exact (through_sorted a a).mpr rfl
    · intro a b equal
      exact (through_sorted b a).mpr ((through_sorted a b).mp equal).symm
    · intro a b c equal equal'
      exact (through_sorted a c).mpr
        (((through_sorted a b).mp equal).trans ((through_sorted b c).mp equal'))
  · intro entries others plain _ equal
    cases plain with
    | object distinct each => exact Value.keys_of_equal distinct equal

/-! ### Entries in different orders -/

/-- A mapping with a mapping inside. -/
def orderedPoint : Value :=
  .object [("name", .string "p"), ("at", .array [.object [("x", .null), ("y", .int 2)]])]

/-- The same with the entries of both mappings the other way round. -/
def reversedPoint : Value :=
  .object [("at", .array [.object [("y", .int 2), ("x", .null)]]), ("name", .string "p")]

theorem reversed_mappings_sort_alike :
    orderedPoint.Plain ∧ reversedPoint.Plain ∧ orderedPoint.equal .none reversedPoint = true ∧
    orderedPoint.sorted = reversedPoint.sorted := by
  have inner : (Value.object [("x", .null), ("y", .int 2)]).Plain :=
    .object (by decide) (by simp [Value.Plain.null, Value.Plain.int])
  have reversed_inner : (Value.object [("y", .int 2), ("x", .null)]).Plain :=
    .object (by decide) (by simp [Value.Plain.null, Value.Plain.int])
  have ordered : orderedPoint.Plain :=
    .object (by decide) (by simp [Value.Plain.string, Value.Plain.array, inner])
  have reversed : reversedPoint.Plain :=
    .object (by decide) (by simp [Value.Plain.string, Value.Plain.array, reversed_inner])
  have equal : orderedPoint.equal .none reversedPoint = true := by decide
  exact ⟨ordered, reversed, equal,
    ((plain_equality_is_sorted_identity .none).1 _ _ ordered reversed).mp equal⟩

end Conformance
