import Mathlib.Data.List.Perm.Subperm
import Conformance.Proofs.Value.Equality

/-!
# Equality, one layer at a time

Two values that are no instances are equal if they are the same on the outside, and if what stands
inside them at places that face each other is equal.  Places face each other at the same position of
two sequences and under the same key of two mappings.  Said so, equality is not a recursion over
lists of items and entries any more, and what holds of it is proved by induction on what stands
directly inside.

## Parts

* `Value.IsData` are the values that are no instances.
* `Value.SameOutside` is equality of the outer layer, and `Value.Facing` says what stands inside two
  values at places that face each other.
* `Value.equalWith_iff_of_data` is equality one layer at a time.
* `Value.SameOutside.symm` and `Value.Facing.symm` look at a layer from the other side.
-/

namespace Conformance

namespace Value

variable {shows : InstanceRef → Value → Bool} {a b x y : Value}

/-! ## One layer of a value -/

/-- The value is no instance, so it is compared by what it holds. -/
def IsData (v : Value) : Prop :=
  ∀ i, v ≠ .inst i

lemma isData_or_inst (v : Value) : v.IsData ∨ ∃ i, v = .inst i := by
  by_cases instance_ : ∃ i, v = .inst i
  · exact .inr instance_
  · exact .inl fun i is_instance => instance_ ⟨i, is_instance⟩

/-- The two values are the same apart from what stands inside them.  Sequences have the same length,
and mappings the same size and the keys of the first in the second. -/
inductive SameOutside : Value → Value → Prop
  | null : SameOutside .null .null
  | bool (b : Bool) : SameOutside (.bool b) (.bool b)
  | int (i : Int64) : SameOutside (.int i) (.int i)
  | float {x y : Binary64} (same : x.equal y = true) : SameOutside (.float x) (.float y)
  | intFloat {i : Int64} {x : Binary64} (same : (Binary64.ofInt i.toInt).equal x = true) :
      SameOutside (.int i) (.float x)
  | floatInt {x : Binary64} {i : Int64} (same : (Binary64.ofInt i.toInt).equal x = true) :
      SameOutside (.float x) (.int i)
  | string (s : String) : SameOutside (.string s) (.string s)
  | array {items others : List Value} (length : items.length = others.length) :
      SameOutside (.array items) (.array others)
  | object {entries others : List (String × Value)} (length : entries.length = others.length)
      (keys : Assoc.keys entries ⊆ Assoc.keys others) :
      SameOutside (.object entries) (.object others)
  | function {f g : FunctionRef} (same : f.code = g.code) : SameOutside (.function f) (.function g)
  | cls {c d : ClassRef} (same : c.id = d.id) : SameOutside (.cls c) (.cls d)

/-- What stands directly inside two values at places that face each other: at the same position of
two sequences, or under the same key of two mappings. -/
inductive Facing : Value → Value → Value → Value → Prop
  | item {items others : List Value} {n : ℕ} {x y : Value} (here : items[n]? = some x)
      (there : others[n]? = some y) : Facing (.array items) (.array others) x y
  | entry {entries others : List (String × Value)} {key : String} {x y : Value}
      (here : (key, x) ∈ entries) (there : Assoc.get? others key = some y) :
      Facing (.object entries) (.object others) x y

lemma Facing.isData (facing : Facing a b x y) : a.IsData ∧ b.IsData := by
  cases facing <;> exact ⟨fun _ => nofun, fun _ => nofun⟩

lemma Facing.mem_children (facing : Facing a b x y) : x ∈ a.children ∧ y ∈ b.children := by
  cases facing with
  | item here there => exact ⟨List.mem_of_getElem? here, List.mem_of_getElem? there⟩
  | entry here there =>
    exact ⟨List.mem_map_of_mem here, List.mem_map_of_mem (Assoc.mem_of_get? there)⟩

/-! ## Equality one layer at a time -/

lemma equalItems_iff_getElem? {items others : List Value} :
    equalItems shows items others = true ↔ items.length = others.length ∧
      ∀ (n : ℕ) (x y : Value), items[n]? = some x → others[n]? = some y →
        equalWith shows x y = true := by
  rw [equalItems_iff, List.forall₂_iff_get]
  refine and_congr_right fun _ => ⟨fun each n x y here there => ?_, fun each n here there => ?_⟩
  · obtain ⟨inside, rfl⟩ := List.getElem?_eq_some_iff.mp here
    obtain ⟨inside', rfl⟩ := List.getElem?_eq_some_iff.mp there
    exact each n inside inside'
  · exact each n _ _ (List.getElem?_eq_getElem here) (List.getElem?_eq_getElem there)

lemma entriesWithin_iff_keys {entries others : List (String × Value)} :
    entriesWithin shows entries others = true ↔ Assoc.keys entries ⊆ Assoc.keys others ∧
      ∀ key x y, (key, x) ∈ entries → Assoc.get? others key = some y →
        equalWith shows x y = true := by
  rw [entriesWithin_iff]
  constructor
  · intro each
    constructor
    · intro key mem
      obtain ⟨entry, there, rfl⟩ := List.mem_map.mp mem
      obtain ⟨y, found, -⟩ := each entry there
      exact List.mem_map.mpr ⟨(entry.1, y), Assoc.mem_of_get? found, rfl⟩
    · intro key x y here there
      obtain ⟨y', found, equal⟩ := each (key, x) here
      obtain rfl : y' = y := Option.some.inj (found.symm.trans there)
      exact equal
  · rintro ⟨within, each⟩ ⟨key, x⟩ here
    have there : Assoc.get? others key ≠ none :=
      fun absent => (Assoc.get?_eq_none_iff _ _).mp absent (within (List.mem_map_of_mem here))
    obtain ⟨y, found⟩ := Option.ne_none_iff_exists'.mp there
    exact ⟨y, found, each key x y here found⟩

lemma sameOutside_of_equalWith (a_data : a.IsData) (b_data : b.IsData)
    (equal : equalWith shows a b = true) : SameOutside a b := by
  unfold equalWith at equal
  split at equal
  case h_1 => exact .null
  case h_2 => exact beq_iff_eq.mp equal ▸ .bool _
  case h_3 => exact beq_iff_eq.mp equal ▸ .int _
  case h_4 => exact .float equal
  case h_5 => exact .intFloat equal
  case h_6 => exact .floatInt equal
  case h_7 => exact beq_iff_eq.mp equal ▸ .string _
  case h_8 => exact .array (equalItems_iff_getElem?.mp equal).1
  case h_9 =>
    rw [Bool.and_eq_true, beq_iff_eq] at equal
    exact .object equal.1 (entriesWithin_iff_keys.mp equal.2).1
  case h_10 => exact .function (beq_iff_eq.mp equal)
  case h_11 => exact .cls (beq_iff_eq.mp equal)
  case h_12 => exact absurd rfl (a_data _)
  case h_13 => exact absurd rfl (a_data _)
  case h_14 => exact absurd rfl (b_data _)
  case h_15 => cases equal

/-- Data is equal if it is the same outside, and equal at all places inside that face each other. -/
theorem equalWith_iff_of_data (a_data : a.IsData) (b_data : b.IsData) :
    equalWith shows a b = true ↔
      SameOutside a b ∧ ∀ x y, Facing a b x y → equalWith shows x y = true := by
  constructor
  · intro equal
    refine ⟨sameOutside_of_equalWith a_data b_data equal, fun x y facing => ?_⟩
    cases facing with
    | item here there =>
      rw [equalWith] at equal
      exact (equalItems_iff_getElem?.mp equal).2 _ x y here there
    | entry here there =>
      rw [equalWith, Bool.and_eq_true] at equal
      exact (entriesWithin_iff_keys.mp equal.2).2 _ x y here there
  · rintro ⟨same, inside⟩
    cases same with
    | null => rfl
    | bool b => rw [equalWith, beq_self_eq_true]
    | int i => rw [equalWith, beq_self_eq_true]
    | float same => rwa [equalWith]
    | intFloat same => rwa [equalWith]
    | floatInt same => rwa [equalWith]
    | string s => rw [equalWith, beq_self_eq_true]
    | array length =>
      rw [equalWith, equalItems_iff_getElem?]
      exact ⟨length, fun n x y here there => inside x y (.item here there)⟩
    | object length keys =>
      rw [equalWith, Bool.and_eq_true, beq_iff_eq, entriesWithin_iff_keys]
      exact ⟨length, keys, fun key x y here there => inside x y (.entry here there)⟩
    | function same => rw [equalWith, same, beq_self_eq_true]
    | cls same => rw [equalWith, same, beq_self_eq_true]

/-! ## A layer from the other side -/

/-- Mappings of one size have the same keys as soon as one has all keys of the other. -/
lemma keys_subset_of_length_eq {entries others : List (String × Value)}
    (distinct : (Assoc.keys entries).Nodup) (length : entries.length = others.length)
    (within : Assoc.keys entries ⊆ Assoc.keys others) :
    Assoc.keys others ⊆ Assoc.keys entries := by
  have no_longer : (Assoc.keys others).length ≤ (Assoc.keys entries).length := by
    rw [Assoc.keys, Assoc.keys, List.length_map, List.length_map]
    exact Nat.le_of_eq length.symm
  exact ((List.subperm_of_subset distinct within).perm_of_length_le no_longer).symm.subset

lemma SameOutside.symm (distinct : a.KeysDistinct) (same : SameOutside a b) : SameOutside b a := by
  cases same with
  | null => exact .null
  | bool b => exact .bool b
  | int i => exact .int i
  | float same => exact .float (Binary64.equal_comm _ _ ▸ same)
  | intFloat same => exact .floatInt same
  | floatInt same => exact .intFloat same
  | string s => exact .string s
  | array length => exact .array length.symm
  | object length keys =>
    exact .object length.symm (keys_subset_of_length_eq (distinct [] _ rfl) length keys)
  | function same => exact .function same.symm
  | cls same => exact .cls same.symm

lemma Facing.symm (distinct : a.KeysDistinct) (facing : Facing a b x y) : Facing b a y x := by
  cases facing with
  | item here there => exact .item there here
  | entry here there =>
    exact .entry (Assoc.mem_of_get? there)
      ((Assoc.get?_eq_some_iff_mem (distinct [] _ rfl)).mpr here)

end Value

end Conformance
