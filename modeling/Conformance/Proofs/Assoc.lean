import Mathlib.Data.List.Nodup
import Mathlib.Tactic.Common
import Conformance.Assoc

/-!
# Lists of bindings as finite maps

A list of bindings becomes a finite map by one insertion after the other, and what insertion does to
a key that is there already is the only way in which a binding can get lost.  So the list is the map
exactly if no key comes twice, and a shorter map is the sign that one does.  Of several maps merged
into one, the last that has a key decides what the key reads.

## Parts

* `Assoc.nodup_keys_ofList` says that a map of bindings holds each key once.
* `Assoc.ofList_eq_self_iff` and `Assoc.length_ofList_eq_iff` say when nothing is merged.
* `Assoc.get?_ofList_append_cons` and `Assoc.ofList_eq_singleton_iff` say what becomes of bindings
  that share a key.
* `Assoc.keys_foldl_merge` and `Assoc.get?_foldl_merge` say what several maps merged into one hold.
-/

namespace Conformance.Assoc

variable {κ α : Type} [DecidableEq κ]

/-! ## Keys that come once -/

lemma nodup_keys_insert {entries : Assoc κ α} (distinct : entries.keys.Nodup) (key : κ)
    (value : α) : (entries.insert key value).keys.Nodup := by
  rw [keys_insert]
  split
  · exact distinct
  · rename_i absent
    rw [List.nodup_append]
    refine ⟨distinct, List.nodup_singleton key, ?_⟩
    rintro other there _ last rfl
    exact absent (List.mem_singleton.mp last ▸ there)

lemma nodup_keys_merge {entries : Assoc κ α} (distinct : entries.keys.Nodup) (more : Assoc κ α) :
    (entries.merge more).keys.Nodup := by
  induction more generalizing entries with
  | nil => exact distinct
  | cons entry rest ih => exact ih (nodup_keys_insert distinct entry.1 entry.2)

lemma nodup_keys_ofList (bindings : List (κ × α)) : (ofList bindings).keys.Nodup :=
  nodup_keys_merge (by simp) bindings

/-! ## Bindings that are not merged -/

/-- New keys go to the end, one after the other. -/
lemma merge_of_nodup {entries more : Assoc κ α} (distinct : (keys (entries ++ more)).Nodup) :
    entries.merge more = entries ++ more := by
  induction more generalizing entries with
  | nil => simp [merge]
  | cons entry rest ih =>
    rw [List.append_cons] at distinct
    have new : entry.1 ∉ entries.keys := by
      intro there
      have before : (keys (entries ++ [entry])).Nodup := by
        rw [keys, List.map_append] at distinct
        exact distinct.of_append_left
      rw [keys, List.map_append, List.nodup_append'] at before
      exact before.2.2 there (List.mem_singleton_self entry.1)
    rw [merge_cons, insert_of_notMem new, ih distinct, List.append_assoc, List.singleton_append]

lemma length_insert_le (entries : Assoc κ α) (key : κ) (value : α) :
    (entries.insert key value).length ≤ entries.length + 1 := by
  have keys_length := congrArg List.length (keys_insert entries key value)
  rw [keys, List.length_map] at keys_length
  rw [keys_length]
  split <;> simp [keys]

lemma length_merge_le (entries more : Assoc κ α) :
    (entries.merge more).length ≤ entries.length + more.length := by
  induction more generalizing entries with
  | nil => exact Nat.le_refl _
  | cons entry rest ih =>
    have rest_le := ih (entries.insert entry.1 entry.2)
    have first_le := length_insert_le entries entry.1 entry.2
    rw [merge_cons, List.length_cons]
    omega

/-- Only a key that is new makes a map longer. -/
lemma merge_eq_append_of_length {entries more : Assoc κ α}
    (length : (entries.merge more).length = entries.length + more.length) :
    entries.merge more = entries ++ more := by
  induction more generalizing entries with
  | nil => simp [merge]
  | cons entry rest ih =>
    obtain ⟨key, value⟩ := entry
    rw [merge_cons, List.length_cons] at length
    have rest_le := length_merge_le (entries.insert key value) rest
    have new : key ∉ entries.keys := by
      intro there
      have keys_length := congrArg List.length (keys_insert entries key value)
      rw [if_pos there, keys, keys, List.length_map, List.length_map] at keys_length
      omega
    rw [insert_of_notMem new] at length
    have rest_length : ((entries ++ [(key, value)]).merge rest).length =
        (entries ++ [(key, value)]).length + rest.length := by
      rw [length, List.length_append, List.length_singleton]
      omega
    rw [merge_cons, insert_of_notMem new, ih rest_length, List.append_assoc, List.singleton_append]

/-- A list of bindings is the map of them exactly if it holds each key once. -/
lemma ofList_eq_self_iff {bindings : List (κ × α)} :
    ofList bindings = bindings ↔ (bindings.map Prod.fst).Nodup := by
  constructor
  · intro whole
    have distinct := nodup_keys_ofList bindings
    rwa [whole] at distinct
  · intro distinct
    exact merge_of_nodup distinct

/-- What is merged is missing. -/
lemma length_ofList_eq_iff {bindings : List (κ × α)} :
    (ofList bindings).length = bindings.length ↔ (bindings.map Prod.fst).Nodup := by
  rw [← ofList_eq_self_iff]
  constructor
  · intro length
    exact merge_eq_append_of_length (length.trans (Nat.zero_add _).symm)
  · intro whole
    rw [whole]

/-! ## The bindings of a key -/

lemma filter_of_notMem {entries : Assoc κ α} {key : κ} (absent : key ∉ entries.keys) :
    entries.filter (fun entry => entry.1 = key) = [] := by
  rw [List.filter_eq_nil_iff]
  rintro entry mem same
  exact absent (List.mem_map.mpr ⟨entry, mem, by simpa using same⟩)

/-- In a map without repeated keys there is one binding of a key. -/
lemma filter_of_get? {entries : Assoc κ α} (distinct : entries.keys.Nodup) {key : κ} {value : α}
    (there : entries.get? key = some value) :
    entries.filter (fun entry => entry.1 = key) = [(key, value)] := by
  obtain ⟨before, after, rfl, first⟩ := exists_split_of_get? there
  have last : key ∉ keys after := by
    rw [keys, List.map_append, List.map_cons, List.nodup_append'] at distinct
    exact (List.nodup_cons.mp distinct.2.1).1
  rw [List.filter_append, List.filter_cons_of_pos (by simp), filter_of_notMem first,
    filter_of_notMem last, List.nil_append]

/-- In a list of bindings a key reads the last one that has it. -/
lemma get?_ofList_append_cons (before : List (κ × α)) {after : List (κ × α)} {key : κ}
    (last : key ∉ after.map Prod.fst) (value : α) :
    (ofList (before ++ (key, value) :: after)).get? key = some value := by
  rw [get?_ofList, List.filter_append, List.filter_cons_of_pos (by simp), filter_of_notMem last,
    List.getLast?_concat]
  rfl

/-! ## Bindings of one key -/

lemma merge_of_one_key {before : List (κ × α)} {key : κ}
    (one_key : ∀ binding ∈ before, binding.1 = key) (old value : α) :
    merge [(key, old)] (before ++ [(key, value)]) = [(key, value)] := by
  induction before generalizing old with
  | nil => simp [merge, insert]
  | cons binding rest ih =>
    obtain ⟨rfl, rest_key⟩ := List.forall_mem_cons.mp one_key
    rw [List.cons_append, merge_cons, insert, if_pos rfl, ih rest_key]

lemma ofList_of_one_key {before : List (κ × α)} {key : κ}
    (one_key : ∀ binding ∈ before, binding.1 = key) (value : α) :
    ofList (before ++ [(key, value)]) = [(key, value)] := by
  cases before with
  | nil => rfl
  | cons binding rest =>
    obtain ⟨rfl, rest_key⟩ := List.forall_mem_cons.mp one_key
    exact merge_of_one_key rest_key binding.2 value

/-- The map of a list of bindings has a single entry exactly if all bindings are of its key and the
last one is of its value. -/
lemma ofList_eq_singleton_iff {bindings : List (κ × α)} {key : κ} {value : α} :
    ofList bindings = [(key, value)] ↔
      ∃ before, bindings = before ++ [(key, value)] ∧ ∀ binding ∈ before, binding.1 = key := by
  constructor
  · intro whole
    have names : (bindings.map Prod.fst).eraseDups = [key] := by
      rw [← keys_ofList, whole]
      rfl
    have one_key : ∀ binding ∈ bindings, binding.1 = key := by
      intro binding there
      have mem := List.mem_eraseDups.mpr (List.mem_map_of_mem (f := Prod.fst) there)
      rw [names] at mem
      exact List.mem_singleton.mp mem
    rcases List.eq_nil_or_concat' bindings with rfl | ⟨before, last, rfl⟩
    · cases names
    · obtain ⟨before_key, last_key⟩ := List.forall_mem_append.mp one_key
      obtain rfl : last.1 = key := last_key last (List.mem_singleton_self last)
      rw [ofList_of_one_key before_key] at whole
      obtain ⟨-, rfl⟩ := Prod.mk.inj (List.cons.inj whole).1
      exact ⟨before, rfl, before_key⟩
  · rintro ⟨before, rfl, one_key⟩
    exact ofList_of_one_key one_key value

/-! ## Several maps behind one another -/

lemma foldl_merge (entries : Assoc κ α) (maps : List (Assoc κ α)) :
    maps.foldl merge entries = entries.merge maps.flatten :=
  List.foldl_flatten.symm

/-- The names of all maps are those of each, without the ones that were there before. -/
lemma keys_foldl_merge (maps : List (Assoc κ α)) :
    (maps.foldl merge []).keys = (maps.flatMap keys).eraseDups := by
  rw [foldl_merge, ← ofList, keys_ofList, List.map_flatten]
  rfl

lemma getLast?_filter_of_nodup {entries : Assoc κ α} (distinct : entries.keys.Nodup) (key : κ) :
    (entries.filter fun entry => entry.1 = key).getLast?.map Prod.snd = entries.get? key := by
  cases there : entries.get? key with
  | some value => rw [filter_of_get? distinct there]; rfl
  | none => rw [filter_of_notMem ((get?_eq_none_iff entries key).mp there)]; rfl

/-- A map without repeated keys goes before the one that it is merged into. -/
lemma get?_merge_of_nodup {more : Assoc κ α} (distinct : more.keys.Nodup) (entries : Assoc κ α)
    (key : κ) : (entries.merge more).get? key = (more.get? key).or (entries.get? key) := by
  rw [get?_merge, getLast?_filter_of_nodup distinct]

/-- Of several maps the last one that has a key decides what the key reads. -/
lemma get?_foldl_merge {maps : List (Assoc κ α)} (distinct : ∀ entries ∈ maps, entries.keys.Nodup)
    (entries : Assoc κ α) (key : κ) :
    (maps.foldl merge entries).get? key =
      (maps.reverse.findSome? fun entries => entries.get? key).or (entries.get? key) := by
  induction maps generalizing entries with
  | nil => rfl
  | cons first rest ih =>
    obtain ⟨first_distinct, rest_distinct⟩ := List.forall_mem_cons.mp distinct
    rw [List.foldl_cons, ih rest_distinct, get?_merge_of_nodup first_distinct, List.reverse_cons,
      List.findSome?_append, List.findSome?_singleton, Option.or_assoc]

end Conformance.Assoc
