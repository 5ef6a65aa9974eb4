/-!
# Insertion-ordered finite maps

A finite map is kept as the list of its entries in the order in which their keys first came in.
Replacing the value of a key leaves the entry where it stands; a new key goes to the end.  Mappings
of values, the entries of a scope and the registered extension sets are all of this kind, because
the order of first appearance is what every answer shows.

## Parts

* `Assoc.get?`, `Assoc.insert`, `Assoc.merge`, `Assoc.ofList` are the operations.
* `Assoc.keys` is the view that the order laws are stated on.
* `Assoc.get?_insert` and `Assoc.keys_insert` say what one insertion does to either,
  `Assoc.insert_of_get?` when it does nothing, and `Assoc.insert_insert` when it is undone.
* `Assoc.get?_eq_some_iff_mem` reads a map without repeated keys.
* `Assoc.insert_append_cons` and `Assoc.insert_of_notMem` say where the inserted entry stands.
* `Assoc.keys_merge` and `Assoc.get?_merge` say what inserting a list of bindings does.
-/

namespace Conformance

/-- A finite map as the list of its entries, oldest key first. -/
abbrev Assoc (κ : Type) (α : Type) := List (κ × α)

namespace Assoc

variable {κ α : Type} [DecidableEq κ]

/-! ## Operations -/

/-- The value of a key, read at the first entry that has it. -/
def get? : Assoc κ α → κ → Option α
  | [], _ => none
  | (k, v) :: rest, key => if k = key then some v else get? rest key

/-- Bind a key: in place if it is present, at the end otherwise. -/
def insert : Assoc κ α → κ → α → Assoc κ α
  | [], key, value => [(key, value)]
  | (k, v) :: rest, key, value =>
    if k = key then (k, value) :: rest else (k, v) :: insert rest key value

/-- Insert every entry of the second map into the first, in order. -/
def merge (entries more : Assoc κ α) : Assoc κ α :=
  more.foldl (fun acc entry => acc.insert entry.1 entry.2) entries

/-- The map of a list of bindings: a repeated key keeps its first position and its last value. -/
def ofList (bindings : List (κ × α)) : Assoc κ α :=
  merge [] bindings

/-- The keys, oldest first. -/
def keys (entries : Assoc κ α) : List κ :=
  entries.map Prod.fst

/-! ## What one insertion does -/

omit [DecidableEq κ] in
@[simp] theorem keys_nil : keys ([] : Assoc κ α) = [] := rfl

omit [DecidableEq κ] in
@[simp] theorem keys_cons (entry : κ × α) (rest : Assoc κ α) :
    keys (entry :: rest) = entry.1 :: keys rest := rfl

theorem get?_insert_self (entries : Assoc κ α) (key : κ) (value : α) :
    (entries.insert key value).get? key = some value := by
  induction entries with
  | nil => simp [insert, get?]
  | cons entry rest ih =>
    obtain ⟨k, v⟩ := entry
    by_cases h : k = key <;> simp [insert, get?, h, ih]

theorem get?_insert_of_ne (entries : Assoc κ α) {key other : κ} (value : α) (ne : key ≠ other) :
    (entries.insert key value).get? other = entries.get? other := by
  induction entries with
  | nil => simp [insert, get?, ne]
  | cons entry rest ih =>
    obtain ⟨k, v⟩ := entry
    by_cases h : k = key
    · subst h; simp [insert, get?, ne]
    · by_cases h' : k = other <;> simp [insert, get?, h, h', ih, ne.symm]

/-- Inserting reads back at its own key and disturbs no other. -/
theorem get?_insert (entries : Assoc κ α) (key other : κ) (value : α) :
    (entries.insert key value).get? other =
      if key = other then some value else entries.get? other := by
  by_cases h : key = other
  · subst h; simp [get?_insert_self]
  · simp [get?_insert_of_ne entries value h, h]

/-- Binding a key to the value that it has changes nothing. -/
theorem insert_of_get? {entries : Assoc κ α} {key : κ} {value : α}
    (there : entries.get? key = some value) : entries.insert key value = entries := by
  induction entries with
  | nil => cases there
  | cons entry rest ih =>
    obtain ⟨k, v⟩ := entry
    by_cases h : k = key
    · subst h; simp_all [insert, get?]
    · simp_all [insert, get?]

/-- Of two values bound to one key, the second one stays. -/
theorem insert_insert (entries : Assoc κ α) (key : κ) (value value' : α) :
    (entries.insert key value).insert key value' = entries.insert key value' := by
  induction entries with
  | nil => simp [insert]
  | cons entry rest ih =>
    obtain ⟨k, v⟩ := entry
    by_cases h : k = key <;> simp [insert, h, ih]

/-- Inserting keeps the order of the keys and adds a new one at the end. -/
theorem keys_insert (entries : Assoc κ α) (key : κ) (value : α) :
    (entries.insert key value).keys =
      if key ∈ entries.keys then entries.keys else entries.keys ++ [key] := by
  induction entries with
  | nil => simp [insert]
  | cons entry rest ih =>
    obtain ⟨k, v⟩ := entry
    by_cases h : k = key
    · subst h; simp [insert]
    · have ne : key ≠ k := fun h' => h h'.symm
      by_cases mem : key ∈ keys rest <;> simp [insert, h, ih, mem, ne]

theorem get?_eq_none_iff (entries : Assoc κ α) (key : κ) :
    entries.get? key = none ↔ key ∉ entries.keys := by
  induction entries with
  | nil => simp [get?]
  | cons entry rest ih =>
    obtain ⟨k, v⟩ := entry
    by_cases h : k = key
    · subst h; simp [get?]
    · have ne : key ≠ k := fun h' => h h'.symm
      simp [get?, h, ih, ne]

/-! ## Where an entry stands -/

/-- The entry that a key reads is the first one that has it. -/
theorem exists_split_of_get? {entries : Assoc κ α} {key : κ} {value : α}
    (there : entries.get? key = some value) :
    ∃ before after : Assoc κ α, entries = before ++ (key, value) :: after ∧ key ∉ before.keys := by
  induction entries with
  | nil => cases there
  | cons entry rest ih =>
    obtain ⟨k, v⟩ := entry
    by_cases h : k = key
    · subst h
      have same : v = value := by simpa [get?] using there
      exact ⟨[], rest, by simp [same], by simp⟩
    · have below : get? rest key = some value := by simpa [get?, h] using there
      obtain ⟨before, after, rfl, first⟩ := ih below
      have ne : key ≠ k := fun h' => h h'.symm
      exact ⟨(k, v) :: before, after, rfl, by simp [ne, first]⟩

theorem mem_of_get? {entries : Assoc κ α} {key : κ} {value : α}
    (there : entries.get? key = some value) : (key, value) ∈ entries := by
  obtain ⟨before, after, rfl, -⟩ := exists_split_of_get? there
  simp

theorem get?_append_cons_self {before : Assoc κ α} {key : κ} (first : key ∉ before.keys)
    (value : α) (after : Assoc κ α) :
    get? (before ++ (key, value) :: after) key = some value := by
  induction before with
  | nil => simp [get?]
  | cons entry rest ih =>
    simp only [keys_cons, List.mem_cons, not_or] at first
    have ne : entry.1 ≠ key := fun same => first.1 same.symm
    simpa [get?, ne] using ih first.2

/-- If every key is there once, each entry is the one that its key reads. -/
theorem get?_eq_some_iff_mem {entries : Assoc κ α} (distinct : entries.keys.Nodup) {key : κ}
    {value : α} : entries.get? key = some value ↔ (key, value) ∈ entries := by
  constructor
  · exact mem_of_get?
  · intro mem
    obtain ⟨before, after, rfl⟩ := List.append_of_mem mem
    have first : key ∉ keys before := by
      simp only [keys, List.map_append, List.map_cons, List.nodup_append, List.mem_cons] at distinct
      intro there
      exact distinct.2.2 key there key (Or.inl rfl) rfl
    exact get?_append_cons_self first value after

/-- A key that is there keeps its place. -/
theorem insert_append_cons {before : Assoc κ α} {key : κ} (first : key ∉ before.keys)
    (old value : α) (after : Assoc κ α) :
    insert (before ++ (key, old) :: after) key value = before ++ (key, value) :: after := by
  induction before with
  | nil => simp [insert]
  | cons entry rest ih =>
    simp only [keys_cons, List.mem_cons, not_or] at first
    have ne : entry.1 ≠ key := fun same => first.1 same.symm
    simpa [insert, ne] using ih first.2

/-- A new key goes last. -/
theorem insert_of_notMem {entries : Assoc κ α} {key : κ} (absent : key ∉ entries.keys)
    (value : α) : insert entries key value = entries ++ [(key, value)] := by
  induction entries with
  | nil => rfl
  | cons entry rest ih =>
    simp only [keys_cons, List.mem_cons, not_or] at absent
    have ne : entry.1 ≠ key := fun same => absent.1 same.symm
    simpa [insert, ne] using ih absent.2

/-! ## What a list of bindings does -/

theorem merge_cons (entries rest : Assoc κ α) (key : κ) (value : α) :
    entries.merge ((key, value) :: rest) = (entries.insert key value).merge rest := rfl

/-- Merging keeps the keys that are there and adds the new ones in the order of their first
appearance. -/
theorem keys_merge (entries more : Assoc κ α) :
    (entries.merge more).keys = entries.keys ++ ((keys more).removeAll entries.keys).eraseDups := by
  induction more generalizing entries with
  | nil => simp [merge]
  | cons entry rest ih =>
    obtain ⟨key, value⟩ := entry
    rw [merge_cons, ih, keys_insert, keys_cons, List.cons_removeAll]
    by_cases there : key ∈ entries.keys
    · simp [there]
    · have behind : (keys rest).removeAll (entries.keys ++ [key]) =
          ((keys rest).removeAll entries.keys).filter fun other => !other == key := by
        rw [List.removeAll, List.removeAll, List.filter_filter]
        apply List.filter_congr
        intro other _
        by_cases same : other = key <;> simp [same]
      simp [there, List.eraseDups_cons, behind]

/-- After merging, a key reads the last of its new bindings, or else what it read before. -/
theorem get?_merge (entries more : Assoc κ α) (key : κ) :
    (entries.merge more).get? key =
      ((more.filter fun entry => entry.1 = key).getLast?.map Prod.snd).or (entries.get? key) := by
  induction more generalizing entries with
  | nil => simp [merge]
  | cons entry rest ih =>
    obtain ⟨other, value⟩ := entry
    rw [merge_cons, ih, get?_insert]
    by_cases same : other = key
    · subst same
      cases later : (rest.filter fun entry => entry.1 = other).getLast? with
      | none => simp [List.getLast?_cons, later]
      | some entry => simp [List.getLast?_cons, later]
    · simp [same]

/-- The keys of a list of bindings, in the order of their first appearance. -/
theorem keys_ofList (bindings : List (κ × α)) :
    (ofList bindings).keys = (bindings.map Prod.fst).eraseDups := by
  have none_there : (keys bindings).removeAll [] = keys bindings :=
    List.filter_eq_self.mpr fun _ _ => rfl
  rw [ofList, keys_merge, keys_nil, List.nil_append, none_there]
  rfl

/-- In a list of bindings the last one of a key counts. -/
theorem get?_ofList (bindings : List (κ × α)) (key : κ) :
    (ofList bindings).get? key =
      (bindings.filter fun entry => entry.1 = key).getLast?.map Prod.snd := by
  simp [ofList, get?_merge, get?]

end Assoc

end Conformance
