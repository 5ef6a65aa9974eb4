import Mathlib.Data.Int.Notation
import Conformance.Proofs.Scope.ReadBack

/-!
# Assignments into plain data

Mappings and sequences are copied and never shared.  An assignment whose owners are all of these two
kinds therefore has one effect: the place that its path names is replaced in the scope.  Everything
else in the scope stays as it is, and so do all host objects.

The entries of a scope are a mapping too.  All segments of a path, the first one included, are then
read and written in the same way, and the laws below are stated on that mapping.

## Parts

* `NamesPosition` says which position of a sequence a segment names, and `Value.Holds` what stands
  at a segment of a mapping or a sequence.
* `Takes` says which paths a value can be assigned to, `Overruns` which of them no sequence is long
  enough for, and `Replaced` what the value is like afterwards.
* `Departs` says that a path leaves the walk of another one.
* `Host.exists_store_of_takes`, `Host.store_of_overruns` and `Host.takes_or_store_error` are the
  three ends of an assignment below an owner, `Host.properties_of_replaced` and
  `Host.properties_of_departs` the two kinds of reads after it.
* `assign_in_plain_data` is the result for assignments to a path.
-/

namespace Conformance

open Text

variable {σ : Type}

/-! ## Positions -/

/-- The segment is written as an index that counts from the start. -/
def CountsFromStart (segment : String) (position : ℕ) : Prop :=
  readInt64? (trim segment.toList) = some (position : ℤ)

/-- The segment names a position in sequences of the given length.  It is a 64-bit integer between
blanks, and counts from the start or, if it is negative, from the end. -/
def NamesPosition (segment : String) (length position : ℕ) : Prop :=
  ∃ i, readInt64? (trim segment.toList) = some i ∧
    (i = position ∨ i < 0 ∧ i + length = position)

section Positions

variable {segment : String} {length position : ℕ}

lemma sequenceIndex_eq_ok_some_iff :
    sequenceIndex segment length = .ok (some position) ↔ NamesPosition segment length position := by
  unfold sequenceIndex NamesPosition
  cases readInt64? (trim segment.toList) with
  | none => simp
  | some i =>
    have one_read : (∃ j, some i = some j ∧ (j = position ∨ j < 0 ∧ j + length = position)) ↔
        (i = position ∨ i < 0 ∧ i + length = position) := by simp
    rw [one_read]
    dsimp only
    split
    · simp only [Except.ok.injEq, Option.some.injEq]
      omega
    · split
      · simp only [Except.ok.injEq, Option.some.injEq]
        omega
      · simp only [Except.ok.injEq, reduceCtorEq, false_iff]
        omega

/-- A segment names some position exactly if its index is not below minus the length. -/
lemma exists_namesPosition_iff :
    (∃ position, NamesPosition segment length position) ↔
      ∃ i, readInt64? (trim segment.toList) = some i ∧ -(length : ℤ) ≤ i := by
  constructor
  · rintro ⟨position, i, read, named⟩
    exact ⟨i, read, by omega⟩
  · rintro ⟨i, read, reaches⟩
    by_cases nonneg : 0 ≤ i
    · exact ⟨i.toNat, i, read, by omega⟩
    · exact ⟨(i + length).toNat, i, read, by omega⟩

lemma NamesPosition.unique {position' : ℕ} (named : NamesPosition segment length position)
    (again : NamesPosition segment length position') : position' = position := by
  have index := sequenceIndex_eq_ok_some_iff.mpr named
  rw [sequenceIndex_eq_ok_some_iff.mpr again] at index
  cases index
  rfl

lemma CountsFromStart.namesPosition (counts : CountsFromStart segment position) (length : ℕ) :
    NamesPosition segment length position :=
  ⟨position, counts, Or.inl rfl⟩

/-- Only an index that counts from the start names a position behind the end. -/
lemma NamesPosition.countsFromStart (named : NamesPosition segment length position)
    (beyond : length ≤ position) : CountsFromStart segment position := by
  obtain ⟨i, read, counted⟩ := named
  have is_position : i = position := by omega
  rw [CountsFromStart, read, is_position]

end Positions

/-! ## Owners that are plain data -/

namespace Value

/-- Whether the value is a mapping or a sequence. -/
def isCollection : Value → Bool
  | .array _ | .object _ => true
  | _ => false

lemma isHostObject_eq_false_of_isCollection {v : Value} (collection : v.isCollection = true) :
    v.isHostObject = false := by
  cases v <;> simp_all [isCollection, isHostObject]

lemma isFunction_eq_false_of_isCollection {v : Value} (collection : v.isCollection = true) :
    v.isFunction = false :=
  isFunction_eq_false_of_isHostObject (isHostObject_eq_false_of_isCollection collection)

/-- The value has the given child at a segment: under an existing key of a mapping, or at a position
that a sequence reaches. -/
inductive Holds : Value → String → Value → Prop
  | key {entries : Mapping} {key : String} {child : Value}
      (there : entries.get? key = some child) : Holds (.object entries) key child
  | element {items : List Value} {segment : String} {position : ℕ} {child : Value}
      (named : NamesPosition segment items.length position)
      (there : items[position]? = some child) : Holds (.array items) segment child

lemma Holds.isCollection {owner child : Value} {segment : String}
    (holds : owner.Holds segment child) : owner.isCollection = true := by
  cases holds <;> rfl

end Value

/-! ## What an assignment takes and what it does -/

/-- What an assignment into plain data asks of its path.  Every segment but the last one names an
existing key or an element in range.  The last one is any key of a mapping, or an index of a
sequence that is not below minus its length. -/
inductive Takes : Value → List String → Prop
  | key (entries : Mapping) (key : String) : Takes (.object entries) [key]
  | index {items : List Value} {segment : String} {i : ℤ}
      (read : readInt64? (trim segment.toList) = some i) (reaches : -(items.length : ℤ) ≤ i) :
      Takes (.array items) [segment]
  | deeper {owner child : Value} {segment next : String} {rest : List String}
      (holds : owner.Holds segment child) (below : Takes child (next :: rest)) :
      Takes owner (segment :: next :: rest)

/-- The path ends at a position behind the end of a sequence, and no sequence can be extended to that
position. -/
inductive Overruns : Value → List String → Prop
  | index {items : List Value} {segment : String} {position : ℕ}
      (named : NamesPosition segment items.length position) (beyond : items.length ≤ position)
      (too_long : maxItems ≤ position) : Overruns (.array items) [segment]
  | deeper {owner child : Value} {segment next : String} {rest : List String}
      (holds : owner.Holds segment child) (below : Overruns child (next :: rest)) :
      Overruns owner (segment :: next :: rest)

/-- The last value is the one before the path with exactly the place at the path replaced by the
given value.  A key that is there keeps its place and a new one goes last; an element keeps its
position, and a position past the end is reached by filling up with nulls. -/
inductive Replaced (value : Value) : Value → List String → Value → Prop
  | here (old : Value) : Replaced value old [] value
  | key {before after : Mapping} {key : String} {child child' : Value} {path : List String}
      (first : key ∉ before.keys) (below : Replaced value child path child') :
      Replaced value (.object (before ++ (key, child) :: after)) (key :: path)
        (.object (before ++ (key, child') :: after))
  | newKey {entries : Mapping} {key : String} (absent : key ∉ entries.keys) :
      Replaced value (.object entries) [key] (.object (entries ++ [(key, value)]))
  | element {before after : List Value} {segment : String} {child child' : Value}
      {path : List String}
      (named : NamesPosition segment (before ++ child :: after).length before.length)
      (below : Replaced value child path child') :
      Replaced value (.array (before ++ child :: after)) (segment :: path)
        (.array (before ++ child' :: after))
  | pastEnd {items : List Value} {segment : String} {position : ℕ}
      (named : NamesPosition segment items.length position) (beyond : items.length ≤ position) :
      Replaced value (.array items) [segment]
        (.array (items ++ List.replicate (position - items.length) .null ++ [value]))

/-- The second path leaves the walk of the first one, by a different key or by a different position.
The position at which it leaves is written so that it counts from the start. -/
inductive Departs : Value → List String → List String → Prop
  | key {entries : Mapping} {key other : String} {path path' : List String} (ne : key ≠ other) :
      Departs (.object entries) (key :: path) (other :: path')
  | position {items : List Value} {segment other : String} {position position' : ℕ}
      {path path' : List String} (named : NamesPosition segment items.length position)
      (counts : CountsFromStart other position') (ne : position ≠ position') :
      Departs (.array items) (segment :: path) (other :: path')
  | belowKey {entries : Mapping} {key : String} {child : Value} {path path' : List String}
      (there : entries.get? key = some child) (below : Departs child path path') :
      Departs (.object entries) (key :: path) (key :: path')
  | belowPosition {items : List Value} {segment other : String} {position : ℕ} {child : Value}
      {path path' : List String} (named : NamesPosition segment items.length position)
      (same : NamesPosition other items.length position) (there : items[position]? = some child)
      (below : Departs child path path') :
      Departs (.array items) (segment :: path) (other :: path')

/-! ## Replacing one place -/

section Replacing

variable {value child child' : Value} {path : List String}

lemma replaced_object {entries : Mapping} {key : String} (there : entries.get? key = some child)
    (below : Replaced value child path child') :
    Replaced value (.object entries) (key :: path) (.object (entries.insert key child')) := by
  obtain ⟨before, after, rfl, first⟩ := Assoc.exists_split_of_get? there
  rw [Assoc.insert_append_cons first]
  exact .key first below

lemma replaced_object_last (entries : Mapping) (key : String) (value : Value) :
    Replaced value (.object entries) [key] (.object (entries.insert key value)) := by
  cases there : Assoc.get? entries key with
  | some child => exact replaced_object there (.here child)
  | none =>
    have absent : key ∉ Assoc.keys entries := (Assoc.get?_eq_none_iff entries key).mp there
    rw [Assoc.insert_of_notMem absent]
    exact .newKey absent

lemma replaced_array {items : List Value} {segment : String} {position : ℕ}
    (named : NamesPosition segment items.length position) (there : items[position]? = some child)
    (below : Replaced value child path child') :
    Replaced value (.array items) (segment :: path) (.array (putAt items position child')) := by
  obtain ⟨reaches, rfl⟩ := List.getElem?_eq_some_iff.mp there
  obtain ⟨before, after, split, rfl, set⟩ := @List.exists_of_set _ _ child' _ reaches
  have replaced : Replaced value (.array (before ++ items[before.length] :: after))
      (segment :: path) (.array (before ++ child' :: after)) := by
    refine .element ?_ below
    rw [← split]
    exact named
  rw [← split] at replaced
  rw [putAt, if_pos reaches, set]
  exact replaced

lemma replaced_array_last {items : List Value} {segment : String} {position : ℕ}
    (named : NamesPosition segment items.length position) (value : Value) :
    Replaced value (.array items) [segment] (.array (putAt items position value)) := by
  by_cases reaches : position < items.length
  · exact replaced_array named (List.getElem?_eq_getElem reaches) (.here _)
  · rw [putAt, if_neg reaches]
    exact .pastEnd named (by omega)

end Replacing

namespace Host

variable {h : Host σ} {owner owner' child value : Value} {segment next : String}
  {rest path path' : List String} {w w' : World σ} {e : Error}

/-! ## The levels of the walk -/

lemma place_eq_ok_of_holds (holds : owner.Holds segment child) (w : World σ) :
    h.place owner segment w = .ok child w := by
  cases holds with
  | key there => exact place_object_eq_ok_iff.mpr ⟨rfl, there⟩
  | element named there =>
    exact place_array_eq_ok_iff.mpr
      ⟨rfl, _, sequenceIndex_eq_ok_some_iff.mpr named, there⟩

lemma holds_of_place (collection : owner.isCollection = true)
    (read : h.place owner segment w = .ok child w') : w' = w ∧ owner.Holds segment child := by
  cases owner with
  | object entries =>
    obtain ⟨same, there⟩ := place_object_eq_ok_iff.mp read
    exact ⟨same, .key there⟩
  | array items =>
    obtain ⟨same, position, index, there⟩ := place_array_eq_ok_iff.mp read
    exact ⟨same, .element (sequenceIndex_eq_ok_some_iff.mp index) there⟩
  | _ => cases collection

lemma raised_of_sequenceIndex {length : ℕ} (fails : sequenceIndex segment length = .error e) :
    e.isRaised = true := by
  unfold sequenceIndex at fails
  split at fails
  · cases fails
    rfl
  · split_ifs at fails

/-- A place of plain data that cannot be read raises and leaves the world alone. -/
lemma raised_of_place (collection : owner.isCollection = true)
    (fails : h.place owner segment w = .error e w') : w' = w ∧ e.isRaised = true := by
  cases owner with
  | object entries =>
    rw [place] at fails
    cases there : Assoc.get? entries segment with
    | some child =>
      rw [there] at fails
      cases fails
    | none =>
      rw [there] at fails
      cases fails
      exact ⟨rfl, rfl⟩
  | array items =>
    rw [place] at fails
    cases index : sequenceIndex segment items.length with
    | error e₀ =>
      rw [index] at fails
      cases fails
      exact ⟨rfl, raised_of_sequenceIndex index⟩
    | ok position =>
      rw [index, bind_of_ok (HostM.ofExcept_ok _ _)] at fails
      cases there : position.bind (items[·]?) with
      | some child =>
        rw [there] at fails
        cases fails
      | none =>
        rw [there] at fails
        cases fails
        exact ⟨rfl, rfl⟩
  | _ => cases collection

/-- What is put back at a place that is there replaces what stood there. -/
lemma exists_putBack_of_holds {child₀ : Value} (holds : owner.Holds segment child₀)
    (replaced : Replaced value child₀ path child) (w : World σ) :
    ∃ owner', h.putBack owner segment child w = .ok owner' w ∧
      Replaced value owner (segment :: path) owner' := by
  have data : owner.isHostObject = false :=
    Value.isHostObject_eq_false_of_isCollection holds.isCollection
  rw [putBack_of_not_shared (Value.isShared_eq_false_of_isHostObject data)]
  cases holds with
  | key there => exact ⟨_, rfl, replaced_object there replaced⟩
  | @element items _ position _ named there =>
    obtain ⟨reaches, -⟩ := List.getElem?_eq_some_iff.mp there
    have fits : position < max items.length maxItems :=
      Nat.lt_of_lt_of_le reaches (Nat.le_max_left ..)
    exact ⟨_, setProperty_array_eq_ok_iff.mpr
      ⟨rfl, _, sequenceIndex_eq_ok_some_iff.mpr named, fits, rfl⟩,
      replaced_array named there replaced⟩

/-! ## An assignment below an owner -/

/-- A path that the owner takes is assigned to, unless no sequence is long enough for it: the world
stays as it is, and in the owner exactly one place is replaced. -/
theorem exists_store_of_takes (takes : Takes owner (segment :: rest))
    (fits : ¬ Overruns owner (segment :: rest)) (value : Value) (w : World σ) :
    ∃ owner', h.store value segment rest owner w = .ok owner' w ∧
      Replaced value owner (segment :: rest) owner' := by
  induction rest generalizing owner segment with
  | nil =>
    cases takes with
    | key entries =>
      rw [store_single rfl]
      exact ⟨_, rfl, replaced_object_last entries segment value⟩
    | @index items _ i read reaches =>
      obtain ⟨position, named⟩ := exists_namesPosition_iff.mpr ⟨i, read, reaches⟩
      have in_reach : position < max items.length maxItems := by
        by_contra too_long
        exact fits (.index named (by omega) (by omega))
      rw [store_single rfl]
      exact ⟨_, setProperty_array_eq_ok_iff.mpr
        ⟨rfl, position, sequenceIndex_eq_ok_some_iff.mpr named, in_reach, rfl⟩,
        replaced_array_last named value⟩
  | cons next rest ih =>
    cases takes with
    | deeper holds below =>
      obtain ⟨child', stored, replaced⟩ := ih below fun overruns => fits (.deeper holds overruns)
      obtain ⟨owner', put, result⟩ := exists_putBack_of_holds (h := h) holds replaced w
      refine ⟨owner', ?_, result⟩
      rw [store_below (Value.isFunction_eq_false_of_isCollection holds.isCollection),
        bind_of_ok (place_eq_ok_of_holds holds w), bind_of_ok stored]
      exact put

/-- A path that no sequence is long enough for crashes the program, before anything is changed. -/
theorem store_of_overruns (overruns : Overruns owner (segment :: rest)) (value : Value)
    (w : World σ) : h.store value segment rest owner w = .error .capacityOverflow w := by
  induction rest generalizing owner segment with
  | nil =>
    cases overruns with
    | index named beyond too_long =>
      rw [store_single rfl, setProperty_array, sequenceIndex_eq_ok_some_iff.mpr named]
      exact if_neg (by omega)
  | cons next rest ih =>
    cases overruns with
    | deeper holds below =>
      rw [store_below (Value.isFunction_eq_false_of_isCollection holds.isCollection),
        bind_of_ok (place_eq_ok_of_holds holds w), bind_of_error (ih below)]

/-- An assignment into plain data that is not taken raises and leaves no trace. -/
theorem takes_or_store_error (owners : h.Owners (·.isCollection = true) owner (segment :: rest) w)
    (value : Value) :
    Takes owner (segment :: rest) ∨
      ∃ e, e.isRaised = true ∧ h.store value segment rest owner w = .error e w := by
  have called : owner.isFunction = false := Value.isFunction_eq_false_of_isCollection owners.1
  induction rest generalizing owner segment with
  | nil =>
    rw [store_single called]
    obtain ⟨collection, -⟩ := owners
    cases owner with
    | object entries => exact Or.inl (.key entries segment)
    | array items =>
      rw [setProperty_array]
      cases index : sequenceIndex segment items.length with
      | error e => exact Or.inr ⟨e, raised_of_sequenceIndex index, rfl⟩
      | ok named =>
        cases named with
        | none => exact Or.inr ⟨.indexOutOfRange segment, rfl, rfl⟩
        | some position =>
          obtain ⟨i, read, reaches⟩ :=
            exists_namesPosition_iff.mp ⟨position, sequenceIndex_eq_ok_some_iff.mp index⟩
          exact Or.inl (.index read reaches)
    | _ => cases collection
  | cons next rest ih =>
    rw [store_below called]
    cases read : h.place owner segment w with
    | error e w₁ =>
      obtain ⟨rfl, raised⟩ := raised_of_place owners.1 read
      exact Or.inr ⟨e, raised, bind_of_error read⟩
    | ok child w₁ =>
      obtain ⟨rfl, holds⟩ := holds_of_place owners.1 read
      have below := owners.2 child w₁ read
      have called_below := Value.isFunction_eq_false_of_isCollection below.1
      rcases ih below called_below with takes | ⟨e, raised, fails⟩
      · exact Or.inl (.deeper holds takes)
      · exact Or.inr ⟨e, raised, by rw [bind_of_ok read, bind_of_error fails]⟩

/-! ## Reading after the assignment -/

lemma property_object (entries : Mapping) (key : String) (w : World σ) :
    h.property (.object entries) key w = .ok ((entries.get? key).getD .null) w := by
  rw [property_apply rfl]
  rfl

lemma property_array {items : List Value} {position : ℕ}
    (named : NamesPosition segment items.length position) (w : World σ) :
    h.property (.array items) segment w = .ok (items[position]?.getD .null) w := by
  rw [property_apply rfl, readMember, sequenceIndex_eq_ok_some_iff.mpr named,
    bind_of_ok (HostM.ofExcept_ok _ _)]
  rfl

/-- The path of the place that was replaced reads the new value, in every world. -/
theorem properties_of_replaced (replaced : Replaced value owner path owner') (w : World σ) :
    h.properties owner' path w = .ok value w := by
  induction replaced with
  | here old => rfl
  | @key before after key child child' path first below ih =>
    rw [properties_cons, bind_of_ok (property_object _ key w), Assoc.get?_append_cons_self first]
    exact ih
  | @newKey entries key absent =>
    rw [properties_cons, bind_of_ok (property_object _ key w), Assoc.get?_append_cons_self absent]
    rfl
  | @element before after segment child child' path named below ih =>
    have still : NamesPosition segment (before ++ child' :: after).length before.length := by
      simpa using named
    rw [properties_cons, bind_of_ok (property_array still w),
      List.getElem?_append_right (Nat.le_refl _), Nat.sub_self, List.getElem?_cons_zero]
    exact ih
  | @pastEnd items segment position named beyond =>
    have read := getElem?_putAt_self items position value
    rw [putAt, if_neg (by omega)] at read
    have counts := named.countsFromStart beyond
    rw [properties_cons, bind_of_ok (property_array (counts.namesPosition _) w), read]
    rfl

/-- Past the end a sequence reads null, and so do the nulls that fill it up. -/
lemma getElem?_pastEnd_of_ne {items : List Value} {position position' : ℕ}
    (beyond : items.length ≤ position) (ne : position ≠ position') (value : Value) :
    (items ++ List.replicate (position - items.length) .null ++ [value])[position']?.getD .null =
      items[position']?.getD .null := by
  rw [List.append_assoc]
  by_cases reaches : position' < items.length
  · rw [List.getElem?_append_left reaches]
  · have outside : items[position']? = none := List.getElem?_eq_none (by omega)
    rw [List.getElem?_append_right (by omega), outside]
    by_cases filled : position' - items.length < position - items.length
    · rw [List.getElem?_append_left (by simpa using filled), List.getElem?_replicate,
        if_pos filled]
      rfl
    · have behind : (List.replicate (position - items.length) Value.null ++ [value]).length ≤
          position' - items.length := by
        simp only [List.length_append, List.length_replicate, List.length_singleton]
        omega
      rw [List.getElem?_eq_none behind]

/-- A path that leaves the walk of the replaced place reads what it has read before, with all that
its look-up does in the world. -/
theorem properties_of_departs (departs : Departs owner path path')
    (replaced : Replaced value owner path owner') (w : World σ) :
    h.properties owner' path' w = h.properties owner path' w := by
  induction departs generalizing owner' with
  | @key entries key other path path' ne =>
    rw [properties_cons, properties_cons, bind_of_ok (property_object entries other w)]
    cases replaced with
    | @key before after _ child child' _ first below =>
      have same : Assoc.get? (before ++ (key, child') :: after) other =
          Assoc.get? (before ++ (key, child) :: after) other := by
        rw [← Assoc.insert_append_cons first child child' after, Assoc.get?_insert_of_ne _ _ ne]
      rw [bind_of_ok (property_object _ other w), same]
    | newKey absent =>
      rw [bind_of_ok (property_object _ other w), ← Assoc.insert_of_notMem absent value,
        Assoc.get?_insert_of_ne _ _ ne]
  | @position items segment other position position' path path' named counts ne =>
    rw [properties_cons, properties_cons,
      bind_of_ok (property_array (counts.namesPosition items.length) w)]
    cases replaced with
    | @element before after _ child child' _ here below =>
      cases named.unique here
      have same : (before ++ child' :: after)[position']? =
          (before ++ child :: after)[position']? := by
        have set : (before ++ child :: after).set before.length child' =
            before ++ child' :: after := by simp
        rw [← set, List.getElem?_set_ne ne]
      rw [bind_of_ok (property_array (counts.namesPosition _) w), same]
    | @pastEnd _ _ position₀ here beyond =>
      cases named.unique here
      rw [bind_of_ok (property_array (counts.namesPosition _) w),
        getElem?_pastEnd_of_ne beyond ne]
  | @belowKey entries key child path path' there below ih =>
    rw [properties_cons, properties_cons, bind_of_ok (property_object entries key w), there]
    cases replaced with
    | @key before after _ child₀ child' _ first replaced =>
      rw [Assoc.get?_append_cons_self first] at there
      cases there
      rw [bind_of_ok (property_object _ key w), Assoc.get?_append_cons_self first]
      exact ih replaced
    | newKey absent => cases below
  | @belowPosition items segment other position child path path' named same there below ih =>
    rw [properties_cons, properties_cons, bind_of_ok (property_array same w), there]
    cases replaced with
    | @element before after _ child₀ child' _ here replaced =>
      cases named.unique here
      rw [List.getElem?_append_right (Nat.le_refl _), Nat.sub_self,
        List.getElem?_cons_zero] at there
      cases there
      have still : NamesPosition other (before ++ child' :: after).length before.length := by
        simpa using same
      rw [bind_of_ok (property_array still w), List.getElem?_append_right (Nat.le_refl _),
        Nat.sub_self, List.getElem?_cons_zero]
      exact ih replaced
    | pastEnd here beyond => cases below

end Host

/-! ## Assignments to a path -/

/-- All segments of a path, the name of the entry first. -/
def Path.segments (path : Path) : List String :=
  path.first :: path.rest

namespace Scope

variable {s : Scope} {h : Host σ} {text : String} {w : World σ}

/-- A lookup reads the segments of its path one after the other, from the entries on. -/
lemma lookup_eq_properties (s : Scope) (h : Host σ) (text : String) (w : World σ) :
    s.lookup h text w = h.properties (.object s.entries) (Path.ofString text).segments w := by
  rw [Path.segments, Host.properties_cons, bind_of_ok (Host.property_object _ _ w)]
  rfl

/-- A path that the scope takes is assigned to, unless no sequence is long enough for it. -/
lemma exists_assign_of_takes
    (takes : Takes (.object s.entries) (Path.ofString text).segments)
    (fits : ¬ Overruns (.object s.entries) (Path.ofString text).segments) (h : Host σ)
    (value : Value) (w : World σ) :
    ∃ s', s.assign h text value w = .ok s' w ∧
      Replaced value (.object s.entries) (Path.ofString text).segments (.object s'.entries) := by
  unfold Path.segments at takes fits ⊢
  cases path : (Path.ofString text).rest with
  | nil =>
    exact ⟨_, assign_of_entry path, replaced_object_last s.entries _ value⟩
  | cons segment rest =>
    rw [path] at takes fits
    cases takes with
    | deeper holds below =>
      obtain ⟨owner', stored, replaced⟩ := Host.exists_store_of_takes (h := h) below
        (fun overruns => fits (.deeper holds overruns)) value w
      cases holds with
      | @key _ _ owner there =>
        refine ⟨s.insert (Path.ofString text).first owner', ?_, replaced_object there replaced⟩
        rw [assign_of_found path there, stored]

/-- A path that no sequence is long enough for crashes the program. -/
lemma assign_of_overruns
    (overruns : Overruns (.object s.entries) (Path.ofString text).segments) (h : Host σ)
    (value : Value) (w : World σ) :
    s.assign h text value w = .error .capacityOverflow w := by
  unfold Path.segments at overruns
  cases path : (Path.ofString text).rest with
  | nil =>
    rw [path] at overruns
    cases overruns
  | cons segment rest =>
    rw [path] at overruns
    cases overruns with
    | deeper holds below =>
      cases holds with
      | key there =>
        rw [assign_of_found path there, Host.store_of_overruns below value w]
        rfl

/-- An assignment that the scope does not take is an assignment error and leaves no trace. -/
lemma takes_or_assign_error (owners : s.Owners h (·.isCollection = true) text w) (value : Value) :
    Takes (.object s.entries) (Path.ofString text).segments ∨
      ∃ message, s.assign h text value w = .error (.assignment text message) w := by
  unfold Path.segments
  cases path : (Path.ofString text).rest with
  | nil => exact Or.inl (.key s.entries _)
  | cons segment rest =>
    cases found : s.get? (Path.ofString text).first with
    | none => exact Or.inr ⟨_, assign_of_missing path found⟩
    | some owner =>
      have owners_below := owners owner found
      rw [path] at owners_below
      rcases Host.takes_or_store_error owners_below value with takes | ⟨e, raised, fails⟩
      · exact Or.inl (.deeper (.key found) takes)
      · refine Or.inr ⟨e.message, ?_⟩
        rw [assign_of_found path found, fails, ← Error.ofAssignment_of_isRaised raised]

end Scope

/-- **Assigning into plain data.**  Let all owners of a path be mappings or sequences.  The
assignment succeeds exactly if all segments but the last name an existing key or element, and the
last one any key or an index that is not below minus the length, and the index is not one that no
sequence can be extended to.  An index of that kind crashes the program; everything else is an
assignment error.  If the assignment succeeds, the world is as it was and the scope is replaced at
that place only: the path reads the value, and every path that leaves its walk reads what it has
read before. -/
theorem assign_in_plain_data (s : Scope) (h : Host σ) (text : String) (value : Value) (w : World σ)
    (owners : s.Owners h (·.isCollection = true) text w) :
    ((∃ s' w', s.assign h text value w = .ok s' w') ↔
      Takes (.object s.entries) (Path.ofString text).segments ∧
        ¬ Overruns (.object s.entries) (Path.ofString text).segments) ∧
    (¬ Takes (.object s.entries) (Path.ofString text).segments →
      ∃ message, s.assign h text value w = .error (.assignment text message) w) ∧
    (Overruns (.object s.entries) (Path.ofString text).segments →
      s.assign h text value w = .error .capacityOverflow w) ∧
    ∀ s' w', s.assign h text value w = .ok s' w' →
      w' = w ∧
      Replaced value (.object s.entries) (Path.ofString text).segments (.object s'.entries) ∧
      (∀ w₁, s'.lookup h text w₁ = .ok value w₁) ∧
      ∀ other, Departs (.object s.entries) (Path.ofString text).segments
          (Path.ofString other).segments →
        ∀ w₁, s'.lookup h other w₁ = s.lookup h other w₁ := by
  have taken_of_ok : ∀ s' w', s.assign h text value w = .ok s' w' →
      Takes (.object s.entries) (Path.ofString text).segments ∧
        ¬ Overruns (.object s.entries) (Path.ofString text).segments := by
    intro s' w' assigned
    constructor
    · rcases Scope.takes_or_assign_error owners value with takes | ⟨message, fails⟩
      · exact takes
      · rw [assigned] at fails
        cases fails
    · intro overruns
      rw [Scope.assign_of_overruns overruns] at assigned
      cases assigned
  refine ⟨⟨?_, ?_⟩, ?_, fun overruns => Scope.assign_of_overruns overruns h value w, ?_⟩
  · rintro ⟨s', w', assigned⟩
    exact taken_of_ok s' w' assigned
  · rintro ⟨takes, fits⟩
    obtain ⟨s', assigned, -⟩ := Scope.exists_assign_of_takes takes fits h value w
    exact ⟨s', w, assigned⟩
  · intro not_taken
    exact (Scope.takes_or_assign_error owners value).resolve_left not_taken
  · intro s' w' assigned
    obtain ⟨takes, fits⟩ := taken_of_ok s' w' assigned
    obtain ⟨s₁, again, replaced⟩ := Scope.exists_assign_of_takes takes fits h value w
    rw [assigned] at again
    cases again
    refine ⟨rfl, replaced, fun w₁ => ?_, fun other departs w₁ => ?_⟩
    · rw [Scope.lookup_eq_properties]
      exact Host.properties_of_replaced replaced w₁
    · rw [Scope.lookup_eq_properties, Scope.lookup_eq_properties]
      exact Host.properties_of_departs departs replaced w₁

/-- A scope with a sequence inside a mapping. -/
def itemsScope (items : List Value) : Scope :=
  ⟨[("data", .object [("items", .array items)])]⟩

/-- A path into the sequence has mappings and the sequence as its owners. -/
lemma owners_itemsScope (items : List Value) {text segment : String}
    (path : Path.ofString text = ⟨"data", ["items", segment]⟩) (w : World Unit) :
    (itemsScope items).Owners emptyHost (·.isCollection = true) text w := by
  unfold Scope.Owners
  rw [path]
  intro owner found
  have is_data : some (Value.object [("items", .array items)]) = some owner := found
  cases is_data
  refine ⟨rfl, fun child w₁ read => ?_⟩
  cases read
  exact ⟨rfl, fun _ _ _ => trivial⟩

/-- An index behind the end extends the sequence, and a neighbour reads as before. -/
theorem assign_past_end_extends :
    (itemsScope [.int 1, .int 2]).Owners emptyHost (·.isCollection = true) "data.items. +3"
        ⟨[], ()⟩ ∧
      (itemsScope [.int 1, .int 2]).assign emptyHost "data.items. +3" (.int 4) ⟨[], ()⟩ =
        .ok (itemsScope [.int 1, .int 2, .null, .int 4]) ⟨[], ()⟩ ∧
      (itemsScope [.int 1, .int 2, .null, .int 4]).lookup emptyHost "data.items. +3" ⟨[], ()⟩ =
        .ok (.int 4) ⟨[], ()⟩ ∧
      (itemsScope [.int 1, .int 2, .null, .int 4]).lookup emptyHost "data.items.2" ⟨[], ()⟩ =
        (itemsScope [.int 1, .int 2]).lookup emptyHost "data.items.2" ⟨[], ()⟩ := by
  have owners : (itemsScope [.int 1, .int 2]).Owners emptyHost (·.isCollection = true)
      "data.items. +3" ⟨[], ()⟩ := owners_itemsScope _ rfl _
  have assigned : (itemsScope [.int 1, .int 2]).assign emptyHost "data.items. +3" (.int 4)
      ⟨[], ()⟩ = .ok (itemsScope [.int 1, .int 2, .null, .int 4]) ⟨[], ()⟩ := rfl
  have departs : Departs (.object (itemsScope [.int 1, .int 2]).entries)
      (Path.ofString "data.items. +3").segments (Path.ofString "data.items.2").segments := by
    have named : NamesPosition " +3" 2 3 := ⟨3, by decide, Or.inl rfl⟩
    have counts : CountsFromStart "2" 2 := by
      show readInt64? (trim "2".toList) = some 2
      decide
    show Departs _ ["data", "items", " +3"] ["data", "items", "2"]
    exact .belowKey rfl (.belowKey rfl (.position named counts (by decide)))
  have effect := (assign_in_plain_data (itemsScope [.int 1, .int 2]) emptyHost "data.items. +3"
    (.int 4) ⟨[], ()⟩ owners).2.2.2 _ _ assigned
  exact ⟨owners, assigned, effect.2.2.1 _, effect.2.2.2 "data.items.2" departs _⟩

/-- The greatest index is an index like any other, but no assignment to it succeeds. -/
theorem assign_at_greatest_index_crashes :
    (itemsScope [.int 1]).Owners emptyHost (·.isCollection = true)
        "data.items.9223372036854775807" ⟨[], ()⟩ ∧
      Takes (.object (itemsScope [.int 1]).entries)
        (Path.ofString "data.items.9223372036854775807").segments ∧
      (itemsScope [.int 1]).assign emptyHost "data.items.9223372036854775807" (.int 4) ⟨[], ()⟩ =
        .error .capacityOverflow ⟨[], ()⟩ := by
  have read : readInt64? (trim "9223372036854775807".toList) = some 9223372036854775807 := by
    decide
  have named : NamesPosition "9223372036854775807" 1 9223372036854775807 := ⟨_, read, Or.inl rfl⟩
  refine ⟨owners_itemsScope _ rfl _, ?_, Scope.assign_of_overruns ?_ _ _ _⟩
  · show Takes _ ["data", "items", "9223372036854775807"]
    exact .deeper (.key rfl) (.deeper (.key rfl) (.index read (by decide)))
  · show Overruns _ ["data", "items", "9223372036854775807"]
    exact .deeper (.key rfl) (.deeper (.key rfl) (.index named (by decide) (by decide)))

end Conformance
