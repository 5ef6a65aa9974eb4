import Mathlib.Data.List.Basic
import Conformance.CommandLine.Program
import Conformance.Proofs.Scope.Walk

/-!
# Reading back an assignment

An assignment to a path whose owners are mappings, sequences and classes is read back by a lookup of
the path, if its walk passes the class member that is written only once.  Mappings and sequences are
copied on the way down, so they cannot meet again on a walk; classes are shared, so they can.

The members that a walk passes are its slots.  The last one is the member that is written, by the
binding itself or by putting data back.  Every other one is put back as it was read, if it holds
data, and that is where a walk goes wrong that has passed the written member before.  If the member
holds data, the copy from before the write is put back over it, and the assignment comes to nothing.
If it holds a class, nothing is put back and the write stays, but the path now leads through what
has been written.

## Parts

* `World.slot` reads a member of a class and `World.setSlot` binds it; `Host.slots` lists the
  members that a walk passes, and `Host.behind` is the path behind the first pass of one of them.
* `Host.store_of_no_slots` is an assignment in plain data, and `Host.store_of_slots` one that passes
  a class.
* `Host.properties_setSlot` reads a path behind a member that has been bound anew.
* `assign_reads_back_iff` is the result for assignments to a path.
-/

namespace Conformance

variable {σ : Type}

/-! ## Members of classes -/

/-- A member of a class: the identity of the class, and the name. -/
abbrev ClassSlot := ℕ × String

namespace World

variable {w : World σ} {x : ClassSlot} {value : Value}

/-- What a member of a class is bound to. -/
def slot (w : World σ) (x : ClassSlot) : Option Value :=
  ((w.members.get? x.1).getD []).get? x.2

/-- Bind a member of a class. -/
def setSlot (w : World σ) (x : ClassSlot) (value : Value) : World σ :=
  { w with members := w.members.insert x.1 (((w.members.get? x.1).getD []).insert x.2 value) }

/-- Whether a member of a class is bound to a host object. -/
def holdsObject (w : World σ) (x : ClassSlot) : Bool :=
  (w.slot x).any Value.isHostObject

lemma holdsObject_of_slot (bound : w.slot x = some value) :
    w.holdsObject x = value.isHostObject := by
  rw [holdsObject, bound, Option.any_some]

lemma slot_setSlot_self (w : World σ) (x : ClassSlot) (value : Value) :
    (w.setSlot x value).slot x = some value := by
  rw [slot, setSlot, Assoc.get?_insert_self, Option.getD_some, Assoc.get?_insert_self]

lemma slot_setSlot_of_ne (w : World σ) {x y : ClassSlot} (value : Value) (ne : y ≠ x) :
    (w.setSlot x value).slot y = w.slot y := by
  obtain ⟨id, name⟩ := x
  obtain ⟨id', name'⟩ := y
  rw [slot, setSlot, slot]
  by_cases same : id = id'
  · subst same
    have differs : name ≠ name' := fun same => ne (by rw [same])
    rw [Assoc.get?_insert_self, Option.getD_some, Assoc.get?_insert_of_ne _ _ differs]
  · rw [Assoc.get?_insert_of_ne _ _ same]

/-- Binding a member to what it is bound to changes nothing. -/
lemma setSlot_of_slot (bound : w.slot x = some value) : w.setSlot x value = w := by
  rw [setSlot, Assoc.insert_of_get? bound]
  cases members : w.members.get? x.1 with
  | none =>
    rw [slot, members] at bound
    cases bound
  | some entries => rw [Option.getD_some, Assoc.insert_of_get? members]

/-- Binding a member again to what it was bound to takes the binding in between back. -/
lemma setSlot_setSlot_of_slot (bound : w.slot x = some value) (between : Value) :
    (w.setSlot x between).setSlot x value = w := by
  have again : (w.setSlot x between).setSlot x value = w.setSlot x value := by
    simp only [setSlot, Assoc.get?_insert_self, Option.getD_some, Assoc.insert_insert]
  rw [again, setSlot_of_slot bound]

end World

/-! ## Positions in sequences -/

lemma length_putAt (items : List Value) (position : ℕ) (value : Value) :
    (putAt items position value).length = max items.length (position + 1) := by
  unfold putAt
  split
  · rw [List.length_set]
    omega
  · simp only [List.length_append, List.length_replicate, List.length_singleton]
    omega

lemma getElem?_putAt_self (items : List Value) (position : ℕ) (value : Value) :
    (putAt items position value)[position]? = some value := by
  unfold putAt
  split
  · rename_i reaches
    exact List.getElem?_set_self reaches
  · rename_i beyond
    have front : (items ++ List.replicate (position - items.length) Value.null).length =
        position := by
      simp only [List.length_append, List.length_replicate]
      omega
    rw [List.getElem?_append_right (by omega), front, Nat.sub_self]
    rfl

/-- A segment names the same position in a sequence after that position has been written, however
it is spelled. -/
lemma sequenceIndex_putAt {segment : String} {items : List Value} {position : ℕ}
    (index : sequenceIndex segment items.length = .ok (some position)) (value : Value) :
    sequenceIndex segment (putAt items position value).length = .ok (some position) := by
  unfold sequenceIndex at index ⊢
  split at index
  · cases index
  · rename_i i read
    split at index
    · rename_i nonneg
      rw [if_pos nonneg]
      exact index
    · rename_i negative
      split at index
      · rename_i reaches
        cases index
        have kept : (putAt items (items.length - i.natAbs) value).length = items.length := by
          rw [length_putAt]
          omega
        rw [if_neg negative, kept, if_pos reaches]
      · cases index

/-! ## Reading a place -/

namespace Value

/-- Whether the value is a mapping, a sequence or a class. -/
def isContainer : Value → Bool
  | .array _ | .object _ | .cls _ => true
  | _ => false

lemma isFunction_eq_false_of_isContainer {v : Value} (container : v.isContainer = true) :
    v.isFunction = false := by
  cases v <;> simp_all [isFunction, isContainer]

end Value

namespace Host

/-- The member that reading a segment on an owner passes, if the owner is a class. -/
def slotOf (owner : Value) (segment : String) : List ClassSlot :=
  match owner with
  | .cls c => [(c.id, segment)]
  | _ => []

lemma setProperty_cls (h : Host σ) (c : ClassRef) (segment : String) (value : Value)
    (w : World σ) :
    h.setProperty (.cls c) segment value w = .ok (.cls c) (w.setSlot (c.id, segment) value) := rfl

lemma putBack_cls (h : Host σ) (c : ClassRef) (segment : String) (child : Value) (w : World σ) :
    h.putBack (.cls c) segment child w =
      .ok (.cls c) (if child.isHostObject then w else w.setSlot (c.id, segment) child) := by
  cases object : child.isHostObject with
  | true => exact congrFun (putBack_of_shared rfl object) w
  | false => exact congrFun (putBack_of_data object) w

lemma isHostObject_of_slotOf_eq_nil {owner : Value} {segment : String}
    (container : owner.isContainer = true) (none : slotOf owner segment = []) :
    owner.isHostObject = false := by
  cases owner with
  | object entries => rfl
  | array items => rfl
  | cls c => cases none
  | _ => cases container

lemma eq_cls_of_mem_slotOf {owner : Value} {segment : String} {x : ClassSlot}
    (passed : x ∈ slotOf owner segment) : ∃ c, owner = .cls c ∧ x = (c.id, segment) := by
  cases owner with
  | cls c => exact ⟨c, rfl, List.mem_singleton.mp passed⟩
  | _ => cases passed

/-- Reading a segment passes one member at most. -/
lemma eq_cls_of_slotOf {owner : Value} {segment : String} {earlier : List ClassSlot}
    {x : ClassSlot} (passes : slotOf owner segment = earlier ++ [x]) :
    ∃ c, owner = .cls c ∧ x = (c.id, segment) ∧ earlier = [] := by
  have passed : x ∈ slotOf owner segment := passes ▸ List.mem_concat_self
  obtain ⟨c, rfl, rfl⟩ := eq_cls_of_mem_slotOf passed
  have last : [] ++ [(c.id, segment)] = earlier ++ [(c.id, segment)] := passes
  exact ⟨c, rfl, rfl, (List.append_inj' last rfl).1.symm⟩

/-- The members of classes that a walk passes, the place of the last segment included. -/
def slots (h : Host σ) : Value → List String → World σ → List ClassSlot
  | _, [], _ => []
  | owner, segment :: rest, w =>
    slotOf owner segment ++
      match h.place owner segment w with
      | .ok child w₁ => slots h child rest w₁
      | .error _ _ => []

/-- The path behind the place where a walk first passes a member of a class. -/
def behind (h : Host σ) (x : ClassSlot) : Value → List String → World σ → List String
  | _, [], _ => []
  | owner, segment :: rest, w =>
    if x ∈ slotOf owner segment then rest
    else
      match h.place owner segment w with
      | .ok child w₁ => behind h x child rest w₁
      | .error _ _ => []

variable {h : Host σ} {owner owner' child value : Value} {segment next : String}
  {rest : List String} {w w' w₁ w₂ : World σ} {x : ClassSlot}

@[simp] lemma slots_nil (owner : Value) (w : World σ) : h.slots owner [] w = [] := rfl

lemma slots_single (owner : Value) (segment : String) (w : World σ) :
    h.slots owner [segment] w = slotOf owner segment := by
  rw [slots]
  cases h.place owner segment w <;> exact List.append_nil _

/-- A walk that passes no member passes none at its first segment. -/
lemma slotOf_eq_nil_of_slots (none : h.slots owner (segment :: rest) w = []) :
    slotOf owner segment = [] := by
  rw [slots] at none
  exact (List.append_eq_nil_iff.mp none).1

lemma slots_of_place (read : h.place owner segment w = .ok child w₁) :
    h.slots owner (segment :: rest) w = slotOf owner segment ++ h.slots child rest w₁ := by
  rw [slots, read]

lemma behind_of_mem (passed : x ∈ slotOf owner segment) :
    h.behind x owner (segment :: rest) w = rest := by
  rw [behind, if_pos passed]

lemma behind_of_place (further : x ∉ slotOf owner segment)
    (read : h.place owner segment w = .ok child w₁) :
    h.behind x owner (segment :: rest) w = h.behind x child rest w₁ := by
  rw [behind, if_neg further, read]

/-- Without a function as the owner, a segment is read directly. -/
lemma property_apply (called : owner.isFunction = false) (w : World σ) :
    h.property owner segment w = h.readMember owner segment w := by
  have unwound (depth : ℕ) : h.force depth owner = pure owner := by
    cases depth <;> cases owner <;> first | rfl | cases called
  rw [property, bind_of_ok (get_apply w), unwound]
  rfl

lemma properties_cons (owner : Value) (segment : String) (rest : List String) (w : World σ) :
    h.properties owner (segment :: rest) w =
      (h.property owner segment >>= fun child => h.properties child rest) w := rfl

/-- A place that an assignment reads on its way down is read alike by a lookup. -/
lemma property_of_place (container : owner.isContainer = true)
    (read : h.place owner segment w = .ok child w₁) :
    h.property owner segment w = .ok child w₁ := by
  rw [property_apply (Value.isFunction_eq_false_of_isContainer container)]
  cases owner with
  | object entries =>
    obtain ⟨rfl, there⟩ := place_object_eq_ok_iff.mp read
    rw [readMember, there]
    rfl
  | array items =>
    obtain ⟨rfl, position, index, there⟩ := place_array_eq_ok_iff.mp read
    rw [readMember, index, bind_of_ok (HostM.ofExcept_ok _ _), Option.bind_some, there]
    rfl
  | cls c => exact read
  | _ => cases container

/-- What a place of a container holds depends on the world only if the container is a class, and
then only on that member. -/
lemma place_of_same (container : owner.isContainer = true)
    (read : h.place owner segment w = .ok child w₁)
    (same : ∀ x ∈ slotOf owner segment, w₂.slot x = w.slot x) :
    h.place owner segment w₂ = .ok child w₂ ∧ w₁ = w := by
  cases owner with
  | object entries =>
    obtain ⟨rfl, there⟩ := place_object_eq_ok_iff.mp read
    exact ⟨place_object_eq_ok_iff.mpr ⟨rfl, there⟩, rfl⟩
  | array items =>
    obtain ⟨rfl, there⟩ := place_array_eq_ok_iff.mp read
    exact ⟨place_array_eq_ok_iff.mpr ⟨rfl, there⟩, rfl⟩
  | cls c =>
    obtain ⟨rfl, there⟩ := place_cls_eq_ok_iff.mp read
    have still : w₂.slot (c.id, segment) = some child :=
      (same (c.id, segment) (List.mem_singleton_self _)).trans there
    exact ⟨place_cls_eq_ok_iff.mpr ⟨rfl, still⟩, rfl⟩
  | _ => cases container

/-- A class reads what its member is bound to. -/
lemma property_of_slot {c : ClassRef} (bound : w.slot (c.id, segment) = some value) :
    h.property (.cls c) segment w = .ok value w :=
  property_of_place rfl (place_cls_eq_ok_iff.mpr ⟨rfl, bound⟩)

/-- Putting back what a place of a container holds changes nothing. -/
lemma putBack_of_place (container : owner.isContainer = true)
    (read : h.place owner segment w = .ok child w) :
    h.putBack owner segment child w = .ok owner w := by
  rcases putBack_eq_or h owner segment child with stays | ⟨-, sets⟩
  · rw [stays]
    rfl
  rw [sets]
  cases owner with
  | object entries => exact setProperty_of_place rfl read w
  | array items => exact setProperty_of_place rfl read w
  | cls c =>
    have bound : w.slot (c.id, segment) = some child := (place_cls_eq_ok_iff.mp read).2
    rw [setProperty_cls, World.setSlot_of_slot bound]
  | _ => cases container

/-- Putting back what a member of a class held before it was bound anew takes the binding back,
unless that is a host object.  It makes no difference whether it has been taken back already. -/
lemma putBack_cls_of_slot {c : ClassRef} (bound : w.slot (c.id, segment) = some child)
    (taken_back : Prop) [Decidable taken_back] (new : Value) :
    h.putBack (.cls c) segment child
        (if taken_back ∧ child.isHostObject = false then w else w.setSlot (c.id, segment) new) =
      .ok (.cls c)
        (if child.isHostObject = false then w else w.setSlot (c.id, segment) new) := by
  rw [putBack_cls]
  cases object : child.isHostObject with
  | true => simp
  | false =>
    by_cases already : taken_back
    · simp [already, World.setSlot_of_slot bound]
    · simp [already, World.setSlot_setSlot_of_slot bound]

/-- Data in which a segment has been bound reads back at that segment, in every world. -/
lemma property_of_setProperty (data : owner.isHostObject = false)
    (set : h.setProperty owner segment value w = .ok owner' w') (w₂ : World σ) :
    owner'.isHostObject = false ∧ h.property owner' segment w₂ = .ok value w₂ := by
  cases owner with
  | object entries =>
    cases set
    refine ⟨rfl, ?_⟩
    rw [property_apply rfl, readMember, Assoc.get?_insert_self]
    rfl
  | array items =>
    obtain ⟨-, position, index, -, rfl⟩ := setProperty_array_eq_ok_iff.mp set
    refine ⟨rfl, property_of_place rfl (place_array_eq_ok_iff.mpr ?_)⟩
    exact ⟨rfl, position, sequenceIndex_putAt index value, getElem?_putAt_self ..⟩
  | function f => cases data
  | cls c => cases data
  | inst i => cases data
  | _ => cases set

/-! ## Writing and reading along a path -/

/-- In plain data an assignment changes nothing but what it answers, and that reads back in every
world. -/
lemma store_of_no_slots
    (containers : h.Owners (·.isContainer = true) owner (segment :: rest) w)
    (none : h.slots owner (segment :: rest) w = [])
    (stored : h.store value segment rest owner w = .ok owner' w') :
    w' = w ∧ owner'.isHostObject = false ∧
      ∀ w₂, h.properties owner' (segment :: rest) w₂ = .ok value w₂ := by
  induction rest generalizing owner owner' segment w w' with
  | nil =>
    have data : owner.isHostObject = false :=
      isHostObject_of_slotOf_eq_nil containers.1 (slotOf_eq_nil_of_slots none)
    rw [store_single (Value.isFunction_eq_false_of_isContainer containers.1)] at stored
    refine ⟨eq_of_setProperty_of_data data stored, (property_of_setProperty data stored w).1,
      fun w₂ => ?_⟩
    rw [properties_cons, bind_of_ok (property_of_setProperty data stored w₂).2]
    rfl
  | cons next rest ih =>
    rw [store_below (Value.isFunction_eq_false_of_isContainer containers.1)] at stored
    obtain ⟨child, w₁, read, stored⟩ := bind_eq_ok_iff.mp stored
    obtain ⟨child', w₂, below, put⟩ := bind_eq_ok_iff.mp stored
    have data : owner.isHostObject = false :=
      isHostObject_of_slotOf_eq_nil containers.1 (slotOf_eq_nil_of_slots none)
    rw [slots_of_place read, List.append_eq_nil_iff] at none
    obtain ⟨rfl, child_data, reads⟩ := ih (containers.2 child w₁ read) none.2 below
    rw [putBack_of_not_shared (Value.isShared_eq_false_of_isHostObject data)] at put
    refine ⟨(eq_of_setProperty_of_data data put).trans (eq_of_place_of_data data read),
      (property_of_setProperty data put w).1, fun w₃ => ?_⟩
    rw [properties_cons, bind_of_ok (property_of_setProperty data put w₃).2]
    exact reads w₃

/-- **Where the write goes.**  An assignment that passes classes answers its owner as it was.  The
last member that it passes is bound anew and stays so, unless that member has been passed before and
held data: then the data is put back as it was read, and the world is as before. -/
lemma store_of_slots {earlier : List ClassSlot}
    (containers : h.Owners (·.isContainer = true) owner (segment :: rest) w)
    (passes : h.slots owner (segment :: rest) w = earlier ++ [x])
    (stored : h.store value segment rest owner w = .ok owner' w') :
    owner' = owner ∧ ∃ new,
      w' = (if x ∈ earlier ∧ w.holdsObject x = false then w else w.setSlot x new) ∧
      (w.holdsObject x = true → new = value) ∧
      (x ∉ earlier → ∀ w₂,
        h.properties new (h.behind x owner (segment :: rest) w) w₂ = .ok value w₂) := by
  induction rest generalizing owner owner' segment w w' earlier with
  | nil =>
    rw [slots_single] at passes
    obtain ⟨c, rfl, rfl, rfl⟩ := eq_cls_of_slotOf passes
    rw [store_single rfl, setProperty_cls] at stored
    cases stored
    refine ⟨rfl, value, ?_, fun _ => rfl, fun _ w₂ => ?_⟩
    · rw [if_neg (by simp)]
    · rw [behind_of_mem (List.mem_singleton_self _)]
      rfl
  | cons next rest ih =>
    rw [store_below (Value.isFunction_eq_false_of_isContainer containers.1)] at stored
    obtain ⟨child, w₁, read, stored⟩ := bind_eq_ok_iff.mp stored
    obtain ⟨child', w₂, below, put⟩ := bind_eq_ok_iff.mp stored
    obtain ⟨-, rfl⟩ := place_of_same containers.1 read (fun _ _ => rfl)
    have containers_below := containers.2 child w₁ read
    rw [slots_of_place read] at passes
    rcases List.eq_nil_or_concat' (h.slots child (next :: rest) w₁) with none | ⟨later, y, some⟩
    -- Below the last class on the walk there is only data, which is put back with the change.
    · rw [none, List.append_nil] at passes
      obtain ⟨c, rfl, rfl, rfl⟩ := eq_cls_of_slotOf passes
      obtain ⟨rfl, child_data, reads⟩ := store_of_no_slots containers_below none below
      have bound : w₂.slot (c.id, segment) = some child := (place_cls_eq_ok_iff.mp read).2
      have held_data : child.isHostObject = false :=
        isHostObject_of_slotOf_eq_nil containers_below.1 (slotOf_eq_nil_of_slots none)
      rw [putBack_of_data child_data, setProperty_cls] at put
      cases put
      refine ⟨rfl, child', ?_, fun holds => ?_, fun _ w₃ => ?_⟩
      · rw [if_neg (by simp)]
      · rw [World.holdsObject_of_slot bound, held_data] at holds
        cases holds
      · rw [behind_of_mem (List.mem_singleton_self _)]
        exact reads w₃
    -- Further up, what is put back is what was read.
    · rw [some, ← List.append_assoc] at passes
      obtain ⟨rfl, last⟩ := List.append_inj' passes rfl
      cases last
      obtain ⟨rfl, new, rfl, whole, reads⟩ := ih containers_below some below
      by_cases here : x ∈ slotOf owner segment
      -- It is the written member itself that is put back.
      · obtain ⟨c, rfl, rfl⟩ := eq_cls_of_mem_slotOf here
        have bound : w₁.slot (c.id, segment) = Option.some child' := (place_cls_eq_ok_iff.mp read).2
        have passed_before : (c.id, segment) ∈ slotOf (.cls c) segment ++ later :=
          List.mem_append_left _ here
        rw [World.holdsObject_of_slot bound] at put whole ⊢
        rw [putBack_cls_of_slot bound] at put
        cases put
        refine ⟨rfl, new, ?_, whole, fun fresh => absurd passed_before fresh⟩
        simp only [passed_before, true_and]
      -- Another member still stands as it was read.
      · have same : ∀ y ∈ slotOf owner segment,
            (if x ∈ later ∧ w₁.holdsObject x = false then w₁ else w₁.setSlot x new).slot y =
              w₁.slot y := by
          intro y passed
          split
          · rfl
          · exact World.slot_setSlot_of_ne w₁ new (ne_of_mem_of_not_mem passed here)
        have again := (place_of_same containers.1 read same).1
        rw [putBack_of_place containers.1 again] at put
        cases put
        refine ⟨rfl, new, ?_, whole, fun fresh w₃ => ?_⟩
        · simp only [List.mem_append, here, false_or]
        · rw [behind_of_place here read]
          exact reads (fun there => fresh (List.mem_append_right _ there)) w₃

/-- Once a member of a class is bound, a path whose walk passed it leads through the new value from
the first pass on. -/
lemma properties_setSlot {path : List String}
    (containers : h.Owners (·.isContainer = true) owner path w) (passed : x ∈ h.slots owner path w)
    (new : Value) :
    h.properties owner path (w.setSlot x new) =
      h.properties new (h.behind x owner path w) (w.setSlot x new) := by
  induction path generalizing owner w with
  | nil => cases passed
  | cons segment rest ih =>
    rw [properties_cons]
    by_cases here : x ∈ slotOf owner segment
    · rw [behind_of_mem here]
      obtain ⟨c, rfl, rfl⟩ := eq_cls_of_mem_slotOf here
      exact bind_of_ok (property_of_slot (World.slot_setSlot_self ..))
    · cases read : h.place owner segment w with
      | error e w₁ =>
        rw [slots, read, List.append_nil] at passed
        exact absurd passed here
      | ok child w₁ =>
        obtain ⟨again, rfl⟩ := place_of_same containers.1 read fun y at_owner =>
          World.slot_setSlot_of_ne w new (ne_of_mem_of_not_mem at_owner here)
        rw [slots_of_place read] at passed
        have further := (List.mem_append.mp passed).resolve_left here
        rw [bind_of_ok (property_of_place containers.1 again), behind_of_place here read]
        exact ih (containers.2 child w₁ read) further

end Host

/-! ## Assignments to a path -/

namespace Scope

variable (s : Scope) (h : Host σ) (text : String) (w : World σ)

/-- The members of classes that the walk of a path passes. -/
def slots : List ClassSlot :=
  match s.get? (Path.ofString text).first with
  | some owner => h.slots owner (Path.ofString text).rest w
  | none => []

/-- The path behind the place where its walk first passes a member of a class. -/
def behind (x : ClassSlot) : List String :=
  match s.get? (Path.ofString text).first with
  | some owner => h.behind x owner (Path.ofString text).rest w
  | none => []

/-- The walk of a path passes the last of its members, which is the one that is written, only
once. -/
def PassesOnce : Prop :=
  ∀ earlier x, s.slots h text w = earlier ++ [x] → x ∉ earlier

/-- The walk of a path has passed data of the member that is written, so that a copy from before the
write is put back. -/
def PutsBackOld : Prop :=
  ∃ earlier x, s.slots h text w = earlier ++ [x] ∧ x ∈ earlier ∧ w.holdsObject x = false

/-- The walk of a path has passed the member that is written, and a class stands in it.  The path
then ends at that member, and its own way leads through what is written. -/
def LeadsThrough (x : ClassSlot) : Prop :=
  ∃ earlier, s.slots h text w = earlier ++ [x] ∧ x ∈ earlier ∧ w.holdsObject x = true

variable {s h text w} {s' : Scope} {value : Value} {w' : World σ}

section LastSlot

variable {earlier : List ClassSlot} {x : ClassSlot} (passes : s.slots h text w = earlier ++ [x])
include passes

/-- A walk has only one last member. -/
lemma eq_of_slots {earlier' : List ClassSlot} {y : ClassSlot}
    (passes' : s.slots h text w = earlier' ++ [y]) : earlier' = earlier ∧ y = x := by
  rw [passes] at passes'
  obtain ⟨same, last⟩ := List.append_inj' passes' rfl
  exact ⟨same.symm, (List.singleton_inj.mp last).symm⟩

lemma passesOnce_iff : s.PassesOnce h text w ↔ x ∉ earlier := by
  refine ⟨fun once => once earlier x passes, fun fresh earlier' y passes' => ?_⟩
  obtain ⟨rfl, rfl⟩ := eq_of_slots passes passes'
  exact fresh

lemma putsBackOld_iff : s.PutsBackOld h text w ↔ x ∈ earlier ∧ w.holdsObject x = false := by
  refine ⟨?_, fun old => ⟨earlier, x, passes, old⟩⟩
  rintro ⟨earlier', y, passes', old⟩
  obtain ⟨rfl, rfl⟩ := eq_of_slots passes passes'
  exact old

lemma leadsThrough_iff {y : ClassSlot} :
    s.LeadsThrough h text w y ↔ y = x ∧ x ∈ earlier ∧ w.holdsObject x = true := by
  constructor
  · rintro ⟨earlier', passes', holds⟩
    obtain ⟨rfl, rfl⟩ := eq_of_slots passes passes'
    exact ⟨rfl, holds⟩
  · rintro ⟨rfl, holds⟩
    exact ⟨earlier, passes, holds⟩

end LastSlot

lemma insert_of_get? {name : String} (found : s.get? name = some value) :
    s.insert name value = s := by
  rw [insert, Assoc.insert_of_get? found]

lemma lookup_of_found {owner : Value} (found : s.get? (Path.ofString text).first = some owner)
    (w : World σ) : s.lookup h text w = h.properties owner (Path.ofString text).rest w := by
  rw [lookup, found]
  rfl

lemma lookup_insert_first (s : Scope) (h : Host σ) (text : String) (owner : Value) (w : World σ) :
    (s.insert (Path.ofString text).first owner).lookup h text w =
      h.properties owner (Path.ofString text).rest w :=
  lookup_of_found (Assoc.get?_insert_self ..) w

/-- A write that passes no class is read back. -/
lemma lookup_of_no_slots (containers : s.Owners h (·.isContainer = true) text w)
    (none : s.slots h text w = []) (assigned : s.assign h text value w = .ok s' w') :
    s'.lookup h text w' = .ok value w' := by
  rcases assign_eq_ok_iff.mp assigned with
    ⟨path_eq, rfl, rfl⟩ | ⟨segment, rest, owner, owner', path_eq, found, stored, rfl⟩
  · rw [lookup_insert_first, path_eq]
    rfl
  · have owners := containers owner found
    rw [slots, found] at none
    rw [lookup_insert_first]
    rw [path_eq] at owners none ⊢
    exact (Host.store_of_no_slots owners none stored).2.2 w'

/-- A write that passes classes leaves the scope as it is, and binds the last member that it passes
unless a copy from before the write is put back over it. -/
lemma assign_of_slots {earlier : List ClassSlot} {x : ClassSlot}
    (containers : s.Owners h (·.isContainer = true) text w)
    (passes : s.slots h text w = earlier ++ [x])
    (assigned : s.assign h text value w = .ok s' w') :
    s' = s ∧ ∃ new,
      w' = (if x ∈ earlier ∧ w.holdsObject x = false then w else w.setSlot x new) ∧
      (w.holdsObject x = true → new = value) ∧
      (x ∉ earlier → ∀ w₂, h.properties new (s.behind h text w x) w₂ = .ok value w₂) ∧
      s.lookup h text (w.setSlot x new) =
        h.properties new (s.behind h text w x) (w.setSlot x new) := by
  rcases assign_eq_ok_iff.mp assigned with
    ⟨path_eq, -, -⟩ | ⟨segment, rest, owner, owner', path_eq, found, stored, rfl⟩
  · have no_slot : s.slots h text w = [] := by
      rw [slots, path_eq]
      cases s.get? (Path.ofString text).first <;> rfl
    rw [no_slot] at passes
    exact absurd passes.symm (List.append_ne_nil_of_right_ne_nil _ (List.cons_ne_nil _ _))
  · have owners := containers owner found
    simp only [slots, found] at passes
    simp only [behind, found, lookup_of_found found]
    rw [path_eq] at owners passes ⊢
    obtain ⟨rfl, new, left, whole, reads⟩ := Host.store_of_slots owners passes stored
    have passed : x ∈ h.slots owner' (segment :: rest) w := passes ▸ List.mem_concat_self
    exact ⟨insert_of_get? found, new, left, whole, reads,
      Host.properties_setSlot owners passed new⟩

end Scope

/-- **Reading back an assignment.**  Let all owners of a path be mappings, sequences and classes,
and let the assignment of a value to the path succeed.  A lookup of the path then answers that value
in exactly three cases.  The walk passes the member that is written only once.  Or it has passed
data of that member before, and the path read the value already: such an assignment changes nothing
at all.  Or it has passed that member before and a class stood there: such an assignment binds the
member, and the path behind its first pass has to read the value from the value itself. -/
theorem assign_reads_back_iff (s s' : Scope) (h : Host σ) (text : String) (value : Value)
    (w w' : World σ) (containers : s.Owners h (·.isContainer = true) text w)
    (assigned : s.assign h text value w = .ok s' w') :
    (s'.lookup h text w' = .ok value w' ↔
      s.PassesOnce h text w ∨
      s.PutsBackOld h text w ∧ s.lookup h text w = .ok value w ∨
      ∃ x, s.LeadsThrough h text w x ∧
        h.properties value (s.behind h text w x) w' = .ok value w') ∧
    (s.PutsBackOld h text w → s' = s ∧ w' = w) ∧
    ∀ x, s.LeadsThrough h text w x → s' = s ∧ w' = w.setSlot x value := by
  rcases List.eq_nil_or_concat' (s.slots h text w) with none | ⟨earlier, x, passes⟩
  · have never {earlier : List ClassSlot} {x : ClassSlot} (passes : s.slots h text w =
        earlier ++ [x]) : False := by
      rw [none] at passes
      exact List.append_ne_nil_of_right_ne_nil _ (List.cons_ne_nil _ _) passes.symm
    have reads := Scope.lookup_of_no_slots containers none assigned
    refine ⟨iff_of_true reads (Or.inl fun _ _ passes => (never passes).elim), ?_, ?_⟩
    · rintro ⟨_, _, passes, -⟩
      exact (never passes).elim
    · rintro _ ⟨_, passes, -⟩
      exact (never passes).elim
  obtain ⟨rfl, new, left, whole, reads, through⟩ := Scope.assign_of_slots containers passes assigned
  simp only [Scope.passesOnce_iff passes, Scope.putsBackOld_iff passes,
    Scope.leadsThrough_iff passes]
  by_cases passed : x ∈ earlier
  · cases object : w.holdsObject x with
    | false =>
      -- The copy from before the write is put back.
      rw [if_pos ⟨passed, object⟩] at left
      subst left
      simp [passed]
    | true =>
      -- The write stays, and the path leads through it.
      rw [if_neg (by simp [object])] at left
      obtain rfl := whole object
      subst left
      simp [passed, through]
  · -- The member is bound, and the path leads to it as before.
    rw [if_neg (fun stale => passed stale.1)] at left
    subst left
    simp [passed, through.trans (reads passed _)]

/-! ### One class, with itself among its members -/

/-- A scope with one class. -/
def classScope : Scope :=
  ⟨[("c", .cls ⟨"C", 0⟩)]⟩

/-- A world in which that class has one member. -/
def classWorld (name : String) (value : Value) : World Unit :=
  ⟨[(0, [(name, value)])], ()⟩

/-- Data in a member of the class takes a write, which reads back. -/
theorem assign_below_member_reads_back :
    classScope.assign emptyHost "c.m.x" (.int 5) (classWorld "m" (.object [])) =
        .ok classScope (classWorld "m" (.object [("x", .int 5)])) ∧
      classScope.lookup emptyHost "c.m.x" (classWorld "m" (.object [("x", .int 5)])) =
        .ok (.int 5) (classWorld "m" (.object [("x", .int 5)])) := by
  have assigned : classScope.assign emptyHost "c.m.x" (.int 5) (classWorld "m" (.object [])) =
      .ok classScope (classWorld "m" (.object [("x", .int 5)])) := rfl
  have owners : classScope.Owners emptyHost (·.isContainer = true) "c.m.x"
      (classWorld "m" (.object [])) := by
    intro owner found
    have is_cls : some (Value.cls ⟨"C", 0⟩) = some owner := found
    cases is_cls
    show Host.Owners emptyHost _ _ ["m", "x"] _
    refine ⟨rfl, fun child w₁ read => ?_⟩
    cases read
    exact ⟨rfl, fun _ _ _ => trivial⟩
  have once : classScope.PassesOnce emptyHost "c.m.x" (classWorld "m" (.object [])) := by
    intro earlier x passes
    have one : [] ++ [(0, "m")] = earlier ++ [x] := passes
    obtain ⟨rfl, -⟩ := List.append_inj' one rfl
    exact List.not_mem_nil
  exact ⟨assigned, (assign_reads_back_iff classScope classScope emptyHost "c.m.x" (.int 5) _ _
    owners assigned).1.mpr (Or.inl once)⟩

/-- A write can be lost: from an empty world, a mapping is assigned to a member of the class and the
class to an entry of the mapping.  The assignment to a path which passes that member twice then
succeeds, changes nothing, and does not read back. -/
theorem assign_loses_write :
    classScope.assign emptyHost "c.m" (.object []) ⟨[], ()⟩ =
        .ok classScope (classWorld "m" (.object [])) ∧
      classScope.lookup emptyHost "c" (classWorld "m" (.object [])) =
        .ok (.cls ⟨"C", 0⟩) (classWorld "m" (.object [])) ∧
      classScope.assign emptyHost "c.m.k" (.cls ⟨"C", 0⟩) (classWorld "m" (.object [])) =
        .ok classScope (classWorld "m" (.object [("k", .cls ⟨"C", 0⟩)])) ∧
      classScope.Owners emptyHost (·.isContainer = true) "c.m.k.m.x"
        (classWorld "m" (.object [("k", .cls ⟨"C", 0⟩)])) ∧
      classScope.assign emptyHost "c.m.k.m.x" (.int 5)
          (classWorld "m" (.object [("k", .cls ⟨"C", 0⟩)])) =
        .ok classScope (classWorld "m" (.object [("k", .cls ⟨"C", 0⟩)])) ∧
      classScope.lookup emptyHost "c.m.k.m.x" (classWorld "m" (.object [("k", .cls ⟨"C", 0⟩)])) =
        .ok .null (classWorld "m" (.object [("k", .cls ⟨"C", 0⟩)])) := by
  refine ⟨rfl, rfl, rfl, ?_, rfl, rfl⟩
  intro owner found
  have is_cls : some (Value.cls ⟨"C", 0⟩) = some owner := found
  cases is_cls
  show Host.Owners emptyHost _ _ ["m", "k", "m", "x"] _
  refine ⟨rfl, fun child w₁ read => ?_⟩
  cases read
  refine ⟨rfl, fun child w₁ read => ?_⟩
  cases read
  refine ⟨rfl, fun child w₁ read => ?_⟩
  cases read
  exact ⟨rfl, fun _ _ _ => trivial⟩

end Conformance
