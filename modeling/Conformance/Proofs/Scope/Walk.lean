import Conformance.Proofs.Action
import Conformance.Scope.Assign

/-!
# The walk of an assignment

An assignment reads its way down to the owner of the last segment, binds that segment, and puts
what it has read back on its way up.  On a walk that meets no function this is all there is to
`Host.store`: every level is one read, the level below, and one write back.

## Parts

* `Host.walk` is the way down on its own, and `Host.Owners` says that all owners met on it satisfy a
  condition.
* `Host.place_object_eq_ok_iff`, `Host.setProperty_array_eq_ok_iff` and their companions say what
  reading and binding do to each kind of owner.
* `Host.eq_or_refused_of_setProperty` and `Host.refused_of_putBack` say what can fail: apart from
  the refusal of an instance, nothing that fails leaves a trace.
* `Host.store_single` and `Host.store_below` are the two levels of an assignment, and
  `Scope.assign_eq_ok_iff` and `Scope.assign_eq_error_iff` the assignment to a path.
-/

namespace Conformance

variable {σ : Type}

namespace Value

/-- Whether the value is a function. -/
def isFunction : Value → Bool
  | .function _ => true
  | _ => false

lemma isFunction_eq_false_of_isHostObject {v : Value} (data : v.isHostObject = false) :
    v.isFunction = false := by
  cases v <;> simp_all [isFunction, isHostObject]

lemma isShared_eq_false_of_isHostObject {v : Value} (data : v.isHostObject = false) :
    v.isShared = false := by
  cases v <;> simp_all [isShared, isHostObject]

end Value

namespace Host

variable (h : Host σ)

/-- Read the places of a path one after the other, as an assignment does on its way down. -/
def walk (owner : Value) : List String → HostM σ Value
  | [] => pure owner
  | segment :: rest => do
    walk (← h.place owner segment) rest

/-- All owners that an assignment meets satisfy a condition.  The last segment is the one that is
bound, so what stands there is no owner. -/
def Owners (P : Value → Prop) : Value → List String → World σ → Prop
  | _, [], _ => True
  | owner, segment :: rest, w =>
    P owner ∧ ∀ child w₁, h.place owner segment w = .ok child w₁ → Owners P child rest w₁

variable {h} {owner owner' child value : Value} {segment next : String} {rest : List String}
  {w w' w₁ : World σ} {e : Error}

@[simp] lemma walk_nil (owner : Value) (w : World σ) : h.walk owner [] w = .ok owner w := rfl

lemma walk_cons (owner : Value) (segment : String) (rest : List String) :
    h.walk owner (segment :: rest) = h.place owner segment >>= fun child => h.walk child rest :=
  rfl

/-- The owners met on the lower part of a walk are among those met on all of it. -/
lemma Owners.below {P : Value → Prop} {above segments : List String}
    (owners : h.Owners P owner (above ++ segments) w)
    (reached : h.walk owner above w = .ok child w₁) : h.Owners P child segments w₁ := by
  induction above generalizing owner w with
  | nil =>
    cases reached
    exact owners
  | cons segment above ih =>
    obtain ⟨next, w₂, read, reached⟩ := bind_eq_ok_iff.mp reached
    exact ih (owners.2 next w₂ read) reached

/-! ## Reading and binding, owner by owner -/

lemma place_object_eq_ok_iff {entries : Mapping} :
    h.place (.object entries) segment w = .ok child w' ↔
      w' = w ∧ entries.get? segment = some child := by
  rw [place]
  cases there : Assoc.get? entries segment with
  | none => simp
  | some child' => simp [eq_comm, and_comm]

/-- A sequence has a place exactly at the positions that it reaches. -/
lemma place_array_eq_ok_iff {items : List Value} :
    h.place (.array items) segment w = .ok child w' ↔
      w' = w ∧ ∃ position, sequenceIndex segment items.length = .ok (some position) ∧
        items[position]? = some child := by
  rw [place]
  cases index : sequenceIndex segment items.length with
  | error e => simp [bind_apply]
  | ok position =>
    rw [bind_of_ok (HostM.ofExcept_ok _ _)]
    cases position with
    | none => simp
    | some position =>
      cases there : items[position]? with
      | none => simp [there]
      | some child' => simp [there, eq_comm, and_comm]

lemma place_cls_eq_ok_iff {c : ClassRef} :
    h.place (.cls c) segment w = .ok child w' ↔
      w' = w ∧ (w.membersOf c).get? segment = some child := by
  show h.readMember (.cls c) segment w = .ok child w' ↔ _
  rw [readMember, bind_of_ok (get_apply w)]
  cases there : (w.membersOf c).get? segment with
  | none => simp
  | some child' => simp [eq_comm, and_comm]

/-- A sequence takes a value at every position that it has or can be extended to. -/
lemma setProperty_array {items : List Value} (w : World σ) :
    h.setProperty (.array items) segment value w =
      match sequenceIndex segment items.length with
      | .ok (some position) =>
        if position < max items.length maxItems then .ok (.array (putAt items position value)) w
        else .error .capacityOverflow w
      | .ok none => .error (.indexOutOfRange segment) w
      | .error e => .error e w := by
  rw [setProperty]
  cases index : sequenceIndex segment items.length with
  | error e => rfl
  | ok position =>
    cases position with
    | none => rfl
    | some position =>
      rw [bind_of_ok (HostM.ofExcept_ok _ _)]
      dsimp only
      split <;> rfl

lemma setProperty_array_eq_ok_iff {items : List Value} :
    h.setProperty (.array items) segment value w = .ok owner' w' ↔
      w' = w ∧ ∃ position, sequenceIndex segment items.length = .ok (some position) ∧
        position < max items.length maxItems ∧ owner' = .array (putAt items position value) := by
  rw [setProperty_array]
  cases sequenceIndex segment items.length with
  | error e => simp
  | ok position =>
    cases position with
    | none => simp
    | some position =>
      by_cases fits : position < max items.length maxItems
      · simp only [fits, if_true, Except.ok.injEq, Option.some.injEq, exists_eq_left', true_and]
        simp [eq_comm, and_comm]
      · simp only [fits, if_false, Except.ok.injEq, Option.some.injEq, exists_eq_left', false_and,
          and_false, reduceCtorEq]

lemma setProperty_inst_eq_error_iff {i : InstanceRef} :
    h.setProperty (.inst i) segment value w = .error e w' ↔
      h.setMember i segment value w = .error e w' := by
  rw [setProperty, bind_eq_error_iff]
  simp

/-- Binding a segment on a host object answers the same object. -/
lemma eq_of_setProperty_of_host (host : owner.isHostObject = true)
    (set : h.setProperty owner segment value w = .ok owner' w') : owner' = owner := by
  cases owner with
  | cls c =>
    cases set
    rfl
  | inst i =>
    obtain ⟨_, w₁, -, answered⟩ := bind_eq_ok_iff.mp set
    cases answered
    rfl
  | function f => cases set
  | _ => cases host

/-- Binding a segment fails without a trace, or an instance refuses it. -/
lemma eq_or_refused_of_setProperty (fails : h.setProperty owner segment value w = .error e w') :
    w' = w ∨ ∃ i, owner = .inst i ∧ h.setMember i segment value w = .error e w' := by
  cases owner with
  | object entries => cases fails
  | array items =>
    rw [setProperty_array] at fails
    left
    split at fails
    · split at fails <;> cases fails
      rfl
    · cases fails
      rfl
    · cases fails
      rfl
  | cls c => cases fails
  | inst i => exact Or.inr ⟨i, rfl, setProperty_inst_eq_error_iff.mp fails⟩
  | _ =>
    cases fails
    exact Or.inl rfl

/-- Reading a place of data leaves the world alone. -/
lemma eq_of_place_of_data (data : owner.isHostObject = false)
    (read : h.place owner segment w = .ok child w') : w' = w := by
  cases owner with
  | object entries => exact (place_object_eq_ok_iff.mp read).1
  | array items => exact (place_array_eq_ok_iff.mp read).1
  | function f => cases data
  | cls c => cases data
  | inst i => cases data
  | _ => cases read

/-- Binding a segment on data leaves the world alone. -/
lemma eq_of_setProperty_of_data (data : owner.isHostObject = false)
    (set : h.setProperty owner segment value w = .ok owner' w') : w' = w := by
  cases owner with
  | object entries =>
    cases set
    rfl
  | array items => exact (setProperty_array_eq_ok_iff.mp set).1
  | function f => cases data
  | cls c => cases data
  | inst i => cases data
  | _ => cases set

/-- Binding a place of data to what was read there changes nothing. -/
lemma setProperty_of_place {w₀ : World σ} (data : owner.isHostObject = false)
    (read : h.place owner segment w₀ = .ok child w₁) (w : World σ) :
    h.setProperty owner segment child w = .ok owner w := by
  cases owner with
  | object entries =>
    obtain ⟨-, there⟩ := place_object_eq_ok_iff.mp read
    rw [setProperty, Assoc.insert_of_get? there]
    rfl
  | array items =>
    obtain ⟨-, position, index, there⟩ := place_array_eq_ok_iff.mp read
    obtain ⟨reaches, rfl⟩ := List.getElem?_eq_some_iff.mp there
    have same : putAt items position items[position] = items := by
      rw [putAt, if_pos reaches, List.set_getElem_self]
    exact setProperty_array_eq_ok_iff.mpr
      ⟨rfl, position, index, Nat.lt_of_lt_of_le reaches (Nat.le_max_left ..), by rw [same]⟩
  | function f => cases data
  | cls c => cases data
  | inst i => cases data
  | _ => cases read

/-! ## Putting back -/

lemma putBack_of_shared (host : owner.isShared = true) (shared : child.isHostObject = true) :
    h.putBack owner segment child = pure owner := by
  rw [putBack, host, shared]
  rfl

lemma putBack_of_data (data : child.isHostObject = false) :
    h.putBack owner segment child = h.setProperty owner segment child := by
  rw [putBack, data, Bool.and_false]
  rfl

lemma putBack_of_not_shared (data : owner.isShared = false) :
    h.putBack owner segment child = h.setProperty owner segment child := by
  rw [putBack, data, Bool.false_and]
  rfl

/-- Putting back does nothing, or it binds the place, as it does in data and for data. -/
lemma putBack_eq_or (h : Host σ) (owner : Value) (segment : String) (child : Value) :
    h.putBack owner segment child = pure owner ∨
      (owner.isShared = false ∨ child.isHostObject = false) ∧
        h.putBack owner segment child = h.setProperty owner segment child := by
  cases host : owner.isShared with
  | false => exact Or.inr ⟨Or.inl rfl, putBack_of_not_shared host⟩
  | true =>
    cases shared : child.isHostObject with
    | false => exact Or.inr ⟨Or.inr rfl, putBack_of_data shared⟩
    | true => exact Or.inl (putBack_of_shared host shared)

/-- A host object is answered as it is when something is put back into it. -/
lemma eq_of_putBack_of_host (host : owner.isHostObject = true)
    (put : h.putBack owner segment child w = .ok owner' w') : owner' = owner := by
  rcases putBack_eq_or h owner segment child with stays | ⟨-, sets⟩
  · rw [stays] at put
    cases put
    rfl
  · rw [sets] at put
    exact eq_of_setProperty_of_host host put

/-- Putting back fails only if an instance refuses to take data back. -/
lemma refused_of_putBack {child₀ : Value} {w₀ w₁ : World σ}
    (read : h.place owner segment w₀ = .ok child₀ w₁)
    (fails : h.putBack owner segment child w = .error e w') :
    child.isHostObject = false ∧
      ∃ i, owner = .inst i ∧ h.setMember i segment child w = .error e w' := by
  rcases putBack_eq_or h owner segment child with stays | ⟨open_place, sets⟩
  · rw [stays] at fails
    cases fails
  rw [sets] at fails
  cases owner with
  | object entries => cases fails
  | array items =>
    -- What has been read stands in the sequence, so putting it back does not extend the sequence.
    obtain ⟨-, position, index, there⟩ := place_array_eq_ok_iff.mp read
    obtain ⟨reaches, -⟩ := List.getElem?_eq_some_iff.mp there
    have fits : position < max items.length maxItems :=
      Nat.lt_of_lt_of_le reaches (Nat.le_max_left ..)
    rw [setProperty_array, index] at fails
    dsimp only at fails
    rw [if_pos fits] at fails
    cases fails
  | cls c => cases fails
  | inst i =>
    rcases open_place with host | data
    · cases host
    · exact ⟨data, i, rfl, setProperty_inst_eq_error_iff.mp fails⟩
  | _ => cases read

/-! ## The levels of an assignment -/

lemma writable_apply (called : owner.isFunction = false) (w : World σ) :
    h.writable owner w = .ok owner w := by
  cases owner <;> first | rfl | cases called

/-- An action that answers a host object as it is may as well answer the owner. -/
lemma bind_answer {action : HostM σ Value}
    (same : ∀ owner' w', owner.isHostObject = true → action w = .ok owner' w' → owner' = owner) :
    (do
      let updated ← action
      pure (if owner.isHostObject then owner else updated)) w = action w := by
  cases ran : action w with
  | error e w₁ => exact bind_of_error ran
  | ok updated w₁ =>
    rw [bind_of_ok ran]
    cases host : owner.isHostObject with
    | true =>
      rw [same updated w₁ host ran]
      rfl
    | false => rfl

/-- Without a function as the owner, the last segment is bound on the owner itself. -/
lemma store_single (called : owner.isFunction = false) (w : World σ) :
    h.store value segment [] owner w = h.setProperty owner segment value w := by
  rw [store, bind_of_ok (writable_apply called w)]
  exact bind_answer fun _ _ host set => eq_of_setProperty_of_host host set

/-- Without a function as the owner, every other segment is read, written below, and put back. -/
lemma store_below (called : owner.isFunction = false) (w : World σ) :
    h.store value segment (next :: rest) owner w = (do
      let child ← h.place owner segment
      let child ← h.store value next rest child
      h.putBack owner segment child) w := by
  rw [store, bind_of_ok (writable_apply called w), bind_apply, bind_apply]
  cases h.place owner segment w with
  | error e w₁ => rfl
  | ok child w₁ =>
    dsimp only
    rw [bind_apply, bind_apply]
    cases h.store value next rest child w₁ with
    | error e w₂ => rfl
    | ok child' w₂ => exact bind_answer fun _ _ host put => eq_of_putBack_of_host host put

/-- Every host object is answered as it is by a write below it. -/
lemma eq_of_store_of_host (called : owner.isFunction = false) (host : owner.isHostObject = true)
    (stored : h.store value segment rest owner w = .ok owner' w') : owner' = owner := by
  cases rest with
  | nil =>
    rw [store_single called] at stored
    exact eq_of_setProperty_of_host host stored
  | cons next rest =>
    rw [store_below called] at stored
    obtain ⟨child, w₁, -, stored⟩ := bind_eq_ok_iff.mp stored
    obtain ⟨child', w₂, -, put⟩ := bind_eq_ok_iff.mp stored
    exact eq_of_putBack_of_host host put

end Host

/-! ## Assignments to a path -/

namespace Scope

/-- All owners that an assignment to a path meets satisfy a condition. -/
def Owners (s : Scope) (h : Host σ) (P : Value → Prop) (text : String) (w : World σ) : Prop :=
  ∀ owner, s.get? (Path.ofString text).first = some owner →
    h.Owners P owner (Path.ofString text).rest w

variable {s s' : Scope} {h : Host σ} {text : String} {value : Value} {w w' : World σ} {e : Error}

lemma assign_of_entry (path : (Path.ofString text).rest = []) :
    s.assign h text value w = .ok (s.insert (Path.ofString text).first value) w := by
  simp only [assign, path]
  rfl

lemma assign_of_missing {segment : String} {rest : List String}
    (path : (Path.ofString text).rest = segment :: rest)
    (missing : s.get? (Path.ofString text).first = none) :
    s.assign h text value w =
      .error (.ofAssignment text (.notDefined (Path.ofString text).first)) w := by
  simp only [assign, path, missing]
  rfl

lemma assign_of_found {segment : String} {rest : List String} {owner : Value}
    (path : (Path.ofString text).rest = segment :: rest)
    (found : s.get? (Path.ofString text).first = some owner) :
    s.assign h text value w = match h.store value segment rest owner w with
      | .ok updated w' => .ok (s.insert (Path.ofString text).first updated) w'
      | .error e w' => .error (.ofAssignment text e) w' := by
  simp only [assign, path, found]
  rw [HostM.mapError, bind_apply]
  cases h.store value segment rest owner w <;> rfl

/-- An assignment binds an entry, or writes below one that is there. -/
lemma assign_eq_ok_iff :
    s.assign h text value w = .ok s' w' ↔
      ((Path.ofString text).rest = [] ∧ w' = w ∧ s' = s.insert (Path.ofString text).first value) ∨
        ∃ segment rest owner updated, (Path.ofString text).rest = segment :: rest ∧
          s.get? (Path.ofString text).first = some owner ∧
          h.store value segment rest owner w = .ok updated w' ∧
          s' = s.insert (Path.ofString text).first updated := by
  cases path : (Path.ofString text).rest with
  | nil =>
    rw [assign_of_entry path]
    simp [eq_comm, and_comm]
  | cons segment rest =>
    cases found : s.get? (Path.ofString text).first with
    | none =>
      rw [assign_of_missing path found]
      simp
    | some owner =>
      rw [assign_of_found path found]
      cases stored : h.store value segment rest owner w <;> simp [stored, eq_comm, and_comm]

/-- An assignment fails below an entry that is missing or that cannot be written into. -/
lemma assign_eq_error_iff :
    s.assign h text value w = .error e w' ↔
      ∃ segment rest, (Path.ofString text).rest = segment :: rest ∧
        ((s.get? (Path.ofString text).first = none ∧ w' = w ∧
            e = .ofAssignment text (.notDefined (Path.ofString text).first)) ∨
          ∃ owner e₀, s.get? (Path.ofString text).first = some owner ∧
            h.store value segment rest owner w = .error e₀ w' ∧
            e = .ofAssignment text e₀) := by
  cases path : (Path.ofString text).rest with
  | nil =>
    rw [assign_of_entry path]
    simp
  | cons segment rest =>
    cases found : s.get? (Path.ofString text).first with
    | none =>
      rw [assign_of_missing path found]
      simp [eq_comm, and_comm]
    | some owner =>
      rw [assign_of_found path found]
      cases stored : h.store value segment rest owner w <;> simp [stored, eq_comm, and_comm]

end Scope

end Conformance
