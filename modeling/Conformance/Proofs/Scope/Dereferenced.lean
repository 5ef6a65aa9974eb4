import Mathlib.Data.List.Forall2
import Conformance.CommandLine.Program
import Conformance.Proofs.Action
import Conformance.Proofs.Value.Position
import Conformance.Scope.Dereference

/-!
# What dereferencing leaves behind

Dereferencing passes over a value once.  Every reference node is replaced by what its path answers,
and around the replaced nodes the value keeps its shape.  What is put in their place is not searched
again, and a mapping is taken for a reference node by its shape alone.  So a reference node can be
left in the result in two ways: inside of what a look-up answers, or as a mapping whose only value
was a reference and reads null.  A result without reference nodes is dereferenced to itself.

## Parts

* `Scope.ComesTo` relates a value to what it is dereferenced to.  `Scope.ComesTo.at` follows a
  position from the value to the result, and `Scope.ComesTo.origin` back.
* `Scope.dereference_of_referenceFree` is dereferencing without reference nodes.
* `dereference_complete_iff` is the result.
-/

namespace Conformance

variable {σ : Type}

/-! ## What a value is dereferenced to -/

namespace Scope

variable (s : Scope) (h : Host σ)

/-- In some world the value is dereferenced to the other one. -/
def ComesTo (v v' : Value) : Prop :=
  ∃ w w', s.dereference h v w = .ok v' w'

variable {s h} {v v' x y : Value} {w w' : World σ} {position : List ℕ} {path key : String}

lemma comesTo_items {items items' : List Value}
    (ok : s.dereferenceItems h items w = .ok items' w') :
    List.Forall₂ (s.ComesTo h) items items' := by
  induction items generalizing items' w with
  | nil =>
    cases ok
    exact .nil
  | cons item rest ih =>
    rw [dereferenceItems] at ok
    obtain ⟨item', w₁, first, ok⟩ := bind_eq_ok_iff.mp ok
    obtain ⟨rest', w₂, others, ok⟩ := bind_eq_ok_iff.mp ok
    cases ok
    exact .cons ⟨w, w₁, first⟩ (ih others)

/-- Keys are kept. -/
lemma comesTo_entries {entries entries' : Mapping}
    (ok : s.dereferenceEntries h entries w = .ok entries' w') :
    List.Forall₂ (fun entry entry' => entry'.1 = entry.1 ∧ s.ComesTo h entry.2 entry'.2)
      entries entries' := by
  induction entries generalizing entries' w with
  | nil =>
    cases ok
    exact .nil
  | cons entry rest ih =>
    obtain ⟨key, item⟩ := entry
    rw [dereferenceEntries] at ok
    obtain ⟨item', w₁, first, ok⟩ := bind_eq_ok_iff.mp ok
    obtain ⟨rest', w₂, others, ok⟩ := bind_eq_ok_iff.mp ok
    cases ok
    exact .cons ⟨rfl, w, w₁, first⟩ (ih others)

/-- A reference node comes to what its path answers. -/
lemma comesTo_reference_iff :
    s.ComesTo h (.reference path) v' ↔ ∃ w w', s.lookup h path w = .ok v' w' := by
  rw [ComesTo, Value.reference, dereference]

/-- Every other mapping comes to a mapping. -/
lemma comesTo_object {entries : Mapping} (shape : (Value.object entries).reference? = none)
    (comes : s.ComesTo h (.object entries) v') :
    ∃ entries', v' = .object entries' ∧
      List.Forall₂ (fun entry entry' => entry'.1 = entry.1 ∧ s.ComesTo h entry.2 entry'.2)
        entries entries' := by
  have no_node : ∀ path, entries = [(path, .null)] → False := by
    rintro path rfl
    cases shape
  obtain ⟨w, w', ok⟩ := comes
  rw [dereference.eq_2 _ _ _ no_node] at ok
  obtain ⟨entries', w₁, each, answered⟩ := bind_eq_ok_iff.mp ok
  cases answered
  exact ⟨entries', rfl, comesTo_entries each⟩

lemma comesTo_array {items : List Value} (comes : s.ComesTo h (.array items) v') :
    ∃ items', v' = .array items' ∧ List.Forall₂ (s.ComesTo h) items items' := by
  obtain ⟨w, w', ok⟩ := comes
  rw [dereference] at ok
  obtain ⟨items', w₁, each, answered⟩ := bind_eq_ok_iff.mp ok
  cases answered
  exact ⟨items', rfl, comesTo_items each⟩

/-- A value that is neither a mapping nor a sequence comes to itself. -/
lemma eq_of_comesTo (not_array : ∀ items, v ≠ .array items)
    (not_object : ∀ entries, v ≠ .object entries) (comes : s.ComesTo h v v') : v' = v := by
  obtain ⟨w, w', ok⟩ := comes
  rw [dereference.eq_4 _ _ _ (fun path => not_object [(path, .null)]) not_object not_array] at ok
  cases ok
  rfl

/-! ## Following positions -/

lemma rel_getElem?_of_forall₂ {α β : Type} {R : α → β → Prop} {as : List α} {bs : List β}
    (each : List.Forall₂ R as bs) (n : ℕ) : Option.Rel R as[n]? bs[n]? := by
  induction each generalizing n with
  | nil => exact .none
  | cons first _ ih =>
    cases n with
    | zero => exact .some first
    | succ n => exact ih n

lemma rel_child_of_entries {entries entries' : Mapping}
    (each : List.Forall₂ (fun entry entry' => entry'.1 = entry.1 ∧ s.ComesTo h entry.2 entry'.2)
      entries entries') (n : ℕ) :
    Option.Rel (s.ComesTo h) ((Value.object entries).child? n)
      ((Value.object entries').child? n) := by
  have related := rel_getElem?_of_forall₂ each n
  show Option.Rel _ (entries[n]?.map Prod.snd) (entries'[n]?.map Prod.snd)
  generalize entries[n]? = entry at related ⊢
  generalize entries'[n]? = entry' at related ⊢
  cases related with
  | none => exact .none
  | some kept => exact .some kept.2

/-- What stands directly inside of anything but a reference node is dereferenced on its own. -/
lemma rel_child (shape : v.reference? = none) (comes : s.ComesTo h v v') (n : ℕ) :
    Option.Rel (s.ComesTo h) (v.child? n) (v'.child? n) := by
  cases v with
  | array items =>
    obtain ⟨items', rfl, each⟩ := comesTo_array comes
    exact rel_getElem?_of_forall₂ each n
  | object entries =>
    obtain ⟨entries', rfl, each⟩ := comesTo_object shape comes
    exact rel_child_of_entries each n
  | _ =>
    rw [eq_of_comesTo (fun _ => Value.noConfusion) (fun _ => Value.noConfusion) comes]
    exact .none

/-- What stands somewhere in a value comes to what stands there in the result.  The null inside of a
reference node is excepted, since the node is replaced as a whole. -/
lemma ComesTo.at (comes : s.ComesTo h v v') (there : v.at? position = some x)
    (something : x ≠ .null) : ∃ x', v'.at? position = some x' ∧ s.ComesTo h x x' := by
  induction position generalizing v v' with
  | nil =>
    cases there
    exact ⟨v', rfl, comes⟩
  | cons n below ih =>
    cases shape : v.reference? with
    | some path =>
      rw [Value.eq_reference_of_reference? shape] at there
      exact absurd (Value.eq_null_of_at?_reference there) something
    | none =>
      have related := rel_child shape comes n
      obtain ⟨child, here, there⟩ := Option.bind_eq_some_iff.mp there
      rw [here] at related
      rw [Value.at?_cons]
      generalize v'.child? n = child' at related ⊢
      cases related with
      | some comes => exact ih comes there

/-- What stands somewhere in the result stands inside of what a reference node was replaced by, or
it is what something other than a reference node has come to. -/
lemma ComesTo.origin (comes : s.ComesTo h v v') (there : v'.at? position = some y) :
    (∃ above below path u, position = above ++ below ∧ v.at? above = some (.reference path) ∧
      v'.at? above = some u ∧ u.at? below = some y) ∨
      ∃ x, v.at? position = some x ∧ x.reference? = none ∧ s.ComesTo h x y := by
  induction position generalizing v v' with
  | nil =>
    cases shape : v.reference? with
    | some path =>
      rw [Value.eq_reference_of_reference? shape]
      exact Or.inl ⟨[], [], path, v', rfl, rfl, rfl, there⟩
    | none =>
      cases there
      exact Or.inr ⟨v, rfl, shape, comes⟩
  | cons n below ih =>
    cases shape : v.reference? with
    | some path =>
      rw [Value.eq_reference_of_reference? shape]
      exact Or.inl ⟨[], n :: below, path, v', rfl, rfl, rfl, there⟩
    | none =>
      have related := rel_child shape comes n
      obtain ⟨child', here', there⟩ := Option.bind_eq_some_iff.mp there
      rw [here'] at related
      cases here : v.child? n with
      | none =>
        rw [here] at related
        cases related
      | some child =>
        rw [here] at related
        cases related with
        | some comes =>
          have down (position : List ℕ) : v.at? (n :: position) = child.at? position := by
            rw [Value.at?_cons, here, Option.bind_some]
          have down' (position : List ℕ) : v'.at? (n :: position) = child'.at? position := by
            rw [Value.at?_cons, here', Option.bind_some]
          rw [down]
          rcases ih comes there with ⟨above, rest, path, u, rfl, node, replaced, inside⟩ | kept
          · refine Or.inl ⟨n :: above, rest, path, u, rfl, ?_, ?_, inside⟩
            · rw [down, node]
            · rw [down', replaced]
          · exact Or.inr kept

/-! ## Reference nodes in the result -/

/-- Only null and references come to null. -/
lemma reference_of_comesTo_null (comes : s.ComesTo h v .null) (something : v ≠ .null) :
    ∃ path, v = .reference path := by
  cases shape : v.reference? with
  | some path => exact ⟨path, Value.eq_reference_of_reference? shape⟩
  | none =>
    cases v with
    | array items =>
      obtain ⟨items', same, -⟩ := comesTo_array comes
      cases same
    | object entries =>
      obtain ⟨entries', same, -⟩ := comesTo_object shape comes
      cases same
    | _ =>
      have same := eq_of_comesTo (fun _ => Value.noConfusion) (fun _ => Value.noConfusion) comes
      exact absurd same.symm something

/-- What comes to a reference node without being one is a mapping whose only value is a reference
that reads null. -/
lemma eq_of_comesTo_reference (shape : v.reference? = none)
    (comes : s.ComesTo h v (.reference key)) :
    ∃ path, v = .object [(key, .reference path)] := by
  cases v with
  | array items =>
    obtain ⟨items', same, -⟩ := comesTo_array comes
    cases same
  | object entries =>
    obtain ⟨entries', same, each⟩ := comesTo_object shape comes
    cases same
    obtain ⟨⟨first, item⟩, rest, ⟨same_key, comes_null⟩, none_behind, rfl⟩ :=
      List.forall₂_cons_right_iff.mp each
    obtain rfl := List.forall₂_nil_right_iff.mp none_behind
    have same_key : key = first := same_key
    subst same_key
    have something : item ≠ .null := by
      rintro rfl
      cases shape
    obtain ⟨path, rfl⟩ := reference_of_comesTo_null comes_null something
    exact ⟨path, rfl⟩
  | _ => cases eq_of_comesTo (fun _ => Value.noConfusion) (fun _ => Value.noConfusion) comes

/-- A mapping whose only value is a reference keeps its key. -/
lemma comesTo_single (comes : s.ComesTo h (.object [(key, .reference path)]) v') :
    ∃ u, v' = .object [(key, u)] := by
  obtain ⟨entries', rfl, each⟩ := comesTo_object rfl comes
  obtain ⟨⟨key', u⟩, rest, ⟨same_key, -⟩, none_behind, rfl⟩ :=
    List.forall₂_cons_left_iff.mp each
  obtain rfl := List.forall₂_nil_left_iff.mp none_behind
  have same_key : key' = key := same_key
  exact ⟨u, by rw [same_key]⟩

/-! ## Values without reference nodes -/

/-- **Nothing to replace.**  A value without reference nodes is dereferenced to itself, in every
world and without a change to it. -/
theorem dereference_of_referenceFree (s : Scope) (h : Host σ) (v : Value) (free : v.ReferenceFree)
    (w : World σ) : s.dereference h v w = .ok v w := by
  revert free w
  refine dereference.induct
    (fun v => v.ReferenceFree → ∀ w, s.dereference h v w = .ok v w)
    (fun items => (∀ item ∈ items, item.ReferenceFree) →
      ∀ w, s.dereferenceItems h items w = .ok items w)
    (fun entries => (∀ entry ∈ entries, entry.2.ReferenceFree) →
      ∀ w, s.dereferenceEntries h entries w = .ok entries w)
    ?reference ?object ?array ?other ?noItems ?item ?noEntries ?entry v
  case reference =>
    intro path free
    exact absurd rfl (free [] path)
  case object =>
    intro entries no_node ih free w
    have inside : ∀ entry ∈ entries, entry.2.ReferenceFree := fun entry mem =>
      free.of_mem_children (List.mem_map_of_mem mem)
    rw [dereference.eq_2 _ _ _ no_node, bind_of_ok (ih inside w)]
    rfl
  case array =>
    intro items ih free w
    have inside : ∀ item ∈ items, item.ReferenceFree := fun item mem =>
      free.of_mem_children mem
    rw [dereference, bind_of_ok (ih inside w)]
    rfl
  case other =>
    intro v no_node not_object not_array _ w
    rw [dereference.eq_4 _ _ _ no_node not_object not_array]
    rfl
  case noItems =>
    intro _ w
    rfl
  case item =>
    intro item rest first others free w
    rw [List.forall_mem_cons] at free
    rw [dereferenceItems, bind_of_ok (first free.1 w), bind_of_ok (others free.2 w)]
    rfl
  case noEntries =>
    intro _ w
    rfl
  case entry =>
    intro key item rest first others free w
    rw [List.forall_mem_cons] at free
    rw [dereferenceEntries, bind_of_ok (first free.1 w), bind_of_ok (others free.2 w)]
    rfl

end Scope

/-- **What dereferencing leaves behind.**  If a value is dereferenced, each of its reference nodes
is replaced by an answer of its path.  The result has no reference node exactly if none of these
answers has one and none is the null that makes one of a mapping around it.  Then it is dereferenced
to itself, in every world. -/
theorem dereference_complete_iff (s : Scope) (h : Host σ) (v v' : Value) (w w' : World σ)
    (ok : s.dereference h v w = .ok v' w') :
    (∀ position path, v.at? position = some (.reference path) →
      ∃ u w₁ w₂, v'.at? position = some u ∧ s.lookup h path w₁ = .ok u w₂) ∧
    (v'.ReferenceFree ↔
      (∀ position path u, v.at? position = some (.reference path) →
        v'.at? position = some u → u.ReferenceFree) ∧
      ∀ position key path, v.at? position = some (.object [(key, .reference path)]) →
        v'.at? (position ++ [0]) ≠ some .null) ∧
    (v'.ReferenceFree → ∀ w₁, s.dereference h v' w₁ = .ok v' w₁) := by
  have comes : s.ComesTo h v v' := ⟨w, w', ok⟩
  refine ⟨?_, ⟨?_, ?_⟩, Scope.dereference_of_referenceFree s h v'⟩
  · intro position path node
    obtain ⟨u, there, comes⟩ := comes.at node Value.noConfusion
    obtain ⟨w₁, w₂, found⟩ := Scope.comesTo_reference_iff.mp comes
    exact ⟨u, w₁, w₂, there, found⟩
  · intro free
    refine ⟨fun position path u _ there => free.at there, ?_⟩
    intro position key path around reads_null
    obtain ⟨x', there, comes⟩ := comes.at around Value.noConfusion
    obtain ⟨u, rfl⟩ := Scope.comesTo_single comes
    rw [Value.at?_append, there] at reads_null
    have is_null : some u = some Value.null := reads_null
    cases is_null
    exact free position key there
  · rintro ⟨answers_free, no_null⟩ position path node
    rcases comes.origin node with ⟨above, below, ref, u, rfl, at_node, there, inside⟩ |
      ⟨x, there, shape, comes⟩
    · exact answers_free above ref u at_node there below path inside
    · obtain ⟨ref, rfl⟩ := Scope.eq_of_comesTo_reference shape comes
      refine no_null position path ref there ?_
      rw [Value.at?_append, node]
      rfl

/-- A scope in which `x` is a mapping that looks like a reference to `y`. -/
def chainScope : Scope :=
  ⟨[("x", .reference "y"), ("y", .int 5)]⟩

/-- References at two depths are replaced, and dereferencing the result changes nothing. -/
theorem dereference_nested_settles :
    chainScope.dereference emptyHost
        (.array [.reference "y", .object [("keep", .int 1), ("nested", .reference "y")]])
        ⟨[], ()⟩ =
      .ok (.array [.int 5, .object [("keep", .int 1), ("nested", .int 5)]]) ⟨[], ()⟩ ∧
    chainScope.dereference emptyHost
        (.array [.int 5, .object [("keep", .int 1), ("nested", .int 5)]]) ⟨[], ()⟩ =
      .ok (.array [.int 5, .object [("keep", .int 1), ("nested", .int 5)]]) ⟨[], ()⟩ := by
  have ok : chainScope.dereference emptyHost
      (.array [.reference "y", .object [("keep", .int 1), ("nested", .reference "y")]])
      ⟨[], ()⟩ =
    .ok (.array [.int 5, .object [("keep", .int 1), ("nested", .int 5)]]) ⟨[], ()⟩ := rfl
  have number_free (i : Int64) : (Value.int i).ReferenceFree :=
    Value.referenceFree_of_child rfl fun _ _ none => by cases none
  have mapping_free : (Value.object [("keep", .int 1), ("nested", .int 5)]).ReferenceFree := by
    refine Value.referenceFree_of_child rfl ?_
    rintro (_ | _ | n) u there <;> cases there <;> exact number_free _
  have free : (Value.array
      [.int 5, .object [("keep", .int 1), ("nested", .int 5)]]).ReferenceFree := by
    refine Value.referenceFree_of_child rfl ?_
    rintro (_ | _ | n) u there <;> cases there
    · exact number_free 5
    · exact mapping_free
  exact ⟨ok, (dereference_complete_iff chainScope emptyHost _ _ _ _ ok).2.2 free _⟩

/-- It is not so that dereferencing leaves no reference node, and neither is it so that
dereferencing the result gives it back. -/
theorem dereference_leaves_reference :
    (¬ ∀ (s : Scope) (v v' : Value) (w w' : World Unit),
      s.dereference emptyHost v w = .ok v' w' → v'.ReferenceFree) ∧
    ¬ ∀ (s : Scope) (v v' : Value) (w w' : World Unit),
      s.dereference emptyHost v w = .ok v' w' → s.dereference emptyHost v' w' = .ok v' w' := by
  have ok : chainScope.dereference emptyHost (.reference "x") ⟨[], ()⟩ =
      .ok (.reference "y") ⟨[], ()⟩ := rfl
  constructor
  · intro complete
    exact complete chainScope _ _ _ _ ok [] "y" rfl
  · intro idempotent
    have again : chainScope.dereference emptyHost (.reference "y") ⟨[], ()⟩ =
        .ok (.int 5) ⟨[], ()⟩ := rfl
    rw [idempotent chainScope _ _ _ _ ok] at again
    cases again

end Conformance
