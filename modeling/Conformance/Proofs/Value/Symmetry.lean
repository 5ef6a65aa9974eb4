import Conformance.CommandLine.Program
import Conformance.Proofs.Value.Layers

/-!
# Equality from both sides

The comparison of two values treats its sides differently.  Two mappings are compared by looking the
keys of the first up in the second, and an instance is compared with data through its view, on
whichever side it stands.  Neither makes a difference, because a key that is not repeated is found
from either side.  So it does not matter either on which side of the comparison a test puts what it
got and on which side what it expected.

## Parts

* `Value.equalWith_comm` says that the sides of a comparison may be exchanged.
* `equality_symmetric_and_reflexive` is the result.
-/

namespace Conformance

namespace Value

variable {shows : InstanceRef → Value → Bool} {a b : Value}

lemma equalWith_symm (a_distinct : a.KeysDistinct) (b_distinct : b.KeysDistinct)
    (equal : equalWith shows a b = true) : equalWith shows b a = true := by
  induction a using induction_on_children generalizing b with
  | step a ih =>
    rcases a.isData_or_inst with a_data | ⟨i, rfl⟩
    · rcases b.isData_or_inst with b_data | ⟨j, rfl⟩
      · rw [equalWith_iff_of_data a_data b_data] at equal
        obtain ⟨same, inside⟩ := equal
        refine (equalWith_iff_of_data b_data a_data).mpr
          ⟨same.symm a_distinct, fun y x facing => ?_⟩
        have turned := facing.symm b_distinct
        obtain ⟨mem_a, mem_b⟩ := turned.mem_children
        exact ih x mem_a (a_distinct.child mem_a) (b_distinct.child mem_b) (inside x y turned)
      · rw [(equalWith_inst a_data).2] at equal
        rw [(equalWith_inst a_data).1, equal]
    · rcases b.isData_or_inst with b_data | ⟨j, rfl⟩
      · rw [(equalWith_inst b_data).1] at equal
        rw [(equalWith_inst b_data).2, equal]
      · rw [equalWith, beq_iff_eq] at equal ⊢
        exact equal.symm

/-- The sides of a comparison may be exchanged. -/
theorem equalWith_comm (a_distinct : a.KeysDistinct) (b_distinct : b.KeysDistinct) :
    equalWith shows a b = equalWith shows b a := by
  rw [Bool.eq_iff_iff]
  exact ⟨equalWith_symm a_distinct b_distinct, equalWith_symm b_distinct a_distinct⟩

/-- So may the sides of a comparison of values in a world. -/
theorem equal_comm (views : Views) (a_distinct : a.KeysDistinct) (b_distinct : b.KeysDistinct) :
    a.equal views b = b.equal views a := by
  obtain ⟨shows, eq⟩ := exists_equalWith views
  rw [eq, eq, equalWith_comm a_distinct b_distinct]

end Value

/-- **Equality does not depend on the sides.**  In every world, two values compare the same way
whichever of them stands first, and a value equals itself unless a NaN stands in it.  So a test
passes or fails alike, whether what it got is compared with what it expected or the other way round.
Values have each key of a mapping once, as mappings do. -/
theorem equality_symmetric_and_reflexive {σ : Type} (h : Host σ) (w : World σ) :
    (∀ a b : Value, a.KeysDistinct → b.KeysDistinct → h.equal w a b = h.equal w b a) ∧
    (∀ a : Value, a.KeysDistinct → a.NanFree → h.equal w a a = true) ∧
    ∀ (expected : Value) (o : Outcome), expected.KeysDistinct → o.value.KeysDistinct →
      o.passes (h.equal w) expected = o.passes (fun a b => h.equal w b a) expected := by
  refine ⟨fun a b => Value.equal_comm (h.views w), Value.equal_self (h.views w), ?_⟩
  intro expected o expected_distinct value_distinct
  rw [Outcome.passes, Outcome.passes]
  have turned : h.equal w o.value expected = h.equal w expected o.value :=
    Value.equal_comm (h.views w) value_distinct expected_distinct
  rw [turned]

/-! ### An instance and the data that it shows -/

/-- A host whose instances all show the same point. -/
def pointHost : Host Unit :=
  { emptyHost with
    views := fun _ => ⟨fun _ => some (.object [("x", .int 1), ("y", .int 2)]), 1⟩ }

/-- A place that holds such an instance. -/
def heldPlace : Value :=
  .object [("name", .string "p"), ("at", .inst ⟨"Point", 0⟩)]

/-- The same place as data, with other entries first and a coordinate as a floating-point number. -/
def statedPlace : Value :=
  .object [("at", .object [("y", .float (.ofInt 2)), ("x", .int 1)]), ("name", .string "p")]

lemma heldPlace_distinct : heldPlace.KeysDistinct := by
  refine Value.keysDistinct_of_children ?_ ?_
  · rintro _ ⟨⟩
    decide
  · simp only [heldPlace, Value.children, List.map_cons, List.map_nil, List.forall_mem_cons]
    exact ⟨Value.keysDistinct_of_scalar nofun rfl, Value.keysDistinct_of_scalar nofun rfl, nofun⟩

lemma statedPlace_distinct : statedPlace.KeysDistinct := by
  refine Value.keysDistinct_of_children ?_ ?_
  · rintro _ ⟨⟩
    decide
  · simp only [statedPlace, Value.children, List.map_cons, List.map_nil, List.forall_mem_cons]
    refine ⟨Value.keysDistinct_of_children ?_ ?_, Value.keysDistinct_of_scalar nofun rfl, nofun⟩
    · rintro _ ⟨⟩
      decide
    · simp only [Value.children, List.map_cons, List.map_nil, List.forall_mem_cons]
      exact ⟨Value.keysDistinct_of_scalar nofun rfl, Value.keysDistinct_of_scalar nofun rfl, nofun⟩

lemma statedPlace_nanFree : statedPlace.NanFree := by
  refine Value.nanFree_of_children nofun ?_
  simp only [statedPlace, Value.children, List.map_cons, List.map_nil, List.forall_mem_cons]
  refine ⟨Value.nanFree_of_children nofun ?_, Value.nanFree_of_children nofun nofun, nofun⟩
  simp only [Value.children, List.map_cons, List.map_nil, List.forall_mem_cons]
  refine ⟨Value.nanFree_of_children ?_ nofun, Value.nanFree_of_children nofun nofun, nofun⟩
  rintro _ ⟨⟩
  decide +kernel

theorem held_place_from_both_sides :
    (heldPlace.KeysDistinct ∧ statedPlace.KeysDistinct ∧ statedPlace.NanFree) ∧
    pointHost.equal ⟨[], ()⟩ heldPlace statedPlace = true ∧
    pointHost.equal ⟨[], ()⟩ statedPlace heldPlace = true ∧
    pointHost.equal ⟨[], ()⟩ statedPlace statedPlace = true ∧
    Outcome.passes (fun a b => pointHost.equal ⟨[], ()⟩ b a) statedPlace ⟨heldPlace, none⟩ =
      true := by
  obtain ⟨comm, self, judged⟩ := equality_symmetric_and_reflexive pointHost ⟨[], ()⟩
  have equal : pointHost.equal ⟨[], ()⟩ heldPlace statedPlace = true := by decide +kernel
  have passes : Outcome.passes (pointHost.equal ⟨[], ()⟩) statedPlace ⟨heldPlace, none⟩ = true :=
    equal
  refine ⟨⟨heldPlace_distinct, statedPlace_distinct, statedPlace_nanFree⟩, equal, ?_,
    self _ statedPlace_distinct statedPlace_nanFree, ?_⟩
  · rw [comm _ _ statedPlace_distinct heldPlace_distinct, equal]
  · rw [← judged statedPlace ⟨heldPlace, none⟩ statedPlace_distinct heldPlace_distinct, passes]

end Conformance
