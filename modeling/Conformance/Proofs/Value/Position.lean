import Mathlib.Data.List.Basic
import Mathlib.Tactic.Common
import Conformance.Value.Basic

/-!
# Positions inside a value

A place inside a value is named by the steps that lead to it from outside, each the number of an
item of a sequence or of an entry of a mapping.  What is said of a value at all depths is said of
its positions, and proved by induction on what stands directly inside.

## Parts

* `Value.child?` and `Value.at?` are what stands one step and any number of steps inside a value.
* `Value.ReferenceFree` says that no position has a reference node.
* `Value.children` lists what stands directly inside, and `Value.induction_on_children` is the
  induction on it.
-/

namespace Conformance.Value

/-- What stands directly inside a sequence or a mapping, counted from the first item or entry. -/
def child? : Value → ℕ → Option Value
  | .array items, n => items[n]?
  | .object entries, n => entries[n]?.map Prod.snd
  | _, _ => none

/-- What stands at a position inside a value.  The position lists the steps from outside to
inside. -/
def at? : Value → List ℕ → Option Value
  | v, [] => some v
  | v, n :: below => (v.child? n).bind (·.at? below)

/-- No position of the value has a reference node. -/
def ReferenceFree (v : Value) : Prop :=
  ∀ position path, v.at? position ≠ some (.reference path)

variable {v u : Value} {position below : List ℕ} {path : String}

@[simp] lemma at?_nil (v : Value) : v.at? [] = some v := rfl

lemma at?_cons (v : Value) (n : ℕ) (below : List ℕ) :
    v.at? (n :: below) = (v.child? n).bind (·.at? below) := rfl

lemma at?_append (v : Value) (above below : List ℕ) :
    v.at? (above ++ below) = (v.at? above).bind (·.at? below) := by
  induction above generalizing v with
  | nil => rfl
  | cons n above ih =>
    rw [List.cons_append, at?_cons, at?_cons, Option.bind_assoc]
    simp only [ih]

lemma ReferenceFree.at (free : v.ReferenceFree) (there : v.at? position = some u) :
    u.ReferenceFree := by
  intro below path found
  refine free (position ++ below) path ?_
  rw [at?_append, there, Option.bind_some, found]

lemma ReferenceFree.child (free : v.ReferenceFree) {n : ℕ} (there : v.child? n = some u) :
    u.ReferenceFree := by
  have at_n : v.at? [n] = some u := by
    rw [at?_cons, there, Option.bind_some, at?_nil]
  exact free.at at_n

lemma referenceFree_of_child (shape : v.reference? = none)
    (inside : ∀ n u, v.child? n = some u → u.ReferenceFree) : v.ReferenceFree := by
  intro position path found
  cases position with
  | nil =>
    cases found
    cases shape
  | cons n below =>
    obtain ⟨child, there, found⟩ := Option.bind_eq_some_iff.mp found
    exact inside n child there below path found

/-- Inside of a reference node there is nothing but its null. -/
lemma eq_null_of_at?_reference {n : ℕ} (there : (reference path).at? (n :: below) = some u) :
    u = .null := by
  cases n with
  | zero =>
    have at_null : Value.null.at? below = some u := there
    cases below with
    | nil =>
      cases at_null
      rfl
    | cons m below => cases at_null
  | succ n => cases there

/-! ## Children -/

/-- The items of a sequence or the values of a mapping, in order. -/
def children : Value → List Value
  | .array items => items
  | .object entries => entries.map Prod.snd
  | _ => []

lemma child?_eq_getElem? (v : Value) (n : ℕ) : v.child? n = v.children[n]? := by
  cases v with
  | array items => rfl
  | object entries => exact List.getElem?_map.symm
  | _ => rfl

lemma ReferenceFree.of_mem_children (free : v.ReferenceFree) (inside : u ∈ v.children) :
    u.ReferenceFree := by
  obtain ⟨n, there⟩ := List.mem_iff_getElem?.mp inside
  exact free.child ((child?_eq_getElem? v n).trans there)

lemma referenceFree_of_children (shape : v.reference? = none)
    (inside : ∀ child ∈ v.children, child.ReferenceFree) : v.ReferenceFree := by
  refine referenceFree_of_child shape fun n u there => inside u ?_
  exact List.mem_of_getElem? ((child?_eq_getElem? v n).symm.trans there)

lemma referenceFree_of_no_children (shape : v.reference? = none) (empty : v.children = []) :
    v.ReferenceFree :=
  referenceFree_of_children shape (by simp [empty])

lemma sizeOf_lt_of_mem_children {child : Value} (inside : child ∈ v.children) :
    sizeOf child < sizeOf v := by
  cases v with
  | array items =>
    have smaller : sizeOf child < sizeOf items := List.sizeOf_lt_of_mem inside
    rw [array.sizeOf_spec]
    omega
  | object entries =>
    obtain ⟨⟨key, item⟩, mem, rfl⟩ := List.mem_map.mp inside
    have smaller : sizeOf (key, item) < sizeOf entries := List.sizeOf_lt_of_mem mem
    rw [Prod.mk.sizeOf_spec] at smaller
    rw [object.sizeOf_spec]
    show sizeOf item < _
    omega
  | _ => cases inside

/-- What holds of a value as soon as it holds of everything directly inside holds of all values. -/
theorem induction_on_children {motive : Value → Prop}
    (step : ∀ v, (∀ child ∈ v.children, motive child) → motive v) (v : Value) : motive v :=
  step v fun child inside =>
    have _ := sizeOf_lt_of_mem_children inside
    induction_on_children step child
termination_by v

end Conformance.Value
