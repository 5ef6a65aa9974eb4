import Mathlib.Data.List.Nodup
import Mathlib.Data.List.Perm.Subperm
import Conformance.Fixture.Host
import Conformance.Proofs.Scope.Unwinding

/-!
# Chains of functions in fixtures

A function of a fixture that is called without arguments hands out a function only if it always
does, and then it does nothing else.  So a chain of such calls leaves the world as it is, and a
function that occurs in it twice occurs in it without end.  A chain that ends therefore has all its
functions but the last among those that have been made, and each of them once: the number of these
functions and one more, which is the bound of a fixture, is a bound.

## Parts

* `Fixture.eq_of_perform` is one call, and `Fixture.nodup_of_unwinds` a chain.
* `Fixture.boundsThunks_load` is the result for the host of a setup.
-/

namespace Conformance.Fixture

variable {packages : List (Package Stage)} {w w₁ : World Stage} {f g : FunctionRef} {id : ℕ}

/-! ## One call -/

lemma ne_function_of_addToTotal {self : InstanceRef} {args : List Value} :
    addToTotal self args w ≠ .ok (.function g) w₁ := by
  intro answers
  simp only [addToTotal, bind_of_ok (get_apply w)] at answers
  split at answers
  · cases answers
  · cases answers

/-- Called without arguments, only a constant hands out a function. -/
lemma eq_of_perform (answers : perform packages [] id w = .ok (.function g) w₁) :
    w₁ = w ∧ id < w.state.bodies.size := by
  rw [perform, bind_of_ok (get_apply w)] at answers
  cases body : w.state.bodies[id]? with
  | none =>
    rw [body] at answers
    cases answers
  | some row =>
    have made : id < w.state.bodies.size := (Array.getElem?_eq_some_iff.mp body).1
    rw [body] at answers
    cases row with
    | const value =>
      cases answers
      exact ⟨rfl, made⟩
    | add self => exact absurd answers ne_function_of_addToTotal
    | _ => cases answers

variable {h : Host Stage} (calls : ∀ id args, h.call id args = perform h.packages args id)
include calls

lemma eq_of_invoke (answers : h.invoke f [] w = .ok (.function g) w₁) :
    w₁ = w ∧ ∃ id < w.state.bodies.size, f.code = .host id := by
  obtain ⟨name, code⟩ := f
  cases code with
  | importer scope => cases answers
  | host id =>
    have performed : h.call id [] w = .ok (.function g) w₁ := answers
    rw [calls] at performed
    obtain ⟨same, made⟩ := eq_of_perform performed
    exact ⟨same, id, made, rfl⟩

/-! ## Chains -/

variable {v : Value} {fs : List FunctionRef} {ending : EStateM.Result Error (World Stage) Value}

/-- A call behind which a chain goes on has handed out a function. -/
lemma eq_of_goes_on (called : h.invoke f [] w = .ok v w₁) (later : h.Unwinds v w₁ fs ending)
    (goesOn : fs ≠ []) : w₁ = w ∧ ∃ id < w.state.bodies.size, f.code = .host id := by
  cases later with
  | owner _ _ => exact absurd rfl goesOn
  | fails _ => exact eq_of_invoke calls called
  | calls _ _ => exact eq_of_invoke calls called

/-- The rest of a chain is the chain of a function in it, in the world in which all of it has
started. -/
lemma exists_unwinds_of_mem (unwound : h.Unwinds v w fs ending) (mem : g ∈ fs) :
    ∃ gs ending', h.Unwinds (.function g) w gs ending' ∧ gs.length ≤ fs.length := by
  induction unwound with
  | owner w data => cases mem
  | fails called =>
    obtain rfl := List.mem_singleton.mp mem
    exact ⟨_, _, .fails called, Nat.le_refl _⟩
  | calls called later ih =>
    rcases List.mem_cons.mp mem with rfl | mem
    · exact ⟨_, _, .calls called later, Nat.le_refl _⟩
    · obtain ⟨rfl, -⟩ := eq_of_goes_on calls called later (List.ne_nil_of_mem mem)
      obtain ⟨gs, ending', rest, le⟩ := ih mem
      exact ⟨gs, ending', rest, Nat.le_succ_of_le le⟩

/-- A chain that ends does not come back to any of its functions. -/
lemma nodup_of_unwinds (unwound : h.Unwinds v w fs ending) :
    (fs.map FunctionRef.code).Nodup := by
  induction unwound with
  | owner w data => exact List.nodup_nil
  | fails called => exact List.nodup_singleton _
  | @calls f v w w₁ fs ending called later ih =>
    rw [List.map_cons, List.nodup_cons]
    -- A function that is met again has a chain as long as the whole, inside of its own rest.
    refine ⟨fun again => ?_, ih⟩
    obtain ⟨g, mem, same⟩ := List.mem_map.mp again
    obtain ⟨rfl, -⟩ := eq_of_goes_on calls called later (List.ne_nil_of_mem mem)
    obtain ⟨gs, ending', rest, le⟩ := exists_unwinds_of_mem calls later mem
    have length_eq := Host.Unwinds.length_eq same.symm (.calls called later) rest
    rw [List.length_cons] at length_eq
    omega

/-- All functions of a chain but the last have been made in its world. -/
lemma made_of_unwinds (unwound : h.Unwinds v w fs ending) {code : Code}
    (mem : code ∈ (fs.map FunctionRef.code).dropLast) :
    code ∈ (List.range w.state.bodies.size).map Code.host := by
  induction unwound with
  | owner w data => cases mem
  | fails called => cases mem
  | @calls f v w w₁ fs ending called later ih =>
    cases fs with
    | nil => cases mem
    | cons g fs =>
      obtain ⟨rfl, id, made, code_eq⟩ := eq_of_goes_on calls called later (List.cons_ne_nil g fs)
      rcases List.mem_cons.mp mem with rfl | mem
      · rw [code_eq]
        exact List.mem_map_of_mem (List.mem_range.mpr made)
      · exact ih mem

lemma length_le_of_unwinds (unwound : h.Unwinds v w fs ending) :
    fs.length ≤ w.state.bodies.size + 1 := by
  have among : (fs.map FunctionRef.code).dropLast ⊆
      (List.range w.state.bodies.size).map Code.host :=
    fun code => made_of_unwinds calls unwound
  have once : (fs.map FunctionRef.code).dropLast.Nodup :=
    (nodup_of_unwinds calls unwound).sublist (List.dropLast_sublist _)
  have le := (once.subperm among).length_le
  rw [List.length_dropLast, List.length_map, List.length_map, List.length_range] at le
  omega

omit calls in
/-- **The bound of a fixture.**  Whatever a setup holds and whatever has happened in its world, its
host bounds the chains of functions. -/
theorem boundsThunks_load (setup : Setup) (w : World Stage) :
    (setup.load.run w).1.BoundsThunks :=
  fun _ _ _ _ unwound => length_le_of_unwinds (fun _ _ => rfl) unwound

end Conformance.Fixture
