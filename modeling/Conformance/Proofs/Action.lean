import Mathlib.Tactic.Common
import Conformance.Run.Session

/-!
# Actions, one step at a time

An action of the host or of a run is a function from a state to an answer or an error, each with
the state that it leaves.  The lemmas here take such an action apart at its first step.  They are
stated for every state, so that they serve `HostM` and `RunM` alike, and they are the only place
where the sequencing of actions is opened.

## Parts

* `bind_apply`, `pure_apply` and `throw_apply` run an action on a state.
* `bind_eq_ok_iff` and `bind_eq_error_iff` say where the answer or the error of two actions in a
  row comes from.
* `except_bind_eq_ok_iff` is the first of these for answers without a state, and
  `except_mapM_eq_ok_iff` is about such answers for a list.
* `HostM.mapError_eq_error_iff` and the lemmas on `RunM` do the same for the actions that lift.
-/

namespace Conformance

section Sequencing

variable {ε τ α β : Type}

lemma bind_apply (x : EStateM ε τ α) (f : α → EStateM ε τ β) (s : τ) :
    (x >>= f) s = match x s with
      | .ok a s₁ => f a s₁
      | .error e s₁ => .error e s₁ := rfl

lemma bind_of_ok {x : EStateM ε τ α} {f : α → EStateM ε τ β} {s s₁ : τ} {a : α}
    (hx : x s = .ok a s₁) : (x >>= f) s = f a s₁ := by
  rw [bind_apply, hx]

lemma bind_of_error {x : EStateM ε τ α} {f : α → EStateM ε τ β} {s s₁ : τ} {e : ε}
    (hx : x s = .error e s₁) : (x >>= f) s = .error e s₁ := by
  rw [bind_apply, hx]

@[simp] lemma pure_apply (a : α) (s : τ) : (pure a : EStateM ε τ α) s = .ok a s := rfl

@[simp] lemma throw_apply (e : ε) (s : τ) : (throw e : EStateM ε τ α) s = .error e s := rfl

@[simp] lemma get_apply (s : τ) : (get : EStateM ε τ τ) s = .ok s s := rfl

lemma bind_eq_ok_iff {x : EStateM ε τ α} {f : α → EStateM ε τ β} {s s₂ : τ} {b : β} :
    (x >>= f) s = .ok b s₂ ↔ ∃ a s₁, x s = .ok a s₁ ∧ f a s₁ = .ok b s₂ := by
  rw [bind_apply]
  cases hx : x s with
  | ok a s₁ => simp
  | error e s₁ => simp

lemma bind_eq_error_iff {x : EStateM ε τ α} {f : α → EStateM ε τ β} {s s₂ : τ} {e : ε} :
    (x >>= f) s = .error e s₂ ↔
      x s = .error e s₂ ∨ ∃ a s₁, x s = .ok a s₁ ∧ f a s₁ = .error e s₂ := by
  rw [bind_apply]
  cases hx : x s with
  | ok a s₁ => simp
  | error e₁ s₁ => simp

lemma except_bind_eq_ok_iff {x : Except ε α} {f : α → Except ε β} {b : β} :
    (x >>= f) = .ok b ↔ ∃ a, x = .ok a ∧ f a = .ok b := by
  cases x with
  | error e => simp [bind, Except.bind]
  | ok a => simp [bind, Except.bind]

/-- A list is answered one element after the other. -/
lemma except_mapM_eq_ok_iff {f : α → Except ε β} {as : List α} {bs : List β} :
    as.mapM f = .ok bs ↔ List.Forall₂ (fun a b => f a = .ok b) as bs := by
  constructor
  · intro ok
    induction as generalizing bs with
    | nil =>
      cases ok
      exact .nil
    | cons a as ih =>
      rw [List.mapM_cons] at ok
      obtain ⟨b, first, ok⟩ := except_bind_eq_ok_iff.mp ok
      obtain ⟨rest, others, ok⟩ := except_bind_eq_ok_iff.mp ok
      cases ok
      exact .cons first (ih others)
  · intro each
    induction each with
    | nil => rfl
    | cons first _ others =>
      rw [List.mapM_cons]
      exact except_bind_eq_ok_iff.mpr ⟨_, first, except_bind_eq_ok_iff.mpr ⟨_, others, rfl⟩⟩

end Sequencing

/-! ## Actions on the world -/

namespace HostM

variable {σ α : Type}

@[simp] lemma ofExcept_ok (a : α) (w : World σ) : ofExcept (.ok a) w = .ok a w := rfl

@[simp] lemma ofExcept_error (e : Error) (w : World σ) :
    (ofExcept (.error e) : HostM σ α) w = .error e w := rfl

@[simp] lemma ofState_apply (action : StateM (World σ) α) (w : World σ) :
    ofState action w = .ok (action.run w).1 (action.run w).2 := rfl

lemma mapError_eq_error_iff {f : Error → Error} {action : HostM σ α} {e : Error}
    {w w' : World σ} :
    mapError f action w = .error e w' ↔ ∃ e₀, action w = .error e₀ w' ∧ e = f e₀ := by
  unfold mapError
  cases action w with
  | ok a w₁ => simp
  | error e₀ w₁ =>
    simp only [EStateM.Result.error.injEq]
    constructor
    · rintro ⟨rfl, rfl⟩
      exact ⟨e₀, ⟨rfl, rfl⟩, rfl⟩
    · rintro ⟨e₁, ⟨rfl, rfl⟩, rfl⟩
      exact ⟨rfl, rfl⟩

end HostM

/-! ## Actions on a session -/

namespace RunM

variable {σ ρ α : Type}

@[simp] lemma scope_apply (s : Session σ ρ) : (scope : RunM σ ρ Scope) s = .ok s.scope s := rfl

@[simp] lemma setScope_apply (scope : Scope) (s : Session σ ρ) :
    (setScope scope : RunM σ ρ Unit) s = .ok () { s with scope := scope } := rfl

lemma ofHost_of_ok {action : HostM σ α} {s : Session σ ρ} {a : α} {w : World σ}
    (answers : action s.world = .ok a w) :
    (ofHost action : RunM σ ρ α) s = .ok a { s with world := w } := by
  rw [ofHost, answers]

lemma ofHost_of_error {action : HostM σ α} {s : Session σ ρ} {e : Error} {w : World σ}
    (fails : action s.world = .error e w) :
    (ofHost action : RunM σ ρ α) s = .error e { s with world := w } := by
  rw [ofHost, fails]

lemma ofHost_apply (action : HostM σ α) (s : Session σ ρ) :
    (ofHost action : RunM σ ρ α) s = match action s.world with
      | .ok a w => .ok a { s with world := w }
      | .error e w => .error e { s with world := w } := rfl

lemma report_apply (reporter : Reporter ρ) (event : Event) (s : Session σ ρ) :
    (report reporter event : RunM σ ρ Unit) s = match reporter.report event s.taken with
      | .ok _ taken => .ok () { s with taken := taken }
      | .error reason taken => .error (.io reason) { s with taken := taken } := rfl

/-- A reporter can only refuse, so what it ends a run with is never an error of the code under
test. -/
lemma not_isRaised_of_report {reporter : Reporter ρ} {event : Event} {s s' : Session σ ρ}
    {e : Error} (h : report reporter event s = .error e s') : e.isRaised = false := by
  rw [report_apply] at h
  cases hr : reporter.report event s.taken with
  | ok _ taken => rw [hr] at h; cases h
  | error reason taken => rw [hr] at h; cases h; rfl

end RunM

end Conformance
