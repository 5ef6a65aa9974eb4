import Conformance.Proofs.Scope.Agreement
import Conformance.Proofs.Scope.ReadBack

/-!
# Functions in the place of an owner

A segment of a path is read on an owner.  If the owner is a function, it is called without
arguments, and so is what it hands out, as long as that is a function again.  What stands at the end
of such a chain is the owner.  A function that is found when no segment is left stays as it is.

The rules are stated here as relations, with the functions that are called in order and with no
bound on their number.  A walk of the library has a bound, which is the host's own.  If the host is
right about it, the walk goes as the rules say; only a chain of functions that has no end, and on
which the rules have nothing to say, is cut off.

## Parts

* `Host.Unwinds` is the rule for one owner and `Host.Reads` the rule for a walk.
* `Host.BoundsThunks` says that the bound of a host is one.
* `Host.Unwinds.unique` and `Host.Unwinds.length_eq` say that a chain is determined by where it
  starts.
* `Host.properties_of_reads` and `Host.reads_or_too_deep` are the two directions.
* `Host.Reads.append` and `Host.Reads.append_of_error` put walks together.
-/

namespace Conformance

variable {σ : Type}

namespace Host

/-! ## The rules -/

/-- An owner is unwound in a world: the functions that are called, and what stands at their end. -/
inductive Unwinds (h : Host σ) :
    Value → World σ → List FunctionRef → EStateM.Result Error (World σ) Value → Prop
  /-- Anything but a function is the owner itself. -/
  | owner {v : Value} (w : World σ) (data : v.isFunction = false) : Unwinds h v w [] (.ok v w)
  /-- A function that fails ends the chain. -/
  | fails {f : FunctionRef} {w w' : World σ} {e : Error}
      (called : h.invoke f [] w = .error e w') : Unwinds h (.function f) w [f] (.error e w')
  /-- What a function hands out is unwound in its turn. -/
  | calls {f : FunctionRef} {v : Value} {w w₁ : World σ} {fs : List FunctionRef}
      {ending : EStateM.Result Error (World σ) Value} (called : h.invoke f [] w = .ok v w₁)
      (later : Unwinds h v w₁ fs ending) : Unwinds h (.function f) w (f :: fs) ending

/-- Segments are read from a value in a world: the functions that are called on the way, and how the
walk ends. -/
inductive Reads (h : Host σ) :
    Value → List String → World σ → List FunctionRef → EStateM.Result Error (World σ) Value → Prop
  /-- With no segment left the value is answered as it is, and not called if it is a function. -/
  | done (v : Value) (w : World σ) : Reads h v [] w [] (.ok v w)
  /-- One of the functions fails. -/
  | fails {v : Value} {segment : String} {rest : List String} {w w' : World σ}
      {fs : List FunctionRef} {e : Error} (unwound : h.Unwinds v w fs (.error e w')) :
      Reads h v (segment :: rest) w fs (.error e w')
  /-- The owner does not have the segment. -/
  | missing {v owner : Value} {segment : String} {rest : List String} {w w₁ w' : World σ}
      {fs : List FunctionRef} {e : Error} (unwound : h.Unwinds v w fs (.ok owner w₁))
      (read : h.readMember owner segment w₁ = .error e w') :
      Reads h v (segment :: rest) w fs (.error e w')
  /-- The walk goes on from what the owner has. -/
  | onward {v owner child : Value} {segment : String} {rest : List String} {w w₁ w₂ : World σ}
      {fs more : List FunctionRef} {ending : EStateM.Result Error (World σ) Value}
      (unwound : h.Unwinds v w fs (.ok owner w₁))
      (read : h.readMember owner segment w₁ = .ok child w₂)
      (later : Reads h child rest w₂ more ending) :
      Reads h v (segment :: rest) w (fs ++ more) ending

/-- No chain of functions that ends is longer than the bound of the host. -/
def BoundsThunks (h : Host σ) : Prop :=
  ∀ v w fs ending, h.Unwinds v w fs ending → fs.length ≤ h.thunkDepth w

variable {h : Host σ} {v owner child : Value} {segment : String} {segments rest : List String}
  {w w' w₁ : World σ} {fs more : List FunctionRef}
  {ending : EStateM.Result Error (World σ) Value} {e : Error}

/-! ## One owner -/

lemma force_function (depth : ℕ) (f : FunctionRef) :
    h.force (depth + 1) (.function f) = h.invoke f [] >>= fun v => h.force depth v := rfl

lemma force_of_unwinds (unwound : h.Unwinds v w fs ending) {depth : ℕ}
    (enough : fs.length ≤ depth) : h.force depth v w = ending := by
  induction unwound generalizing depth with
  | owner w data => rw [force_of_data depth data, pure_apply]
  | fails called =>
    obtain ⟨depth, rfl⟩ := Nat.exists_eq_add_of_le' enough
    exact bind_of_error called
  | calls called later ih =>
    obtain ⟨depth, rfl⟩ := Nat.exists_eq_add_of_le' enough
    rw [List.length_cons] at enough
    rw [List.length_cons, ← Nat.add_assoc, force_function, bind_of_ok called]
    exact ih (by omega)

/-- A chain is unwound to its end, or cut off. -/
lemma unwinds_or_too_deep (h : Host σ) (depth : ℕ) (v : Value) (w : World σ) :
    (∃ fs, h.Unwinds v w fs (h.force depth v w)) ∨
      ∃ name w', h.force depth v w = .error (.thunksTooDeep name) w' := by
  induction depth generalizing v w with
  | zero =>
    cases data : v.isFunction with
    | false =>
      rw [force_of_data 0 data, pure_apply]
      exact Or.inl ⟨[], .owner w data⟩
    | true =>
      cases v with
      | function f => exact Or.inr ⟨f.name, w, rfl⟩
      | _ => cases data
  | succ depth ih =>
    cases data : v.isFunction with
    | false =>
      rw [force_of_data _ data, pure_apply]
      exact Or.inl ⟨[], .owner w data⟩
    | true =>
      cases v with
      | function f =>
        rw [force_function]
        cases called : h.invoke f [] w with
        | error e w' =>
          rw [bind_of_error called]
          exact Or.inl ⟨[f], .fails called⟩
        | ok v w₁ =>
          rw [bind_of_ok called]
          rcases ih v w₁ with ⟨fs, unwound⟩ | deep
          · exact Or.inl ⟨f :: fs, .calls called unwound⟩
          · exact Or.inr deep
      | _ => cases data

lemma property_eq_force (owner : Value) (segment : String) (w : World σ) :
    h.property owner segment w =
      (h.force (h.thunkDepth w) owner >>= fun v => h.readMember v segment) w := rfl

/-- A segment is read on what stands at the end of the chain. -/
lemma property_of_unwinds (bounded : h.BoundsThunks) (unwound : h.Unwinds v w fs (.ok owner w₁))
    (segment : String) : h.property v segment w = h.readMember owner segment w₁ := by
  rw [property_eq_force, bind_of_ok (force_of_unwinds unwound (bounded _ _ _ _ unwound))]

lemma property_of_unwinds_error (bounded : h.BoundsThunks)
    (unwound : h.Unwinds v w fs (.error e w')) (segment : String) :
    h.property v segment w = .error e w' := by
  rw [property_eq_force, bind_of_error (force_of_unwinds unwound (bounded _ _ _ _ unwound))]

/-- There is one way to unwind a value in a world. -/
lemma Unwinds.unique {fs' : List FunctionRef} {ending' : EStateM.Result Error (World σ) Value}
    (unwound : h.Unwinds v w fs ending) (unwound' : h.Unwinds v w fs' ending') :
    fs = fs' ∧ ending = ending' := by
  induction unwound generalizing fs' ending' with
  | owner w data =>
    cases unwound' with
    | owner _ _ => exact ⟨rfl, rfl⟩
    | fails _ => cases data
    | calls _ _ => cases data
  | fails called =>
    cases unwound' with
    | owner _ data => cases data
    | fails called' =>
      cases called.symm.trans called'
      exact ⟨rfl, rfl⟩
    | calls called' _ => cases called.symm.trans called'
  | calls called _ ih =>
    cases unwound' with
    | owner _ data => cases data
    | fails called' => cases called.symm.trans called'
    | calls called' later' =>
      cases called.symm.trans called'
      obtain ⟨rfl, rfl⟩ := ih later'
      exact ⟨rfl, rfl⟩

/-- Functions that run the same code have chains of the same length. -/
lemma Unwinds.length_eq {f g : FunctionRef} {fs' : List FunctionRef}
    {ending' : EStateM.Result Error (World σ) Value} (same : f.code = g.code)
    (unwound : h.Unwinds (.function f) w fs ending)
    (unwound' : h.Unwinds (.function g) w fs' ending') : fs.length = fs'.length := by
  have invoke_eq : h.invoke f [] = h.invoke g [] := by
    rw [invoke, invoke, same]
  cases unwound with
  | owner _ data => cases data
  | fails called =>
    rw [invoke_eq] at called
    cases unwound' with
    | owner _ data => cases data
    | fails _ => rfl
    | calls called' _ => cases called.symm.trans called'
  | calls called later =>
    rw [invoke_eq] at called
    cases unwound' with
    | owner _ data => cases data
    | fails called' => cases called.symm.trans called'
    | calls called' later' =>
      cases called.symm.trans called'
      rw [List.length_cons, List.length_cons, (later.unique later').1]

/-! ## A walk -/

/-- A walk that the rules describe is the one that the library takes. -/
theorem properties_of_reads (bounded : h.BoundsThunks) (reads : h.Reads v segments w fs ending) :
    h.properties v segments w = ending := by
  induction reads with
  | done v w => rfl
  | fails unwound =>
    rw [properties_cons, bind_of_error (property_of_unwinds_error bounded unwound _)]
  | missing unwound read =>
    rw [properties_cons, bind_of_error ((property_of_unwinds bounded unwound _).trans read)]
  | onward unwound read later ih =>
    rw [properties_cons, bind_of_ok ((property_of_unwinds bounded unwound _).trans read), ih]

/-- A walk of the library is one that the rules describe, or is cut off. -/
theorem reads_or_too_deep (h : Host σ) (v : Value) (segments : List String) (w : World σ) :
    (∃ fs, h.Reads v segments w fs (h.properties v segments w)) ∨
      ∃ name w', h.properties v segments w = .error (.thunksTooDeep name) w' := by
  induction segments generalizing v w with
  | nil => exact Or.inl ⟨[], .done v w⟩
  | cons segment rest ih =>
    rw [properties_cons, bind_apply, property_eq_force, bind_apply]
    rcases unwinds_or_too_deep h (h.thunkDepth w) v w with ⟨fs, unwound⟩ | ⟨name, w', deep⟩
    · cases forced : h.force (h.thunkDepth w) v w with
      | error e w' =>
        rw [forced] at unwound
        exact Or.inl ⟨fs, .fails unwound⟩
      | ok owner w₁ =>
        rw [forced] at unwound
        cases read : h.readMember owner segment w₁ with
        | error e w' =>
          simp only [read]
          exact Or.inl ⟨fs, .missing unwound read⟩
        | ok child w₂ =>
          simp only [read]
          rcases ih child w₂ with ⟨more, later⟩ | deep
          · exact Or.inl ⟨fs ++ more, .onward unwound read later⟩
          · exact Or.inr deep
    · rw [deep]
      exact Or.inr ⟨name, w', rfl⟩

namespace Reads

/-- A walk goes on where another one has ended, and its calls come behind those of the other. -/
lemma append (first : h.Reads v segments w fs (.ok owner w₁))
    (second : h.Reads owner rest w₁ more ending) :
    h.Reads v (segments ++ rest) w (fs ++ more) ending := by
  generalize reached : EStateM.Result.ok owner w₁ = end₁ at first
  induction first with
  | done v w =>
    cases reached
    exact second
  | fails unwound => cases reached
  | missing unwound read => cases reached
  | onward unwound read later ih =>
    rw [List.append_assoc]
    exact .onward unwound read (ih reached)

/-- A walk that fails goes no further. -/
lemma append_of_error (first : h.Reads v segments w fs (.error e w')) (rest : List String) :
    h.Reads v (segments ++ rest) w fs (.error e w') := by
  generalize failed : EStateM.Result.error e w' = end₁ at first ⊢
  induction first with
  | done v w => cases failed
  | fails unwound => exact .fails unwound
  | missing unwound read => exact .missing unwound read
  | onward unwound read later ih => exact .onward unwound read (ih failed)

end Reads

end Host

end Conformance
