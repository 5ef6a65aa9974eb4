import Conformance.CommandLine.Program
import Conformance.Proofs.Scope.Walk

/-!
# Failed assignments

An assignment that fails leaves the scope as it was, since the scope is replaced only at the end.
What lies behind shared classes and instances is changed in place, though, and is not changed back.
The one way for such a change to be followed by a failure is the way back up: an instance handed out
data of one of its members, the write landed in a class or another instance below that data, and
then the first instance refuses to take the data back.  The data is the same as before, so there
was nothing to take back.

## Parts

* `World.Same` compares worlds by what their classes and instances hold.
* `Host.RefusalsKeep` and `Host.ReadsKeep` are what instances do about failed writes and reads.
* `Host.LateRefusal` is the failure on the way back up.
* `Host.store_error_cases` says where an assignment below an owner fails.
* `failed_assign_changes_iff` is the result for assignments in a session.
-/

namespace Conformance

variable {σ φ ρ : Type}

/-! ## Comparing worlds -/

/-- The classes of two worlds have the same members and, by a view of the host's own state, their
instances have the same fields. -/
def World.Same (fields : σ → φ) (w w' : World σ) : Prop :=
  w'.members = w.members ∧ fields w'.state = fields w.state

namespace World.Same

variable {fields : σ → φ} {w w₁ w' : World σ}

@[refl] lemma refl (w : World σ) : w.Same fields w := ⟨rfl, rfl⟩

lemma symm (same : w.Same fields w') : w'.Same fields w :=
  ⟨same.1.symm, same.2.symm⟩

lemma trans (first : w.Same fields w₁) (second : w₁.Same fields w') : w.Same fields w' :=
  ⟨second.1.trans first.1, second.2.trans first.2⟩

end World.Same

/-- The world that an action leaves, whether it answers or fails. -/
def HostM.leaves {α : Type} (action : HostM σ α) (w : World σ) : World σ :=
  match action w with
  | .ok _ w => w
  | .error _ w => w

lemma HostM.leaves_of_ok {α : Type} {action : HostM σ α} {w w' : World σ} {a : α}
    (answers : action w = .ok a w') : action.leaves w = w' := by
  rw [leaves, answers]

lemma HostM.leaves_of_error {α : Type} {action : HostM σ α} {w w' : World σ} {e : Error}
    (fails : action w = .error e w') : action.leaves w = w' := by
  rw [leaves, fails]

lemma HostM.leaves_bind {α β : Type} (action : HostM σ α) (next : α → HostM σ β) (w : World σ) :
    leaves (action >>= next) w = match action w with
      | .ok a w₁ => leaves (next a) w₁
      | .error _ w₁ => w₁ := by
  rw [leaves, bind_apply]
  cases action w <;> rfl

namespace Host

section Conditions

variable (h : Host σ) (fields : σ → φ)

/-- An instance that refuses a write stores nothing. -/
def RefusalsKeep : Prop :=
  ∀ i name value (w : World σ) e w', h.setMember i name value w = .error e w' → w.Same fields w'

/-- Looking up a member of an instance stores nothing. -/
def ReadsKeep : Prop :=
  ∀ i name (w : World σ), w.Same fields ((h.member i name).run w).2

end Conditions

variable {h : Host σ} {fields : σ → φ} {owner child value : Value} {segment : String}
  {rest : List String} {w w' w₁ before after : World σ} {e : Error}

/-! ## The way down -/

lemma same_of_readMember (reads : h.ReadsKeep fields) (i : InstanceRef) (segment : String)
    (w : World σ) : w.Same fields ((h.readMember (.inst i) segment).leaves w) := by
  have kept := reads i segment w
  rw [readMember, HostM.leaves_bind, HostM.ofState_apply]
  dsimp only
  cases ((h.member i segment).run w).1 with
  | some value => exact kept
  | none => exact kept

lemma same_of_place (reads : h.ReadsKeep fields) (owner : Value) (segment : String)
    (w : World σ) : w.Same fields ((h.place owner segment).leaves w) := by
  cases owner with
  | object entries =>
    rw [place]
    cases Assoc.get? entries segment <;> exact .refl w
  | array items =>
    rw [place, HostM.leaves_bind]
    cases sequenceIndex segment items.length with
    | error e => exact .refl w
    | ok position =>
      rw [HostM.ofExcept_ok]
      dsimp only
      cases position.bind (items[·]?) <;> exact .refl w
  | cls c =>
    show w.Same fields ((h.readMember (.cls c) segment).leaves w)
    rw [readMember, HostM.leaves_bind, get_apply]
    dsimp only
    cases (w.membersOf c).get? segment <;> exact .refl w
  | inst i => exact same_of_readMember reads i segment w
  | _ => exact .refl w

lemma same_of_place_eq_ok (reads : h.ReadsKeep fields)
    (read : h.place owner segment w = .ok child w₁) : w.Same fields w₁ := by
  have same := same_of_place reads owner segment w
  rwa [HostM.leaves_of_ok read] at same

lemma same_of_walk (reads : h.ReadsKeep fields) (owner : Value) (segments : List String)
    (w : World σ) : w.Same fields ((h.walk owner segments).leaves w) := by
  induction segments generalizing owner w with
  | nil => exact .refl w
  | cons segment rest ih =>
    have first := same_of_place reads owner segment w
    rw [HostM.leaves] at first
    rw [walk_cons, HostM.leaves_bind]
    cases read : h.place owner segment w with
    | error e w₁ =>
      rw [read] at first
      exact first
    | ok child w₁ =>
      rw [read] at first
      exact first.trans (ih child w₁)

lemma same_of_walk_eq_ok (reads : h.ReadsKeep fields) {segments : List String}
    (reached : h.walk owner segments w = .ok child w₁) : w.Same fields w₁ := by
  have same := same_of_walk reads owner segments w
  rwa [HostM.leaves_of_ok reached] at same

/-! ## The way back up -/

/-- Below a member of an instance an assignment has been made, from one world to another, and then
the instance refuses to take back the data of that member.  The list is the path below the owner,
and the data is given with the path below it. -/
inductive LateRefusal (h : Host σ) (value owner : Value) (w : World σ) (e : Error) (w' : World σ) :
    List String → (data : Value) → (below : List String) → (before after : World σ) → Prop
  | intro (above : List String) (i : InstanceRef) (member segment : String) (below : List String)
      {data data' : Value} {w₁ before after : World σ}
      (reached : h.walk owner above w = .ok (.inst i) w₁)
      (read : h.place (.inst i) member w₁ = .ok data before)
      (stored : h.store value segment below data before = .ok data' after)
      (isData : data'.isHostObject = false)
      (refused : h.setMember i member data' after = .error e w') :
      LateRefusal h value owner w e w' (above ++ member :: segment :: below) data
        (segment :: below) before after

/-- A refusal further down is one of the whole path. -/
lemma LateRefusal.below {path below : List String} {data : Value}
    (read : h.place owner segment w = .ok child w₁)
    (late : h.LateRefusal value child w₁ e w' path data below before after) :
    h.LateRefusal value owner w e w' (segment :: path) data below before after := by
  obtain ⟨above, i, member, segment', rest, reached, place, stored, isData, refused⟩ := late
  refine LateRefusal.intro (segment :: above) i member segment' rest ?_ place stored isData refused
  rw [walk_cons, bind_of_ok read]
  exact reached

/-- **Where an assignment fails.**  On a walk that meets no function, an assignment below an owner
fails on its way down, at the binding of the last segment, or on its way back up. -/
theorem store_error_cases
    (free : h.Owners (·.isFunction = false) owner (segment :: rest) w)
    (fails : h.store value segment rest owner w = .error e w') :
    h.walk owner (segment :: rest).dropLast w = .error e w' ∨
      (∃ last w₁, h.walk owner (segment :: rest).dropLast w = .ok last w₁ ∧
        h.setProperty last ((segment :: rest).getLast (List.cons_ne_nil _ _)) value w₁ =
          .error e w') ∨
      ∃ data below before after,
        h.LateRefusal value owner w e w' (segment :: rest) data below before after := by
  induction rest generalizing owner segment w with
  | nil =>
    rw [store_single free.1] at fails
    exact Or.inr (Or.inl ⟨owner, w, rfl, fails⟩)
  | cons next rest ih =>
    rw [store_below free.1] at fails
    rw [List.dropLast_cons_cons, walk_cons, List.getLast_cons_cons]
    rcases bind_eq_error_iff.mp fails with stuck | ⟨child, w₁, read, fails⟩
    · exact Or.inl (bind_of_error stuck)
    rw [bind_of_ok read]
    rcases bind_eq_error_iff.mp fails with stuck | ⟨child', w₂, stored, fails⟩
    · rcases ih (free.2 child w₁ read) stuck with down | bound | ⟨data, below, before, after, late⟩
      · exact Or.inl down
      · exact Or.inr (Or.inl bound)
      · exact Or.inr (Or.inr ⟨data, below, before, after, late.below read⟩)
    · obtain ⟨isData, i, rfl, refused⟩ := refused_of_putBack read fails
      exact Or.inr (Or.inr ⟨child, next :: rest, w₁, w₂,
        LateRefusal.intro [] i segment next rest rfl read stored isData refused⟩)

/-- An assignment whose owners are all data changes nothing but what it answers. -/
lemma eq_of_store_of_data {owner' : Value}
    (data : h.Owners (·.isHostObject = false) owner (segment :: rest) w)
    (stored : h.store value segment rest owner w = .ok owner' w') : w' = w := by
  have called := Value.isFunction_eq_false_of_isHostObject data.1
  induction rest generalizing owner owner' segment w w' with
  | nil =>
    rw [store_single called] at stored
    exact eq_of_setProperty_of_data data.1 stored
  | cons next rest ih =>
    rw [store_below called] at stored
    obtain ⟨child, w₁, read, stored⟩ := bind_eq_ok_iff.mp stored
    obtain ⟨child', w₂, below, put⟩ := bind_eq_ok_iff.mp stored
    have owners := data.2 child w₁ read
    have kept := ih owners below (Value.isFunction_eq_false_of_isHostObject owners.1)
    rw [putBack_of_not_shared (Value.isShared_eq_false_of_isHostObject data.1)] at put
    rw [eq_of_setProperty_of_data data.1 put, kept, eq_of_place_of_data data.1 read]

/-- An assignment that meets a class or an instance answers its owner as it was. -/
lemma eq_of_store_of_not_data {owner' : Value}
    (free : h.Owners (·.isFunction = false) owner (segment :: rest) w)
    (shared : ¬ h.Owners (·.isHostObject = false) owner (segment :: rest) w)
    (stored : h.store value segment rest owner w = .ok owner' w') : owner' = owner := by
  induction rest generalizing owner owner' segment w w' with
  | nil =>
    cases host : owner.isHostObject with
    | true => exact eq_of_store_of_host free.1 host stored
    | false => exact absurd ⟨host, fun _ _ _ => trivial⟩ shared
  | cons next rest ih =>
    cases host : owner.isHostObject with
    | true => exact eq_of_store_of_host free.1 host stored
    | false =>
      rw [store_below free.1] at stored
      obtain ⟨child, w₁, read, stored⟩ := bind_eq_ok_iff.mp stored
      obtain ⟨child', w₂, below, put⟩ := bind_eq_ok_iff.mp stored
      have shared_below : ¬ h.Owners (·.isHostObject = false) child (next :: rest) w₁ := by
        intro owners
        refine shared ⟨host, fun other w₃ again => ?_⟩
        rw [read] at again
        cases again
        exact owners
      rw [ih (free.2 child w₁ read) shared_below below,
        putBack_of_not_shared (Value.isShared_eq_false_of_isHostObject host),
        setProperty_of_place host read] at put
      cases put
      rfl

namespace LateRefusal

variable {path below : List String} {data : Value}

/-- Before the write below the data there are only reads. -/
lemma same_before (late : h.LateRefusal value owner w e w' path data below before after)
    (reads : h.ReadsKeep fields) : w.Same fields before := by
  obtain ⟨_, _, _, _, _, reached, read, -, -, -⟩ := late
  exact (same_of_walk_eq_ok reads reached).trans (same_of_place_eq_ok reads read)

/-- After the write below the data there is only the refusal. -/
lemma same_after (late : h.LateRefusal value owner w e w' path data below before after)
    (refusals : h.RefusalsKeep fields) : after.Same fields w' := by
  obtain ⟨_, _, _, _, _, -, -, -, -, refused⟩ := late
  exact refusals _ _ _ _ _ _ refused

/-- A late refusal leaves a change behind only if the path meets a class or an instance below the
data.  The data that is refused is then what was handed out. -/
lemma refuses_unchanged
    (late : h.LateRefusal value owner w e w' path data below before after)
    (free : h.Owners (·.isFunction = false) owner path w) (changed : ¬ before.Same fields after) :
    ¬ h.Owners (·.isHostObject = false) data below before ∧
      ∃ i member, h.setMember i member data after = .error e w' := by
  obtain ⟨_, i, member, segment, rest, reached, read, stored, -, refused⟩ := late
  have shared : ¬ h.Owners (·.isHostObject = false) data (segment :: rest) before := by
    intro owners
    rw [eq_of_store_of_data owners stored] at changed
    exact changed (.refl _)
  have free_below := (free.below reached).2 data before read
  rw [eq_of_store_of_not_data free_below shared stored] at refused
  exact ⟨shared, i, member, refused⟩

end LateRefusal

end Host

/-! ## Assignments in a session -/

namespace Scope

/-- The world that the way down to the last owner leaves. -/
def walked (s : Scope) (h : Host σ) (text : String) (w : World σ) : World σ :=
  match s.get? (Path.ofString text).first with
  | some owner => (h.walk owner (Path.ofString text).rest.dropLast).leaves w
  | none => w

/-- The assignment to a path fails on its way back up. -/
def LateRefusal (s : Scope) (h : Host σ) (text : String) (value : Value) (w w' : World σ)
    (data : Value) (below : List String) (before after : World σ) : Prop :=
  ∃ owner e, s.get? (Path.ofString text).first = some owner ∧
    h.LateRefusal value owner w e w' (Path.ofString text).rest data below before after

variable {s : Scope} {h : Host σ} {fields : σ → φ} {text : String} {value : Value}
  {w w' : World σ} {e : Error}

/-- A failed assignment leaves the world as the way down left it, unless it failed on the way back
up. -/
lemma same_of_assign_eq_error (refusals : h.RefusalsKeep fields)
    (free : s.Owners h (·.isFunction = false) text w)
    (fails : s.assign h text value w = .error e w') :
    (s.walked h text w).Same fields w' ∨
      ∃ data below before after, s.LateRefusal h text value w w' data below before after ∧
        after.Same fields w' := by
  obtain ⟨segment, rest, path_eq, ⟨missing, rfl, -⟩ | ⟨owner, e₀, found, fails, -⟩⟩ :=
    assign_eq_error_iff.mp fails
  · rw [walked, missing]
    exact Or.inl (.refl _)
  have owners := free owner found
  rw [walked, found]
  dsimp only
  rw [path_eq] at owners ⊢
  rcases Host.store_error_cases owners fails with down | ⟨last, w₁, reached, bound⟩ | ⟨data, below,
    before, after, late⟩
  · rw [HostM.leaves_of_error down]
    exact Or.inl (.refl _)
  · rw [HostM.leaves_of_ok reached]
    rcases Host.eq_or_refused_of_setProperty bound with rfl | ⟨i, rfl, refused⟩
    · exact Or.inl (.refl _)
    · exact Or.inl (refusals _ _ _ _ _ _ refused)
  · refine Or.inr ⟨data, below, before, after, ⟨owner, e₀, found, ?_⟩, late.same_after refusals⟩
    rwa [path_eq]

lemma same_of_walked (reads : h.ReadsKeep fields) : w.Same fields (s.walked h text w) := by
  rw [walked]
  cases s.get? (Path.ofString text).first with
  | none => exact .refl w
  | some owner => exact Host.same_of_walk reads owner _ w

end Scope

namespace RunM

/-- Assign in the scope of a session. -/
def assign (h : Host σ) (text : String) (value : Value) : RunM σ ρ Unit := do
  let s ← scope
  setScope (← ofHost (s.assign h text value))

lemma assign_eq_error_iff {h : Host σ} {text : String} {value : Value} {e : Error}
    {session session' : Session σ ρ} :
    assign h text value session = .error e session' ↔
      ∃ w, session.scope.assign h text value session.world = .error e w ∧
        session' = { session with world := w } := by
  rw [assign, bind_of_ok (scope_apply session), bind_apply, ofHost_apply]
  cases session.scope.assign h text value session.world with
  | ok s w => simp
  | error e₁ w => simp [eq_comm]

end RunM

/-- **What a failed assignment leaves behind.**  Let no function be called on the walk, and let
refused writes store nothing.  A failed assignment leaves the scope and the report alone.  It leaves
the classes and instances as the way down left them, unless it failed on its way back up.  If
looking up members stores nothing either, the classes and instances are changed exactly if the
assignment was made below data of an instance, changed something there, and the instance then
refused to take back the very data that it had handed out. -/
theorem failed_assign_changes_iff (h : Host σ) (fields : σ → φ) (refusals : h.RefusalsKeep fields)
    (text : String) (value : Value) (session session' : Session σ ρ) (e : Error)
    (free : session.scope.Owners h (·.isFunction = false) text session.world)
    (fails : RunM.assign h text value session = .error e session') :
    session'.scope = session.scope ∧ session'.taken = session.taken ∧
    ((session.scope.walked h text session.world).Same fields session'.world ∨
      ∃ data below before after, session.scope.LateRefusal h text value session.world
        session'.world data below before after ∧ after.Same fields session'.world) ∧
    (h.ReadsKeep fields →
      (¬ session.world.Same fields session'.world ↔
        ∃ data below before after, session.scope.LateRefusal h text value session.world
          session'.world data below before after ∧ ¬ before.Same fields after ∧
          ¬ h.Owners (·.isHostObject = false) data below before ∧
          ∃ i member e₀, h.setMember i member data after = .error e₀ session'.world)) := by
  obtain ⟨w, assigned, rfl⟩ := RunM.assign_eq_error_iff.mp fails
  have cases_of := Scope.same_of_assign_eq_error refusals free assigned
  refine ⟨rfl, rfl, cases_of, fun reads => ⟨fun changed => ?_, ?_⟩⟩
  · rcases cases_of with same | ⟨data, below, before, after, ⟨owner, e₀, found, late⟩, same⟩
    · exact absurd ((Scope.same_of_walked reads).trans same) changed
    · have landed : ¬ before.Same fields after := fun still =>
        changed (((late.same_before reads).trans still).trans same)
      obtain ⟨shared, i, member, refused⟩ := late.refuses_unchanged (free owner found) landed
      exact ⟨data, below, before, after, ⟨owner, e₀, found, late⟩, landed, shared, i, member, e₀,
        refused⟩
  · rintro ⟨data, below, before, after, ⟨owner, e₀, found, late⟩, landed, -⟩ same
    exact landed (((late.same_before reads).symm.trans same).trans (late.same_after refusals).symm)

/-! ### An instance that takes no writes

Its member `data` is a mapping, and a class stands in that mapping. -/

/-- A host whose instances hand out a mapping with a class in it and refuse every write. -/
def holderHost : Host Unit :=
  { emptyHost with
    member := fun _ name =>
      pure (if name = "data" then some (.object [("c", .cls ⟨"C", 0⟩)]) else none)
    setMember := fun i name _ => throw (.cannotSet name (i.className ++ " instance")) }

/-- A session with one of these instances, in which the class has the given number as a member. -/
def holderSession (m : Int64) : Session Unit Unit :=
  ⟨⟨[("i", .inst ⟨"I", 0⟩)]⟩, ⟨[(0, [("m", .int m)])], ()⟩, ()⟩

lemma holderHost_refusalsKeep : holderHost.RefusalsKeep (id : Unit → Unit) := by
  intro i name value w e w' refused
  cases refused
  exact .refl w

lemma holderSession_free (m : Int64) :
    (holderSession m).scope.Owners holderHost (·.isFunction = false) "i.data.c.m"
      (holderSession m).world := by
  intro owner found
  have is_inst : some (Value.inst ⟨"I", 0⟩) = some owner := found
  cases is_inst
  show Host.Owners holderHost _ _ ["data", "c", "m"] _
  refine ⟨rfl, fun data w₁ read => ?_⟩
  cases read
  refine ⟨rfl, fun c w₁ read => ?_⟩
  cases read
  exact ⟨rfl, fun _ _ _ => trivial⟩

lemma holderSession_assign :
    RunM.assign holderHost "i.data.c.m" (.int 2) (holderSession 1) =
      .error (.assignment "i.data.c.m" "cannot set 'data' on I instance") (holderSession 2) := rfl

lemma holderSession_changed :
    ¬ (holderSession 1).world.Same (id : Unit → Unit) (holderSession 2).world := by
  rintro ⟨members, -⟩
  simp [holderSession] at members

theorem holderSession_refuses_late :
    holderHost.RefusalsKeep (id : Unit → Unit) ∧
    RunM.assign holderHost "i.data.c.m" (.int 2) (holderSession 1) =
      .error (.assignment "i.data.c.m" "cannot set 'data' on I instance") (holderSession 2) ∧
    ∃ data below before after, (holderSession 1).scope.LateRefusal holderHost "i.data.c.m" (.int 2)
      (holderSession 1).world (holderSession 2).world data below before after := by
  refine ⟨holderHost_refusalsKeep, holderSession_assign, ?_⟩
  obtain ⟨-, -, -, changes_iff⟩ :=
    failed_assign_changes_iff holderHost (id : Unit → Unit) holderHost_refusalsKeep "i.data.c.m"
      (.int 2) (holderSession 1) (holderSession 2) _ (holderSession_free 1) holderSession_assign
  obtain ⟨data, below, before, after, late, -⟩ :=
    (changes_iff fun i name w => .refl w).mp holderSession_changed
  exact ⟨data, below, before, after, late⟩

/-- It is not so that a failed assignment changes nothing, even if refused writes store nothing and
no function is called. -/
theorem failed_assign_changes_class :
    ¬ ∀ (h : Host Unit) (text : String) (value : Value) (session session' : Session Unit Unit)
        (e : Error), h.RefusalsKeep (id : Unit → Unit) →
      session.scope.Owners h (·.isFunction = false) text session.world →
      RunM.assign h text value session = .error e session' →
      session.world.Same (id : Unit → Unit) session'.world := by
  intro changes_nothing
  exact holderSession_changed
    (changes_nothing holderHost "i.data.c.m" (.int 2) (holderSession 1) (holderSession 2) _
      holderHost_refusalsKeep (holderSession_free 1) holderSession_assign)

end Conformance
