import Conformance.Proofs.Scope.Walk
import Conformance.Proofs.Value.Alike
import Conformance.Scope.Dereference

/-!
# Actions that agree

A function whose outcome depends on nothing but its arguments may still change the world, as one
does that counts its calls, and may hand out functions that it makes anew.  So two of its calls need
not leave the same world or answer the same value.  But they end alike, whatever the worlds are from
which they start, as long as these stand in some relation that the calls keep up: akin worlds, under
the pairing of those functions that both runs have come to hold.

If all functions of a host are like this, then so is everything that a specification can do with a
scope.  Calls, imports, look-ups, dereferencing and assignments agree on alike scopes and values.

## Parts

* `HostM.Agree` says that two actions end alike in akin worlds, and `HostM.Agree.bind` that this can
  be shown step by step.
* `Host.ByArguments` is the assumption on a host, and `Host.byArguments_of_fixed` the simplest way
  to meet it.
* `Host.agree_invoke`, `Host.agree_force` and `Host.agree_property` are the ways to read,
  `Scope.agree_lookup` and `Scope.agree_dereference` those of a scope.
* `Host.agree_store` and `Scope.agree_assign` are the ways to write.
-/

namespace Conformance

open Value (ItemsAlike EntriesAlike)

variable {σ α α' δ δ' : Type}

/-! ## Agreement -/

/-- Which worlds are akin, under a pairing of their functions. -/
abbrev Kinship (σ : Type) := Pairing → World σ → World σ → Prop

/-- Two actions have ended with related answers or with the same error, in worlds that are akin
under a pairing which keeps the pairs there were. -/
inductive EndAlike (kin : Kinship σ) (related : Pairing → α → α' → Prop) (β : Pairing) :
    EStateM.Result Error (World σ) α → EStateM.Result Error (World σ) α' → Prop
  | ok {γ : Pairing} {w w' : World σ} {a : α} {a' : α'} (le : β ≤ γ) (akin : kin γ w w')
      (answers : related γ a a') : EndAlike kin related β (.ok a w) (.ok a' w')
  | error {γ : Pairing} {w w' : World σ} (e : Error) (le : β ≤ γ) (akin : kin γ w w') :
      EndAlike kin related β (.error e w) (.error e w')

/-- From akin worlds two actions end alike, whichever functions have been paired in between. -/
def HostM.Agree (kin : Kinship σ) (related : Pairing → α → α' → Prop) (β : Pairing)
    (x : HostM σ α) (x' : HostM σ α') : Prop :=
  ∀ ⦃γ : Pairing⦄ ⦃w w' : World σ⦄, β ≤ γ → kin γ w w' → EndAlike kin related γ (x w) (x' w')

lemma EndAlike.weaken {kin : Kinship σ} {related : Pairing → α → α' → Prop} {β γ : Pairing}
    {r : EStateM.Result Error (World σ) α} {r' : EStateM.Result Error (World σ) α'} (le : β ≤ γ)
    (ended : EndAlike kin related γ r r') : EndAlike kin related β r r' := by
  cases ended with
  | ok more akin answers => exact .ok (le.trans more) akin answers
  | error e more akin => exact .error e (le.trans more) akin

namespace HostM

variable {kin : Kinship σ} {related : Pairing → α → α' → Prop}
  {related' : Pairing → δ → δ' → Prop} {β γ : Pairing}

lemma Agree.mono {x : HostM σ α} {x' : HostM σ α'} (agree : Agree kin related β x x')
    (le : β ≤ γ) : Agree kin related γ x x' :=
  fun _ _ _ more akin => agree (le.trans more) akin

lemma agree_pure {a : α} {a' : α'} (stays : ∀ ⦃γ : Pairing⦄, β ≤ γ → related γ a a') :
    Agree kin related β (pure a) (pure a') :=
  fun γ _ _ le akin => .ok (le_refl γ) akin (stays le)

lemma agree_throw (e : Error) : Agree kin related β (throw e) (throw e) :=
  fun γ _ _ _ akin => .error e (le_refl γ) akin

/-- Actions in a row agree if the first do and the second do on what those answer. -/
lemma Agree.bind {x : HostM σ α} {x' : HostM σ α'} {f : α → HostM σ δ} {f' : α' → HostM σ δ'}
    (first : Agree kin related β x x')
    (next : ∀ ⦃γ : Pairing⦄ ⦃a : α⦄ ⦃a' : α'⦄, β ≤ γ → related γ a a' →
      Agree kin related' γ (f a) (f' a')) :
    Agree kin related' β (x >>= f) (x' >>= f') := by
  intro γ w w' le akin
  have ended := first le akin
  rw [bind_apply, bind_apply]
  generalize x w = r at ended ⊢
  generalize x' w' = r' at ended ⊢
  cases ended with
  | ok more akin answers => exact (next (le.trans more) answers (le_refl _) akin).weaken more
  | error e more akin => exact .error e more akin

lemma agree_ofExcept (answer : Except Error α) :
    Agree kin (fun _ a a' => a = a') β (ofExcept answer) (ofExcept answer) := by
  cases answer with
  | ok a => exact agree_pure fun _ _ => rfl
  | error e => exact agree_throw e

lemma Agree.mapError {x : HostM σ α} {x' : HostM σ α'} (agree : Agree kin related β x x')
    (f : Error → Error) : Agree kin related β (HostM.mapError f x) (HostM.mapError f x') := by
  intro γ w w' le akin
  have ended := agree le akin
  unfold HostM.mapError
  generalize x w = r at ended ⊢
  generalize x' w' = r' at ended ⊢
  cases ended with
  | ok more akin answers => exact .ok more akin answers
  | error e more akin => exact .error (f e) more akin

lemma ofState_bind (x : StateM (World σ) α) (f : α → StateM (World σ) δ) :
    ofState (x >>= f) = (ofState x >>= fun a => ofState (f a) : HostM σ δ) := rfl

end HostM

/-! ## Hosts whose functions depend on their arguments only -/

/-- Every function that is held from the start, in a pair with itself. -/
def Pairing.diagonal (held : ℕ → Prop) : Pairing :=
  fun i j => i = j ∧ held i

/-- What the functions of a host come to depends on nothing but their arguments, and they hand out
no classes and no instances.  The functions in question are those that are held from the start,
those that packages export, and those that any of them hands out later. -/
structure Host.ByArguments (h : Host σ) (held : ℕ → Prop) (good : World σ → Prop)
    (kin : Kinship σ) : Prop where
  /-- Worlds from which a run may start are akin, whatever has happened in them. -/
  start : ∀ {w w' : World σ}, good w → good w' → kin (.diagonal held) w w'
  /-- A run may start again from a world that it has led to. -/
  good_of_kin : ∀ {β : Pairing} {w w' : World σ}, kin β w w' → good w ∧ good w'
  /-- Functions that are made keep apart from those that were there. -/
  one_to_one : ∀ {β : Pairing} {w w' : World σ}, kin β w w' → Relator.BiUnique β
  call : ∀ {β : Pairing} {i j : ℕ} {args args' : List Value}, β i j → ItemsAlike β args args' →
    HostM.Agree kin Value.Alike β (h.call i args) (h.call j args')
  exports : ∀ package ∈ h.packages, ∀ β : Pairing, HostM.Agree kin EntriesAlike β
    (HostM.ofState package.exports) (HostM.ofState package.exports)
  /-- The bound on functions that hand out functions is one: to go beyond it makes no difference. -/
  unwinds : ∀ {β : Pairing} {w w' : World σ} {v v' : Value}, kin β w w' → v.Alike β v' →
    (∀ d, h.thunkDepth w ≤ d → h.force d v w = h.force (h.thunkDepth w) v w) ∧
      ∀ d, h.thunkDepth w' ≤ d → h.force d v' w' = h.force (h.thunkDepth w') v' w'

/-! ### Functions with fixed outcomes -/

namespace Value

variable {held : ℕ → Prop}

mutual

/-- Values that differ in nothing but functions which are paired with themselves do not differ. -/
lemma Alike.eq_of_diagonal : ∀ {v v' : Value}, v.Alike (.diagonal held) v' → v = v'
  | _, _, .null => rfl
  | _, _, .bool _ => rfl
  | _, _, .int _ => rfl
  | _, _, .float _ => rfl
  | _, _, .string _ => rfl
  | _, _, .array each => by rw [each.eq_of_diagonal]
  | _, _, .object each => by rw [each.eq_of_diagonal]
  | _, _, .function _ (.importer _) => rfl
  | _, _, .function _ (.host ⟨rfl, _⟩) => rfl

lemma ItemsAlike.eq_of_diagonal : ∀ {items items' : List Value},
    ItemsAlike (.diagonal held) items items' → items = items'
  | _, _, .nil => rfl
  | _, _, .cons first rest => by rw [first.eq_of_diagonal, rest.eq_of_diagonal]

lemma EntriesAlike.eq_of_diagonal : ∀ {entries entries' : List (String × Value)},
    EntriesAlike (.diagonal held) entries entries' → entries = entries'
  | _, _, .nil => rfl
  | _, _, .cons _ first rest => by rw [first.eq_of_diagonal, rest.eq_of_diagonal]

end

end Value

/-- The simplest hosts of this kind make no functions while they run: every function has the same
outcome for the same arguments in every world, every package has the same exports, and all of these
hold no other functions, no classes and no instances.  What the functions do to the world is left
open. -/
theorem Host.byArguments_of_fixed {h : Host σ} {held : ℕ → Prop}
    (outcomes : ∀ i args, held i → ItemsAlike (.diagonal held) args args →
      ∃ outcome : Except Error Value, (∀ v, outcome = .ok v → v.Alike (.diagonal held) v) ∧
        ∀ w, ∃ w', h.call i args w = HostM.ofExcept outcome w')
    (exports : ∀ package ∈ h.packages, ∃ entries, EntriesAlike (.diagonal held) entries entries ∧
      ∀ w, ∃ w', HostM.ofState package.exports w = .ok entries w')
    (unwinds : ∀ (w : World σ) (v : Value) (d : ℕ), v.Alike (.diagonal held) v →
      h.thunkDepth w ≤ d → h.force d v w = h.force (h.thunkDepth w) v w) :
    h.ByArguments held (fun _ => True) (fun β _ _ => β = .diagonal held) where
  start _ _ := rfl
  good_of_kin _ := ⟨trivial, trivial⟩
  one_to_one := by
    rintro _ _ _ rfl
    refine ⟨?_, ?_⟩
    · rintro i i' j ⟨rfl, -⟩ ⟨rfl, -⟩
      rfl
    · rintro i j j' ⟨rfl, -⟩ ⟨rfl, -⟩
      rfl
  call := by
    rintro β i j args args' paired arguments _ w w' le rfl
    obtain ⟨rfl, holds⟩ := le _ _ paired
    have arguments_stay := arguments.mono le
    obtain rfl := arguments_stay.eq_of_diagonal
    obtain ⟨outcome, plain, fixed⟩ := outcomes i args holds arguments_stay
    obtain ⟨u, called⟩ := fixed w
    obtain ⟨u', called'⟩ := fixed w'
    rw [called, called']
    cases outcome with
    | ok v => exact .ok (le_refl _) rfl (plain v rfl)
    | error e => exact .error e (le_refl _) rfl
  exports := by
    rintro package there β _ w w' le rfl
    obtain ⟨entries, plain, fixed⟩ := exports package there
    obtain ⟨u, ran⟩ := fixed w
    obtain ⟨u', ran'⟩ := fixed w'
    rw [ran, ran']
    exact .ok (le_refl _) rfl plain
  unwinds := by
    rintro _ w w' v v' rfl alike
    obtain rfl := alike.eq_of_diagonal
    exact ⟨fun d => unwinds w v d alike, fun d => unwinds w' v d alike⟩

/-! ## Telling functions from data -/

/-- Alike values are functions with alike codes, or neither is a function. -/
lemma Value.Alike.function_or_data {β : Pairing} {v v' : Value} (alike : v.Alike β v') :
    (∃ name code code', v = .function ⟨name, code⟩ ∧ v' = .function ⟨name, code'⟩ ∧
      code.Alike β code') ∨ v.isFunction = false ∧ v'.isFunction = false := by
  cases alike with
  | function name codes => exact Or.inl ⟨name, _, _, rfl, rfl, codes⟩
  | _ => exact Or.inr ⟨rfl, rfl⟩

namespace Host

variable {h : Host σ} {held : ℕ → Prop} {good : World σ → Prop} {kin : Kinship σ} {β : Pairing}
  {v v' : Value}

lemma force_of_data (depth : ℕ) (data : v.isFunction = false) : h.force depth v = pure v := by
  cases depth <;> cases v <;> first | rfl | cases data

section Reading

variable (by_args : h.ByArguments held good kin)
include by_args

/-! ## Calling and reading -/

lemma agree_mergeExports {packages : List (Package σ)} (among : ∀ p ∈ packages, p ∈ h.packages)
    {merged merged' : Mapping} (alike : EntriesAlike β merged merged') :
    HostM.Agree kin EntriesAlike β (.ofState (Package.mergeExports packages merged))
      (.ofState (Package.mergeExports packages merged')) := by
  induction packages generalizing β merged merged' with
  | nil => exact HostM.agree_pure fun _ le => alike.mono le
  | cons package packages ih =>
    rw [List.forall_mem_cons] at among
    rw [Package.mergeExports, Package.mergeExports, HostM.ofState_bind, HostM.ofState_bind]
    refine (by_args.exports package among.1 β).bind fun γ exports exports' le exported => ?_
    exact ih among.2 ((alike.mono le).merge exported)

lemma agree_importFrom (name : String) :
    HostM.Agree kin EntriesAlike β (Package.importFrom h.packages name)
      (Package.importFrom h.packages name) := by
  unfold Package.importFrom
  split
  · exact HostM.agree_throw _
  · rename_i found _
    refine agree_mergeExports by_args ?_ .nil
    intro package there
    exact List.mem_of_mem_filter there

lemma agree_importCall {args args' : List Value} (alike : ItemsAlike β args args') :
    HostM.Agree kin Value.Alike β (Package.importCall h.packages args)
      (Package.importCall h.packages args') := by
  have same_name : args.head?.bind Value.asString? = args'.head?.bind Value.asString? := by
    cases alike with
    | nil => rfl
    | cons first rest => exact first.asString?_eq
  unfold Package.importCall
  rw [same_name]
  split
  · refine (agree_importFrom by_args _).bind fun γ exports exports' _ exported => ?_
    exact HostM.agree_pure fun _ le => .object (exported.mono le)
  · exact HostM.agree_throw _

/-- Calling paired functions with alike arguments. -/
theorem agree_invoke {name : String} {code code' : Code} (codes : code.Alike β code')
    {args args' : List Value} (alike : ItemsAlike β args args') :
    HostM.Agree kin Value.Alike β (h.invoke ⟨name, code⟩ args) (h.invoke ⟨name, code'⟩ args') := by
  cases codes with
  | importer scope => exact agree_importCall by_args alike
  | host paired => exact by_args.call paired alike

theorem agree_force (depth : ℕ) (alike : v.Alike β v') :
    HostM.Agree kin Value.Alike β (h.force depth v) (h.force depth v') := by
  induction depth generalizing β v v' with
  | zero =>
    rcases alike.function_or_data with ⟨name, code, code', rfl, rfl, codes⟩ | ⟨data, data'⟩
    · exact HostM.agree_throw _
    · rw [force_of_data _ data, force_of_data _ data']
      exact HostM.agree_pure fun _ le => alike.mono le
  | succ depth ih =>
    rcases alike.function_or_data with ⟨name, code, code', rfl, rfl, codes⟩ | ⟨data, data'⟩
    · exact (agree_invoke by_args codes .nil).bind fun γ result result' _ answered => ih answered
    · rw [force_of_data _ data, force_of_data _ data']
      exact HostM.agree_pure fun _ le => alike.mono le

/-- Each world unwinds with its own bound, which may as well be the larger of the two. -/
lemma agree_unwind (alike : v.Alike β v') :
    HostM.Agree kin Value.Alike β (fun w => h.force (h.thunkDepth w) v w)
      (fun w => h.force (h.thunkDepth w) v' w) := by
  intro γ w w' le akin
  obtain ⟨enough, enough'⟩ := by_args.unwinds akin (alike.mono le)
  have ended := agree_force by_args (max (h.thunkDepth w) (h.thunkDepth w')) alike le akin
  rwa [enough _ (Nat.le_max_left _ _), enough' _ (Nat.le_max_right _ _)] at ended

omit by_args in
lemma agree_readMember (alike : v.Alike β v') (segment : String) :
    HostM.Agree kin Value.Alike β (h.readMember v segment) (h.readMember v' segment) := by
  cases alike with
  | object each =>
    exact HostM.agree_pure fun _ le => (Value.alike_getD_null (each.get? segment)).mono le
  | array each =>
    rw [readMember, readMember, each.length_eq]
    refine (HostM.agree_ofExcept _).bind fun γ position _ _ same => ?_
    subst same
    exact HostM.agree_pure fun _ le => (Value.alike_getD_null (each.at_position position)).mono
      (le_trans ‹_› le)
  | _ => exact HostM.agree_throw _

/-- Reading one segment. -/
theorem agree_property (alike : v.Alike β v') (segment : String) :
    HostM.Agree kin Value.Alike β (h.property v segment) (h.property v' segment) :=
  (agree_unwind by_args alike).bind fun _ _ _ _ unwound => agree_readMember unwound segment

theorem agree_properties (alike : v.Alike β v') (segments : List String) :
    HostM.Agree kin Value.Alike β (h.properties v segments) (h.properties v' segments) := by
  induction segments generalizing β v v' with
  | nil => exact HostM.agree_pure fun _ le => alike.mono le
  | cons segment rest ih =>
    rw [properties, properties]
    exact (agree_property by_args alike segment).bind fun _ _ _ _ read => ih read

end Reading

end Host

/-! ## Scopes -/

/-- Scopes with alike entries. -/
def Scope.Alike (β : Pairing) (s s' : Scope) : Prop :=
  EntriesAlike β s.entries s'.entries

namespace Scope

variable {h : Host σ} {held : ℕ → Prop} {good : World σ → Prop} {kin : Kinship σ}
  {β γ : Pairing} {s s' : Scope}

lemma Alike.mono (le : β ≤ γ) (scopes : s.Alike β s') : s.Alike γ s' :=
  EntriesAlike.mono le scopes

lemma Alike.insert (scopes : s.Alike β s') (name : String) {v v' : Value}
    (alike : v.Alike β v') : (s.insert name v).Alike β (s'.insert name v') :=
  EntriesAlike.insert scopes name alike

theorem agree_lookup (by_args : h.ByArguments held good kin) (scopes : s.Alike β s')
    (text : String) :
    HostM.Agree kin Value.Alike β (s.lookup h text) (s'.lookup h text) :=
  Host.agree_properties by_args (Value.alike_getD_null (EntriesAlike.get? scopes _)) _

mutual

lemma agree_dereference (by_args : h.ByArguments held good kin) (scopes : s.Alike β s') :
    ∀ {v v' : Value}, v.Alike β v' →
      HostM.Agree kin Value.Alike β (s.dereference h v) (s'.dereference h v')
  | _, _, .null => HostM.agree_pure fun _ _ => .null
  | _, _, .bool b => HostM.agree_pure fun _ _ => .bool b
  | _, _, .int i => HostM.agree_pure fun _ _ => .int i
  | _, _, .float x => HostM.agree_pure fun _ _ => .float x
  | _, _, .string t => HostM.agree_pure fun _ _ => .string t
  | _, _, .array each => by
    rw [dereference, dereference]
    refine (agree_dereferenceItems by_args scopes each).bind fun _ _ _ _ replaced => ?_
    exact HostM.agree_pure fun _ le => .array (replaced.mono le)
  | _, _, .object each => by
    rcases each.reference_cases with ⟨path, rfl, rfl⟩ | ⟨no_node, no_node'⟩
    · rw [dereference, dereference]
      exact agree_lookup by_args scopes path
    · rw [dereference.eq_2 _ _ _ no_node, dereference.eq_2 _ _ _ no_node']
      refine (agree_dereferenceEntries by_args scopes each).bind fun _ _ _ _ replaced => ?_
      exact HostM.agree_pure fun _ le => .object (replaced.mono le)
  | _, _, .function name codes => HostM.agree_pure fun _ le => .function name (codes.mono le)

lemma agree_dereferenceItems (by_args : h.ByArguments held good kin) (scopes : s.Alike β s') :
    ∀ {items items' : List Value}, ItemsAlike β items items' →
      HostM.Agree kin ItemsAlike β (s.dereferenceItems h items) (s'.dereferenceItems h items')
  | _, _, .nil => HostM.agree_pure fun _ _ => .nil
  | _, _, .cons first rest => by
    rw [dereferenceItems, dereferenceItems]
    refine (agree_dereference by_args scopes first).bind fun _ _ _ le answered => ?_
    refine ((agree_dereferenceItems by_args scopes rest).mono le).bind fun _ _ _ le each => ?_
    exact HostM.agree_pure fun _ more => .cons (answered.mono (le.trans more)) (each.mono more)

lemma agree_dereferenceEntries (by_args : h.ByArguments held good kin) (scopes : s.Alike β s') :
    ∀ {entries entries' : List (String × Value)}, EntriesAlike β entries entries' →
      HostM.Agree kin EntriesAlike β (s.dereferenceEntries h entries)
        (s'.dereferenceEntries h entries')
  | _, _, .nil => HostM.agree_pure fun _ _ => .nil
  | _, _, .cons key first rest => by
    rw [dereferenceEntries, dereferenceEntries]
    refine (agree_dereference by_args scopes first).bind fun _ _ _ le answered => ?_
    refine ((agree_dereferenceEntries by_args scopes rest).mono le).bind fun _ _ _ le each => ?_
    exact HostM.agree_pure fun _ more => .cons key (answered.mono (le.trans more)) (each.mono more)

end

end Scope

/-! ## Writing -/

namespace Host

variable {h : Host σ} {held : ℕ → Prop} {good : World σ → Prop} {kin : Kinship σ}
  {β : Pairing} {v v' owner owner' : Value}

lemma agree_setProperty (owners : owner.Alike β owner') (segment : String) (alike : v.Alike β v') :
    HostM.Agree kin Value.Alike β (h.setProperty owner segment v)
      (h.setProperty owner' segment v') := by
  cases owners with
  | object each =>
    exact HostM.agree_pure fun _ le => .object ((each.insert segment alike).mono le)
  | array each =>
    rw [setProperty, setProperty, each.length_eq]
    refine (HostM.agree_ofExcept _).bind fun γ position _ le same => ?_
    subst same
    cases position with
    | none => exact HostM.agree_throw _
    | some n =>
      dsimp only
      split
      · exact HostM.agree_pure fun _ more => .array ((each.putAt n alike).mono (le.trans more))
      · exact HostM.agree_throw _
  | _ => exact HostM.agree_throw _

/-- Nothing is written to what a function hands out, since that is not shared. -/
lemma agree_writable (by_args : h.ByArguments held good kin) (owners : owner.Alike β owner') :
    HostM.Agree kin Value.Alike β (h.writable owner) (h.writable owner') := by
  rcases owners.function_or_data with ⟨name, code, code', rfl, rfl, codes⟩ | ⟨data, data'⟩
  · refine (agree_invoke by_args codes .nil).bind fun γ result result' _ answered => ?_
    rw [answered.isShared_eq_false, answered.symm_isShared_eq_false, answered.typeName_eq]
    exact HostM.agree_throw _
  · have itself (v : Value) (data : v.isFunction = false) : h.writable v = pure v :=
      funext (writable_apply data)
    rw [itself owner data, itself owner' data']
    exact HostM.agree_pure fun _ le => owners.mono le

lemma agree_place (owners : owner.Alike β owner') (segment : String) :
    HostM.Agree kin Value.Alike β (h.place owner segment) (h.place owner' segment) := by
  cases owners with
  | @object entries entries' each =>
    have read := each.get? segment
    rw [place, place]
    generalize Assoc.get? entries segment = child at read ⊢
    generalize Assoc.get? entries' segment = child' at read ⊢
    cases read with
    | none => exact HostM.agree_throw _
    | some alike => exact HostM.agree_pure fun _ le => alike.mono le
  | @array items items' each =>
    rw [place, place, each.length_eq]
    refine (HostM.agree_ofExcept _).bind fun γ position _ le same => ?_
    subst same
    have read := each.at_position position
    generalize position.bind (items[·]?) = child at read ⊢
    generalize position.bind (items'[·]?) = child' at read ⊢
    cases read with
    | none => exact HostM.agree_throw _
    | some alike => exact HostM.agree_pure fun _ more => alike.mono (le.trans more)
  | _ => exact HostM.agree_throw _

/-- What an owner is after a write: a host object stays what it is. -/
lemma alike_after_write (owners : owner.Alike β owner') {updated updated' : Value}
    (alike : updated.Alike β updated') :
    (if owner.isHostObject then owner else updated).Alike β
      (if owner'.isHostObject then owner' else updated') := by
  rw [owners.isHostObject_eq]
  split
  · exact owners
  · exact alike

/-- Binding the last segment on a place below alike owners. -/
theorem agree_store (by_args : h.ByArguments held good kin) (alike : v.Alike β v')
    (segment : String) (rest : List String) (owners : owner.Alike β owner') :
    HostM.Agree kin Value.Alike β (h.store v segment rest owner)
      (h.store v' segment rest owner') := by
  induction rest generalizing β segment owner owner' with
  | nil =>
    rw [store, store]
    refine (agree_writable by_args owners).bind fun _ target target' le targets => ?_
    refine (agree_setProperty targets segment (alike.mono le)).bind fun _ _ _ le' updated => ?_
    refine HostM.agree_pure fun _ more => ?_
    exact alike_after_write (owners.mono (le.trans (le'.trans more))) (updated.mono more)
  | cons next rest ih =>
    rw [store, store]
    refine (agree_writable by_args owners).bind fun _ target target' le targets => ?_
    refine (agree_place targets segment).bind fun _ child child' le' children => ?_
    refine (ih (alike.mono (le.trans le')) next children).bind fun _ _ _ le'' stored => ?_
    have targets_stay := targets.mono (le'.trans le'')
    -- Alike owners are never shared, so what is stored below is written back on both sides.
    rw [putBack_of_not_shared targets_stay.isShared_eq_false,
      putBack_of_not_shared targets_stay.symm_isShared_eq_false]
    refine (agree_setProperty targets_stay segment stored).bind fun _ _ _ le₃ updated => ?_
    refine HostM.agree_pure fun _ more => ?_
    exact alike_after_write (owners.mono (le.trans (le'.trans (le''.trans (le₃.trans more)))))
      (updated.mono more)

end Host

/-- Assigning alike values to the same path of alike scopes. -/
theorem Scope.agree_assign {h : Host σ} {held : ℕ → Prop} {good : World σ → Prop}
    {kin : Kinship σ} {β : Pairing} {s s' : Scope} {v v' : Value}
    (by_args : h.ByArguments held good kin) (scopes : s.Alike β s') (text : String)
    (alike : v.Alike β v') :
    HostM.Agree kin Scope.Alike β (s.assign h text v) (s'.assign h text v') := by
  unfold Scope.assign
  dsimp only
  cases (Path.ofString text).rest with
  | nil => exact HostM.agree_pure fun _ le => (scopes.mono le).insert _ (alike.mono le)
  | cons segment rest =>
    apply HostM.Agree.mapError
    have found : Option.Rel (Value.Alike β) (s.get? (Path.ofString text).first)
        (s'.get? (Path.ofString text).first) := EntriesAlike.get? scopes _
    generalize s.get? (Path.ofString text).first = owner at found ⊢
    generalize s'.get? (Path.ofString text).first = owner' at found ⊢
    cases found with
    | none => exact HostM.agree_throw _
    | some owners =>
      refine (Host.agree_store by_args alike segment rest owners).bind fun _ _ _ le stored => ?_
      exact HostM.agree_pure fun _ more =>
        (scopes.mono (le.trans more)).insert _ (stored.mono more)

end Conformance
