import Conformance.Proofs.Value.Layers
import Conformance.Proofs.Value.Symmetry

/-!
# Where equality stops being transitive

Three comparisons meet in the equality of values.  Data is compared by content, functions, classes
and instances among themselves by identity, and an instance with data through its view.  Numbers
are compared across integers and floating point by rounding the integer.  So a value in the middle
can be equal to two values that differ: two instances that show the same data are both equal to that
data, and two integers that round to the same number are both equal to that number.

These are the only ways.  If the first of three values equals the second and the second the third,
then the first equals the third exactly if nowhere in the two, at places that face each other, two
different integers or two different instances stand.  Places are found under the views of instances
as well, where an instance faces data.

## Parts

* `Views.Grounded` says that no instance contains itself, and that the depth of the views is enough
  to see through all instances.
* `Value.Clash` says that two different integers or instances face each other somewhere.
* `Value.equalUpTo_mono` and `Value.equalUpTo_of_within` say that a comparison is not changed by
  looking deeper than needed.
* `Value.equalUpTo_trans` is transitivity without a clash, and `Value.Clash.not_equalUpTo` says that
  values with a clash differ.
* `equality_transitive_unless_clash` is the result.
-/

namespace Conformance

/-! ## Views that end -/

/-- No instance contains itself: the instances that have a view have levels, the views of each show
instances of lower levels only, and all levels are below the depth. -/
def Views.Grounded (views : Views) : Prop :=
  ∃ level : InstanceRef → ℕ, ∀ i view, views.data i = some view → level i < views.depth ∧
    ∀ position j, view.at? position = some (.inst j) → (views.data j).isSome → level j < level i

/-- The views have each key of a mapping once. -/
def Views.KeysDistinct (views : Views) : Prop :=
  ∀ i view, views.data i = some view → view.KeysDistinct

namespace Value

variable {shows shows' : InstanceRef → Value → Bool} {data : InstanceRef → Option Value}
  {a b c x y z view : Value} {i j : InstanceRef} {n m k l : ℕ}

/-! ## Seeing through instances -/

lemma equalUpTo_inst_iff (b_data : b.IsData) :
    equalUpTo data n (.inst i) b = true ↔ ∃ inside view, n = inside + 1 ∧ data i = some view ∧
      equalUpTo data inside view b = true := by
  rw [equalUpTo_eq, (equalWith_inst b_data).1, shownUpTo_iff]

lemma equalUpTo_inst_right_iff (a_data : a.IsData) :
    equalUpTo data n a (.inst j) = true ↔ ∃ inside view, n = inside + 1 ∧ data j = some view ∧
      equalUpTo data inside view a = true := by
  rw [equalUpTo_eq, (equalWith_inst a_data).2, shownUpTo_iff]

lemma equalUpTo_insts_iff : equalUpTo data n (.inst i) (.inst j) = true ↔ i.id = j.id := by
  rw [equalUpTo_eq, equalWith, beq_iff_eq]

lemma equalUpTo_iff_of_data (a_data : a.IsData) (b_data : b.IsData) :
    equalUpTo data n a b = true ↔
      SameOutside a b ∧ ∀ x y, Facing a b x y → equalUpTo data n x y = true := by
  rw [equalUpTo_eq, equalWith_iff_of_data a_data b_data]

lemma equalUpTo_symm (a_distinct : a.KeysDistinct) (b_distinct : b.KeysDistinct)
    (equal : equalUpTo data n a b = true) : equalUpTo data n b a = true := by
  rw [equalUpTo_eq] at equal ⊢
  exact equalWith_symm a_distinct b_distinct equal

lemma equalWith_mono (more : ∀ i v, shows i v = true → shows' i v = true)
    (equal : equalWith shows a b = true) : equalWith shows' a b = true := by
  induction a using induction_on_children generalizing b with
  | step a ih =>
    rcases a.isData_or_inst with a_data | ⟨i, rfl⟩
    · rcases b.isData_or_inst with b_data | ⟨j, rfl⟩
      · rw [equalWith_iff_of_data a_data b_data] at equal ⊢
        exact ⟨equal.1, fun x y facing => ih x facing.mem_children.1 (equal.2 x y facing)⟩
      · rw [(equalWith_inst a_data).2] at equal ⊢
        exact more j a equal
    · rcases b.isData_or_inst with b_data | ⟨j, rfl⟩
      · rw [(equalWith_inst b_data).1] at equal ⊢
        exact more i b equal
      · rwa [equalWith] at equal ⊢

/-- Looking deeper finds at least as much equal. -/
lemma equalUpTo_mono (deeper : n ≤ m) (equal : equalUpTo data n a b = true) :
    equalUpTo data m a b = true := by
  induction m generalizing n a b with
  | zero => rwa [Nat.le_zero.mp deeper] at equal
  | succ m ih =>
    rw [equalUpTo_eq] at equal ⊢
    refine equalWith_mono (fun i v shown => ?_) equal
    obtain ⟨inside, view, rfl, there, same⟩ := shownUpTo_iff.mp shown
    exact shownUpTo_iff.mpr ⟨m, view, rfl, there, ih (Nat.le_of_succ_le_succ deeper) same⟩

/-- All instances inside of the value that have a view are below a level. -/
def Within (data : InstanceRef → Option Value) (level : InstanceRef → ℕ) (bound : ℕ) (v : Value) :
    Prop :=
  ∀ position j, v.at? position = some (.inst j) → (data j).isSome → level j < bound

lemma Within.child {level : InstanceRef → ℕ} (within : Within data level k a)
    (inside : x ∈ a.children) : Within data level k x := by
  obtain ⟨n, at_child⟩ := at?_cons_of_mem_children inside
  intro position j there
  exact within (n :: position) j (by rw [at_child, there])

/-- Two values whose instances are below two levels need not be compared deeper than the levels
together: every instance that is seen through takes one level off. -/
lemma equalUpTo_of_within {level : InstanceRef → ℕ}
    (descends : ∀ i view, data i = some view → Within data level (level i) view)
    (a_within : Within data level k a) (b_within : Within data level l b)
    (equal : equalUpTo data n a b = true) : equalUpTo data (k + l) a b = true := by
  induction n using Nat.strongRecOn generalizing a b k l with
  | ind n shallower =>
    induction a using induction_on_children generalizing b with
    | step a ih =>
      rcases a.isData_or_inst with a_data | ⟨i, rfl⟩
      · rcases b.isData_or_inst with b_data | ⟨j, rfl⟩
        · rw [equalUpTo_iff_of_data a_data b_data] at equal ⊢
          refine ⟨equal.1, fun x y facing => ?_⟩
          obtain ⟨mem_a, mem_b⟩ := facing.mem_children
          exact ih x mem_a (a_within.child mem_a) (b_within.child mem_b) (equal.2 x y facing)
        · obtain ⟨inside, view, rfl, there, same⟩ := (equalUpTo_inst_right_iff a_data).mp equal
          have below : level j < l := b_within [] j rfl (Option.isSome_of_eq_some there)
          have same_within : equalUpTo data (level j + k) view a = true :=
            shallower inside (Nat.lt_succ_self inside) (descends j view there) a_within same
          exact (equalUpTo_inst_right_iff a_data).mpr ⟨k + l - 1, view, by omega, there,
            equalUpTo_mono (by omega) same_within⟩
      · rcases b.isData_or_inst with b_data | ⟨j, rfl⟩
        · obtain ⟨inside, view, rfl, there, same⟩ := (equalUpTo_inst_iff b_data).mp equal
          have below : level i < k := a_within [] i rfl (Option.isSome_of_eq_some there)
          have same_within : equalUpTo data (level i + l) view b = true :=
            shallower inside (Nat.lt_succ_self inside) (descends i view there) b_within same
          exact (equalUpTo_inst_iff b_data).mpr ⟨k + l - 1, view, by omega, there,
            equalUpTo_mono (by omega) same_within⟩
        · rw [equalUpTo_insts_iff] at equal ⊢
          exact equal

/-- The depth of the views is enough for every comparison. -/
lemma equal_of_equalUpTo {views : Views} (grounded : views.Grounded)
    (equal : equalUpTo views.data n a b = true) : a.equal views b = true := by
  obtain ⟨level, levels⟩ := grounded
  have within (v : Value) : Within views.data level views.depth v := by
    intro position j _ viewed
    obtain ⟨view, there⟩ := Option.isSome_iff_exists.mp viewed
    exact (levels j view there).1
  rw [Value.equal, Nat.two_mul]
  exact equalUpTo_of_within (fun i view there => (levels i view there).2) (within a) (within b)
    equal

/-! ## Clashes -/

/-- Somewhere in two values, at places that face each other, stand two different integers or two
different instances.  An instance that faces data is seen through its view. -/
inductive Clash (data : InstanceRef → Option Value) : Value → Value → Prop
  | ints {i j : Int64} (differ : i ≠ j) : Clash data (.int i) (.int j)
  | insts {i j : InstanceRef} (differ : i.id ≠ j.id) : Clash data (.inst i) (.inst j)
  | inside {a b x y : Value} (facing : Facing a b x y) (clash : Clash data x y) : Clash data a b
  | leftView {i : InstanceRef} {view b : Value} (there : data i = some view) (b_data : b.IsData)
      (clash : Clash data view b) : Clash data (.inst i) b
  | rightView {a view : Value} {j : InstanceRef} (a_data : a.IsData) (there : data j = some view)
      (clash : Clash data a view) : Clash data a (.inst j)

/-- Values with a clash differ. -/
lemma Clash.not_equalUpTo
    (views_distinct : ∀ i view, data i = some view → view.KeysDistinct) (clash : Clash data a b)
    (a_distinct : a.KeysDistinct) (b_distinct : b.KeysDistinct) :
    ¬equalUpTo data n a b = true := by
  induction clash generalizing n with
  | ints differ =>
    rw [equalUpTo_eq, equalWith, beq_iff_eq]
    exact differ
  | insts differ =>
    rw [equalUpTo_insts_iff]
    exact differ
  | inside facing _ ih =>
    rw [equalUpTo_iff_of_data facing.isData.1 facing.isData.2]
    rintro ⟨-, inside⟩
    obtain ⟨mem_a, mem_b⟩ := facing.mem_children
    exact ih (a_distinct.child mem_a) (b_distinct.child mem_b) (inside _ _ facing)
  | leftView there b_data _ ih =>
    rw [equalUpTo_inst_iff b_data]
    rintro ⟨inside, view', rfl, there', same⟩
    obtain rfl := Option.some.inj (there.symm.trans there')
    exact ih (views_distinct _ _ there) b_distinct same
  | rightView a_data there _ ih =>
    rw [equalUpTo_inst_right_iff a_data]
    rintro ⟨inside, view', rfl, there', same⟩
    obtain rfl := Option.some.inj (there.symm.trans there')
    have view_distinct := views_distinct _ _ there
    exact ih a_distinct view_distinct (equalUpTo_symm view_distinct a_distinct same)

/-! ## Transitivity without a clash -/

end Value

/-- Numbers that equal the same number are equal. -/
lemma Binary64.equal_trans {x y z : Binary64} (first : x.equal y = true)
    (second : y.equal z = true) : x.equal z = true := by
  simp only [equal, Bool.and_eq_true, Bool.or_eq_true, beq_iff_eq] at first second ⊢
  obtain ⟨⟨x_number, -⟩, same⟩ := first
  obtain ⟨⟨-, z_number⟩, same'⟩ := second
  refine ⟨⟨x_number, z_number⟩, ?_⟩
  rcases same with bits | ⟨x_zero, y_zero⟩
  · rcases same' with bits' | ⟨y_zero, z_zero⟩
    · exact .inl (bits.trans bits')
    · exact .inr ⟨by rwa [magnitude, bits], z_zero⟩
  · rcases same' with bits' | ⟨-, z_zero⟩
    · exact .inr ⟨x_zero, by rwa [magnitude, ← bits']⟩
    · exact .inr ⟨x_zero, z_zero⟩

namespace Value

variable {data : InstanceRef → Option Value} {a b c x y z : Value} {n m : ℕ}

/-- Outer layers that equal the same layer are equal, unless they are two different integers. -/
lemma SameOutside.trans (first : SameOutside a b) (second : SameOutside b c)
    (no_clash : ¬Clash data a c) : SameOutside a c := by
  cases first with
  | null => exact second
  | bool b => exact second
  | string s => exact second
  | int i => exact second
  | @float x y same =>
    cases second with
    | float same' => exact .float (Binary64.equal_trans same same')
    | floatInt same' =>
      exact .floatInt (Binary64.equal_trans same' (Binary64.equal_comm x y ▸ same))
  | @intFloat i x same =>
    cases second with
    | float same' => exact .intFloat (Binary64.equal_trans same same')
    | @floatInt _ j same' =>
      -- Two integers that round to one number are the same integer, or else they clash.
      by_cases one : i = j
      · exact one ▸ .int i
      · exact absurd (.ints one) no_clash
  | @floatInt x i same =>
    cases second with
    | int i => exact .floatInt same
    | @intFloat _ z same' =>
      exact .float (Binary64.equal_trans (Binary64.equal_comm _ x ▸ same) same')
  | array length =>
    cases second with
    | array length' => exact .array (length.trans length')
  | object length keys =>
    cases second with
    | object length' keys' => exact .object (length.trans length') (List.Subset.trans keys keys')
  | function same =>
    cases second with
    | function same' => exact .function (same.trans same')
  | cls same =>
    cases second with
    | cls same' => exact .cls (same.trans same')

/-- What faces each other across a layer that is the same outside faces something in between. -/
lemma Facing.between (first : SameOutside a b) (facing : Facing a c x z) :
    ∃ y, Facing a b x y ∧ Facing b c y z := by
  cases facing with
  | @item items others n _ _ here there =>
    cases first with
    | @array _ middle length =>
      obtain ⟨inside, -⟩ := List.getElem?_eq_some_iff.mp here
      have at_n := List.getElem?_eq_getElem (length ▸ inside)
      exact ⟨middle[n], .item here at_n, .item at_n there⟩
  | @entry entries others key _ _ here there =>
    cases first with
    | @object _ middle length keys =>
      have known : key ∈ Assoc.keys middle := keys (List.mem_map_of_mem here)
      cases found : Assoc.get? middle key with
      | none => exact absurd known ((Assoc.get?_eq_none_iff middle key).mp found)
      | some y => exact ⟨y, .entry here found, .entry (Assoc.mem_of_get? found) there⟩

section

variable (one_view : ∀ i j : InstanceRef, i.id = j.id → data i = data j) {i j : InstanceRef}
include one_view

/-- Which of the references to an instance stands in a comparison makes no difference. -/
lemma equalUpTo_inst_congr (same : i.id = j.id) (equal : equalUpTo data n (.inst j) c = true) :
    equalUpTo data n (.inst i) c = true := by
  rcases c.isData_or_inst with c_data | ⟨k, rfl⟩
  · rwa [equalUpTo_inst_iff c_data, one_view i j same, ← equalUpTo_inst_iff c_data]
  · rw [equalUpTo_insts_iff] at equal ⊢
    exact same.trans equal

lemma equalUpTo_inst_right_congr (same : i.id = j.id)
    (equal : equalUpTo data n a (.inst i) = true) : equalUpTo data n a (.inst j) = true := by
  rcases a.isData_or_inst with a_data | ⟨k, rfl⟩
  · rwa [equalUpTo_inst_right_iff a_data, ← one_view i j same, ← equalUpTo_inst_right_iff a_data]
  · rw [equalUpTo_insts_iff] at equal ⊢
    exact equal.trans same

/-- Two values that equal the same value are equal, unless they clash.  The induction is on the
number of views that both comparisons see through together, and for data in the middle on what
stands inside of it. -/
theorem equalUpTo_trans
    (views_distinct : ∀ i view, data i = some view → view.KeysDistinct)
    (a_distinct : a.KeysDistinct) (b_distinct : b.KeysDistinct) (c_distinct : c.KeysDistinct)
    (first : equalUpTo data n a b = true) (second : equalUpTo data m b c = true)
    (no_clash : ¬Clash data a c) : equalUpTo data (n + m) a c = true := by
  induction depth : n + m using Nat.strongRecOn generalizing n m a b c with
  | ind depth shallower =>
    subst depth
    induction b using induction_on_children generalizing a c with
    | step b ih =>
      rcases b.isData_or_inst with b_data | ⟨j, rfl⟩
      · rcases a.isData_or_inst with a_data | ⟨i, rfl⟩
        · rcases c.isData_or_inst with c_data | ⟨k, rfl⟩
          · rw [equalUpTo_iff_of_data a_data b_data] at first
            rw [equalUpTo_iff_of_data b_data c_data] at second
            rw [equalUpTo_iff_of_data a_data c_data]
            refine ⟨first.1.trans second.1 no_clash, fun x z facing => ?_⟩
            obtain ⟨y, left, right⟩ := facing.between first.1
            obtain ⟨mem_a, mem_b⟩ := left.mem_children
            exact ih y mem_b (a_distinct.child mem_a) (b_distinct.child mem_b)
              (c_distinct.child right.mem_children.2) (first.2 x y left) (second.2 y z right)
              fun clash => no_clash (.inside facing clash)
          · obtain ⟨inside, view, rfl, there, same⟩ := (equalUpTo_inst_right_iff b_data).mp second
            have view_distinct := views_distinct k view there
            have across : equalUpTo data (n + inside) a view = true :=
              shallower (n + inside) (by omega) a_distinct b_distinct view_distinct first
                (equalUpTo_symm view_distinct b_distinct same)
                (fun clash => no_clash (.rightView a_data there clash)) rfl
            exact (equalUpTo_inst_right_iff a_data).mpr ⟨n + inside, view, rfl, there,
              equalUpTo_symm a_distinct view_distinct across⟩
        · rcases c.isData_or_inst with c_data | ⟨k, rfl⟩
          · obtain ⟨inside, view, rfl, there, same⟩ := (equalUpTo_inst_iff b_data).mp first
            have across : equalUpTo data (inside + m) view c = true :=
              shallower (inside + m) (by omega) (views_distinct i view there) b_distinct c_distinct
                same second (fun clash => no_clash (.leftView there c_data clash)) rfl
            exact (equalUpTo_inst_iff c_data).mpr ⟨inside + m, view, by omega, there, across⟩
          · -- Both instances show the value in the middle, so they are one or clash.
            rw [equalUpTo_insts_iff]
            by_contra differ
            exact no_clash (.insts differ)
      · rcases a.isData_or_inst with a_data | ⟨i, rfl⟩
        · rcases c.isData_or_inst with c_data | ⟨k, rfl⟩
          · obtain ⟨inside, view, rfl, there, same⟩ := (equalUpTo_inst_right_iff a_data).mp first
            obtain ⟨inside', view', rfl, there', same'⟩ := (equalUpTo_inst_iff c_data).mp second
            obtain rfl := Option.some.inj (there.symm.trans there')
            have view_distinct := views_distinct j view there
            have across : equalUpTo data (inside + inside') a c = true :=
              shallower (inside + inside') (by omega) a_distinct view_distinct c_distinct
                (equalUpTo_symm view_distinct a_distinct same) same' no_clash rfl
            exact equalUpTo_mono (by omega) across
          · rw [equalUpTo_insts_iff] at second
            exact equalUpTo_mono (by omega) (equalUpTo_inst_right_congr one_view second first)
        · rw [equalUpTo_insts_iff] at first
          exact equalUpTo_mono (by omega) (equalUpTo_inst_congr one_view first second)

end

end Value

/-- **Where equality is transitive.**  Let the first of three values equal the second, and the
second the third.  Then the first equals the third exactly if nowhere in the two, at places that
face each other, two different integers or two different instances stand.  This is said of a world
in which no instance contains itself and instances show their data by identity, as instances do, and
of values and views that have each key of a mapping once, as mappings do. -/
theorem equality_transitive_unless_clash (views : Views) (grounded : views.Grounded)
    (one_view : views.ByIdentity) (views_distinct : views.KeysDistinct) (a b c : Value)
    (a_distinct : a.KeysDistinct) (b_distinct : b.KeysDistinct) (c_distinct : c.KeysDistinct)
    (first : a.equal views b = true) (second : b.equal views c = true) :
    a.equal views c = true ↔ ¬Value.Clash views.data a c := by
  constructor
  · intro equal clash
    exact clash.not_equalUpTo views_distinct a_distinct c_distinct equal
  · intro no_clash
    exact Value.equal_of_equalUpTo grounded (Value.equalUpTo_trans one_view views_distinct
      a_distinct b_distinct c_distinct first second no_clash)

/-! ### Twins -/

/-- A point as data, with its coordinate as an integer. -/
def pointData : Value :=
  .object [("x", .int 5)]

/-- The same point with its coordinate as a floating-point number. -/
def floatPointData : Value :=
  .object [("x", .float (.ofInt 5))]

/-- Two instances that show the same point. -/
def twinViews : Views :=
  ⟨fun i => if i.id < 2 then some pointData else none, 1⟩

def firstTwin : Value :=
  .inst ⟨"Point", 0⟩

def secondTwin : Value :=
  .inst ⟨"Point", 1⟩

lemma pointData_distinct : pointData.KeysDistinct := by
  refine Value.keysDistinct_of_children ?_ ?_
  · rintro _ ⟨⟩
    decide
  · rintro _ (_ | ⟨_, ⟨⟩⟩)
    exact Value.keysDistinct_of_scalar nofun rfl

lemma floatPointData_distinct : floatPointData.KeysDistinct := by
  refine Value.keysDistinct_of_children ?_ ?_
  · rintro _ ⟨⟩
    decide
  · rintro _ (_ | ⟨_, ⟨⟩⟩)
    exact Value.keysDistinct_of_scalar nofun rfl

lemma firstTwin_distinct : firstTwin.KeysDistinct :=
  Value.keysDistinct_of_scalar nofun rfl

lemma secondTwin_distinct : secondTwin.KeysDistinct :=
  Value.keysDistinct_of_scalar nofun rfl

lemma eq_pointData_of_twinViews {i : InstanceRef} {view : Value}
    (there : twinViews.data i = some view) : view = pointData := by
  unfold twinViews at there
  dsimp only at there
  split at there
  · exact (Option.some.inj there).symm
  · cases there

lemma twinViews_grounded : twinViews.Grounded := by
  refine ⟨fun _ => 0, fun i view there => ⟨Nat.zero_lt_one, ?_⟩⟩
  obtain rfl := eq_pointData_of_twinViews there
  rintro (_ | ⟨_ | _, _ | _⟩) j found <;> cases found

lemma twinViews_byIdentity : twinViews.ByIdentity := by
  intro i j same
  simp only [twinViews, same]

lemma twinViews_keysDistinct : twinViews.KeysDistinct := by
  intro i view there
  rw [eq_pointData_of_twinViews there]
  exact pointData_distinct

/-- An instance equals what equals its view; two instances that show the same clash. -/
theorem twins_clash :
    (twinViews.Grounded ∧ twinViews.ByIdentity ∧ twinViews.KeysDistinct) ∧
    (firstTwin.equal twinViews floatPointData = true ∧
      floatPointData.equal twinViews pointData = true ∧
      firstTwin.equal twinViews pointData = true ∧
      ¬Value.Clash twinViews.data firstTwin pointData) ∧
    pointData.equal twinViews secondTwin = true ∧
      Value.Clash twinViews.data firstTwin secondTwin ∧
      firstTwin.equal twinViews secondTwin = false := by
  have through_float : firstTwin.equal twinViews floatPointData = true := by decide +kernel
  have across : floatPointData.equal twinViews pointData = true := by decide +kernel
  have first_shows : firstTwin.equal twinViews pointData = true := by decide +kernel
  have second_shows : pointData.equal twinViews secondTwin = true := by decide +kernel
  have clash : Value.Clash twinViews.data firstTwin secondTwin := .insts (by decide)
  have no_clash := (equality_transitive_unless_clash twinViews twinViews_grounded
    twinViews_byIdentity twinViews_keysDistinct _ _ _ firstTwin_distinct floatPointData_distinct
    pointData_distinct through_float across).mp first_shows
  have differ := mt (equality_transitive_unless_clash twinViews twinViews_grounded
    twinViews_byIdentity twinViews_keysDistinct _ _ _ firstTwin_distinct pointData_distinct
    secondTwin_distinct first_shows second_shows).mp (not_not_intro clash)
  exact ⟨⟨twinViews_grounded, twinViews_byIdentity, twinViews_keysDistinct⟩, ⟨through_float, across,
    first_shows, no_clash⟩, second_shows, clash, eq_false_of_ne_true differ⟩

/-- Two instances that show the same point are equal to that point and not to each other, and so are
two integers that round to the same number. -/
theorem middle_equals_both_sides :
    twinViews.Grounded ∧ twinViews.ByIdentity ∧ twinViews.KeysDistinct ∧
    (firstTwin.KeysDistinct ∧ pointData.KeysDistinct ∧ secondTwin.KeysDistinct ∧
      firstTwin.equal twinViews pointData = true ∧ pointData.equal twinViews secondTwin = true ∧
      firstTwin.equal twinViews secondTwin = false) ∧
    (Value.int 9007199254740993).equal twinViews (.float (.ofInt 9007199254740992)) = true ∧
      (Value.float (.ofInt 9007199254740992)).equal twinViews (.int 9007199254740992) = true ∧
      (Value.int 9007199254740993).equal twinViews (.int 9007199254740992) = false :=
  ⟨twinViews_grounded, twinViews_byIdentity, twinViews_keysDistinct,
    ⟨firstTwin_distinct, pointData_distinct, secondTwin_distinct, by decide +kernel,
      by decide +kernel, by decide +kernel⟩,
    by decide +kernel, by decide +kernel, by decide +kernel⟩

end Conformance
