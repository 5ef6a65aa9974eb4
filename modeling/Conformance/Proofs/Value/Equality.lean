import Mathlib.Data.List.Forall2
import Conformance.Proofs.Value.Position
import Conformance.Value.Equality

/-!
# Equality, one value at a time

Equality of values is a recursion over sequences and mappings, with the comparison of an instance
with data left open until the views of the instances close it.  The lemmas here say when two
sequences and two mappings are equal in terms of what stands directly inside, and that a value
equals itself, and that equal values equal the same texts.

A value holds each key of a mapping once.  That is what makes the comparison of mappings, which
looks the keys of one side up in the other, a comparison of their entries.

## Parts

* `Value.shownUpTo` is the comparison of instances with data, and `Value.exists_equalWith` is
  equality in a world with one such comparison.
* `Value.equalItems_iff` and `Value.entriesWithin_iff` open the comparison of sequences and of
  mappings.
* `Value.KeysDistinct` and `Value.NanFree` say that no mapping inside repeats a key and that no
  number inside is a NaN.
* `Value.equal_self` says that such a value equals itself.
* `Value.equal_string_of_equal` says that equal values equal the same texts, where instances show
  their data by identity (`Views.ByIdentity`).
-/

namespace Conformance

/-- What an instance shows depends on which instance it is, not on the name that its class goes
by. -/
def Views.ByIdentity (views : Views) : Prop :=
  ∀ i j : InstanceRef, i.id = j.id → views.data i = views.data j

namespace Value

variable {shows : InstanceRef → Value → Bool} {v : Value}

/-- The comparison of instances with data, with instances seen through at most so many views. -/
def shownUpTo (data : InstanceRef → Option Value) : ℕ → InstanceRef → Value → Bool
  | 0, _, _ => false
  | depth + 1, i, other =>
    match data i with
    | some view => equalUpTo data depth view other
    | none => false

lemma shownUpTo_iff {data : InstanceRef → Option Value} {depth : ℕ} {i : InstanceRef} :
    shownUpTo data depth i v = true ↔ ∃ inside view, depth = inside + 1 ∧ data i = some view ∧
      equalUpTo data inside view v = true := by
  cases depth with
  | zero => simp [shownUpTo]
  | succ depth => cases view : data i <;> simp [shownUpTo, view]

lemma equalUpTo_eq (data : InstanceRef → Option Value) (depth : ℕ) :
    equalUpTo data depth = equalWith (shownUpTo data depth) := by
  cases depth <;> rfl

/-- However deep instances are seen through, there is one comparison of them with data. -/
lemma exists_equalWith (views : Views) :
    ∃ shows, ∀ a b : Value, a.equal views b = equalWith shows a b :=
  ⟨shownUpTo views.data (2 * views.depth), fun a b => by rw [equal, equalUpTo_eq]⟩

/-! ## Sequences and mappings -/

lemma equalItems_iff {items others : List Value} :
    equalItems shows items others = true ↔
      List.Forall₂ (fun a b => equalWith shows a b = true) items others := by
  induction items generalizing others with
  | nil => cases others <;> simp [equalItems]
  | cons item rest ih => cases others <;> simp [equalItems, ih]

lemma entriesWithin_iff {entries other : Mapping} :
    entriesWithin shows entries other = true ↔
      ∀ entry ∈ entries, ∃ b, Assoc.get? other entry.1 = some b ∧
        equalWith shows entry.2 b = true := by
  induction entries with
  | nil => simp [entriesWithin]
  | cons entry rest ih =>
    obtain ⟨key, a⟩ := entry
    rw [entriesWithin, Bool.and_eq_true, ih, List.forall_mem_cons]
    refine and_congr_left fun _ => ?_
    cases Assoc.get? other key <;> simp

/-! ## Reflexivity -/

/-- No mapping inside of the value has a key twice. -/
def KeysDistinct (v : Value) : Prop :=
  ∀ position entries, v.at? position = some (.object entries) → (Assoc.keys entries).Nodup

/-- No floating-point number inside of the value is a NaN. -/
def NanFree (v : Value) : Prop :=
  ∀ position x, v.at? position = some (.float x) → x.isNan = false

lemma at?_cons_of_mem_children {child : Value} (inside : child ∈ v.children) :
    ∃ n, ∀ below, v.at? (n :: below) = child.at? below := by
  obtain ⟨n, there⟩ := List.mem_iff_getElem?.mp inside
  refine ⟨n, fun below => ?_⟩
  rw [at?_cons, child?_eq_getElem?, there, Option.bind_some]

lemma KeysDistinct.child {child : Value} (distinct : v.KeysDistinct)
    (inside : child ∈ v.children) : child.KeysDistinct := by
  obtain ⟨n, at_child⟩ := at?_cons_of_mem_children inside
  intro position entries there
  exact distinct (n :: position) entries (by rw [at_child, there])

/-- The keys are distinct if those of the value itself are, and those of everything directly
inside. -/
lemma keysDistinct_of_children (own : ∀ entries, v = .object entries → (Assoc.keys entries).Nodup)
    (inside : ∀ child ∈ v.children, child.KeysDistinct) : v.KeysDistinct := by
  intro position entries there
  cases position with
  | nil => exact own entries (Option.some.inj there)
  | cons n below =>
    rw [at?_cons, child?_eq_getElem?] at there
    obtain ⟨child, at_n, found⟩ := Option.bind_eq_some_iff.mp there
    exact inside child (List.mem_of_getElem? at_n) below entries found

lemma keysDistinct_of_scalar (no_object : ∀ entries, v ≠ .object entries)
    (empty : v.children = []) : v.KeysDistinct :=
  keysDistinct_of_children (fun entries is_object => absurd is_object (no_object entries))
    (by simp [empty])

lemma NanFree.child {child : Value} (free : v.NanFree) (inside : child ∈ v.children) :
    child.NanFree := by
  obtain ⟨n, at_child⟩ := at?_cons_of_mem_children inside
  intro position x there
  exact free (n :: position) x (by rw [at_child, there])

/-- No NaN is inside if the value is none, and none is inside of anything directly inside. -/
lemma nanFree_of_children (own : ∀ x, v = .float x → x.isNan = false)
    (inside : ∀ child ∈ v.children, child.NanFree) : v.NanFree := by
  intro position x there
  cases position with
  | nil => exact own x (Option.some.inj there)
  | cons n below =>
    rw [at?_cons, child?_eq_getElem?] at there
    obtain ⟨child, at_n, found⟩ := Option.bind_eq_some_iff.mp there
    exact inside child (List.mem_of_getElem? at_n) below x found

lemma equalWith_self (v : Value) (distinct : v.KeysDistinct) (free : v.NanFree) :
    equalWith shows v v = true := by
  induction v using induction_on_children with
  | step v ih =>
    have inside_equal (child : Value) (inside : child ∈ v.children) :
        equalWith shows child child = true :=
      ih child inside (distinct.child inside) (free.child inside)
    cases v with
    | null => rfl
    | bool b => simp [equalWith]
    | int i => simp [equalWith]
    | float x =>
      rw [equalWith]
      exact x.equal_self (free [] x rfl)
    | string s => simp [equalWith]
    | array items =>
      rw [equalWith, equalItems_iff, List.forall₂_same]
      exact inside_equal
    | object entries =>
      rw [equalWith, beq_self_eq_true, Bool.true_and, entriesWithin_iff]
      rintro ⟨key, item⟩ mem
      refine ⟨item, (Assoc.get?_eq_some_iff_mem (distinct [] entries rfl)).mpr mem, ?_⟩
      exact inside_equal item (List.mem_map_of_mem mem)
    | function f => simp [equalWith]
    | cls c => simp [equalWith]
    | inst i => simp [equalWith]

/-- A value equals itself, unless a NaN stands somewhere in it. -/
theorem equal_self (views : Views) (v : Value) (distinct : v.KeysDistinct) (free : v.NanFree) :
    v.equal views v = true := by
  obtain ⟨shows, eq⟩ := exists_equalWith views
  rw [eq, equalWith_self v distinct free]

/-! ## Comparing with a text -/

section Text

variable {data : InstanceRef → Option Value} {views : Views} {u : Value} {s : String}

lemma equalWith_string_iff :
    equalWith shows v (.string s) = true ↔
      v = .string s ∨ ∃ i, v = .inst i ∧ shows i (.string s) = true := by
  cases v <;> simp [equalWith]

lemma equalWith_string_comm (v : Value) :
    equalWith shows (.string s) v = equalWith shows v (.string s) := by
  cases v <;> simp [equalWith, Bool.beq_comm]

lemma equal_string_comm (views : Views) (v : Value) :
    (Value.string s).equal views v = v.equal views (.string s) := by
  obtain ⟨shows, eq⟩ := exists_equalWith views
  rw [eq, eq, equalWith_string_comm]

lemma equalWith_inst {i : InstanceRef} (no_instance : ∀ j, u ≠ .inst j) :
    equalWith shows (.inst i) u = shows i u ∧ equalWith shows u (.inst i) = shows i u := by
  cases u with
  | inst j => exact absurd rfl (no_instance j)
  | _ => exact ⟨rfl, rfl⟩

/-- Data that is equal to what equals a text is the text, unless an instance stands between. -/
lemma eq_string_or_shown (no_instance : ∀ j, u ≠ .inst j)
    (text : equalWith shows v (.string s) = true) (same : equalWith shows v u = true) :
    u = .string s ∨ ∃ i, v = .inst i ∧ shows i (.string s) = true ∧ shows i u = true := by
  rcases equalWith_string_iff.mp text with rfl | ⟨i, rfl, shown⟩
  · rw [equalWith_string_comm] at same
    rcases equalWith_string_iff.mp same with is_text | ⟨j, instance_, -⟩
    · exact Or.inl is_text
    · exact absurd instance_ (no_instance j)
  · rw [(equalWith_inst no_instance).1] at same
    exact Or.inr ⟨i, rfl, shown, same⟩

/-- Seen through views, only the text itself is data that equals what equals the text. -/
lemma eq_string_of_equalUpTo {depth : ℕ} (no_instance : ∀ j, u ≠ .inst j)
    (text : equalUpTo data depth v (.string s) = true)
    (same : equalUpTo data depth v u = true) : u = .string s := by
  induction depth generalizing v with
  | zero =>
    rcases eq_string_or_shown no_instance text same with is_text | ⟨i, -, shown, -⟩
    · exact is_text
    · cases shown
  | succ depth ih =>
    rw [equalUpTo_eq] at text same
    rcases eq_string_or_shown no_instance text same with is_text | ⟨i, -, shown, shown'⟩
    · exact is_text
    · obtain ⟨inside, view, eq, there, text_inside⟩ := shownUpTo_iff.mp shown
      obtain ⟨inside', view', eq', there', same_inside⟩ := shownUpTo_iff.mp shown'
      obtain rfl : depth = inside := Nat.succ.inj eq
      obtain rfl : depth = inside' := Nat.succ.inj eq'
      obtain rfl : view = view' := Option.some.inj (there.symm.trans there')
      exact ih text_inside same_inside

/-- A value that equals another one equals the same texts. -/
theorem equal_string_of_equal (one_view : views.ByIdentity) (same : v.equal views u = true)
    (text : u.equal views (.string s) = true) : v.equal views (.string s) = true := by
  unfold equal at same text ⊢
  have same_text := text
  rw [equalUpTo_eq] at same text ⊢
  rcases equalWith_string_iff.mp text with rfl | ⟨i, rfl, shown⟩
  · exact same
  · by_cases is_instance : ∃ j, v = .inst j
    · -- Two instances are equal only if they are one, and then they show the same.
      obtain ⟨j, rfl⟩ := is_instance
      have one : j.id = i.id := by simpa [equalWith] using same
      obtain ⟨inside, view, eq, there, inside_text⟩ := shownUpTo_iff.mp shown
      have shown' := shownUpTo_iff.mpr
        ⟨inside, view, eq, (one_view j i one).trans there, inside_text⟩
      exact equalWith_string_iff.mpr (Or.inr ⟨j, rfl, shown'⟩)
    · -- Data is compared with the view of the instance, and the view is the text.
      have no_instance : ∀ j, v ≠ .inst j := fun j eq => is_instance ⟨j, eq⟩
      have turned : equalWith (shownUpTo views.data (2 * views.depth)) (.inst i) v = true := by
        rw [(equalWith_inst no_instance).1]
        rwa [(equalWith_inst no_instance).2] at same
      rw [← equalUpTo_eq] at turned
      rw [eq_string_of_equalUpTo no_instance same_text turned]
      exact equalWith_string_iff.mpr (Or.inl rfl)

end Text

end Value

end Conformance
