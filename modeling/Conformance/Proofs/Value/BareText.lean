import Conformance.Proofs.Binary64.Characters
import Conformance.Proofs.Value.Position

/-!
# Line feeds in the text of a value

Strings and keys are quoted, and a quoted text has no line feed.  Some parts of a value are written
as they are, though: the path of a reference node, and the names of functions, classes and
instances.  Whether the text of a value is one line is decided by these parts alone.

## Parts

* `Text.newline_notMem_quote` is about strings, and `Binary64.Foreign.notMem_render` about numbers.
* `Value.WritesBare` says which texts a value writes as they are.
* `Value.newline_mem_render_iff` is the result.
-/

namespace Conformance

open Text

/-! ## Strings -/

namespace Text

lemma mem_intercalate_iff {separator : List Char} {c : Char} (other : c ∉ separator)
    {texts : List (List Char)} :
    c ∈ separator.intercalate texts ↔ ∃ text ∈ texts, c ∈ text := by
  induction texts with
  | nil => simp [List.intercalate]
  | cons text rest ih =>
    cases rest with
    | nil => simp [List.intercalate]
    | cons next rest =>
      rw [List.intercalate_cons_cons]
      simp only [List.mem_append, other, ih, List.mem_cons, exists_eq_or_imp, or_false]

lemma newline_ne_hexDigit : ∀ n < 16, '\n' ≠ hexDigit n := by
  decide

lemma newline_notMem_escape (c : Char) : '\n' ∉ escape c := by
  by_cases newline : c = '\n'
  · rw [newline]
    decide
  · unfold escape
    split
    case h_8 =>
      split
      case isTrue control =>
        have high := newline_ne_hexDigit (c.toNat / 16) (by omega)
        have low := newline_ne_hexDigit (c.toNat % 16) (by omega)
        simp [high, low]
      case isFalse => simp [Ne.symm newline]
    all_goals decide

lemma newline_notMem_quote (text : List Char) : '\n' ∉ quote text := by
  have inside : '\n' ∉ text.flatMap escape := by
    simp only [List.mem_flatMap, not_exists, not_and]
    exact fun c _ => newline_notMem_escape c
  simp [quote, inside]

end Text

namespace Value

/-! ## Texts that are written as they are -/

/-- The value has the text somewhere and writes it as it is.  Instances are seen through at most so
many views, and show the name of their class where that ends. -/
inductive WritesBare (data : InstanceRef → Option Value) : ℕ → Value → String → Prop
  | reference (depth : ℕ) (path : String) : WritesBare data depth (.reference path) path
  | function (depth : ℕ) (f : FunctionRef) : WritesBare data depth (.function f) f.name
  | cls (depth : ℕ) (c : ClassRef) : WritesBare data depth (.cls c) c.name
  | unseen {depth : ℕ} {i : InstanceRef} (unseen : depth = 0 ∨ data i = none) :
      WritesBare data depth (.inst i) i.className
  | seen {depth : ℕ} {i : InstanceRef} {view : Value} {text : String} (shows : data i = some view)
      (below : WritesBare data depth view text) : WritesBare data (depth + 1) (.inst i) text
  | inside {depth : ℕ} {v child : Value} {text : String} (inside : child ∈ v.children)
      (below : WritesBare data depth child text) : WritesBare data depth v text

/-! ## One level of a value -/

section OneLevel

variable (shown : InstanceRef → List Char)

lemma renderWith_reference (path : String) : renderWith shown (.reference path) = path.toList := by
  rw [reference, renderWith.eq_def]

lemma renderWith_array (items : List Value) :
    renderWith shown (.array items) = bracketed '[' ']' (items.map (renderWith shown)) := by
  rw [renderWith.eq_def, ← renderItems_eq_map]

lemma renderWith_function (f : FunctionRef) :
    renderWith shown (.function f) = "<function ".toList ++ f.name.toList ++ ['>'] := by
  rw [renderWith.eq_def]

lemma renderWith_cls (c : ClassRef) :
    renderWith shown (.cls c) = "<class ".toList ++ c.name.toList ++ ['>'] := by
  rw [renderWith.eq_def]

lemma renderWith_inst (i : InstanceRef) : renderWith shown (.inst i) = shown i := by
  rw [renderWith.eq_def]

lemma foreign_newline : Binary64.Foreign '\n' := by
  constructor <;> decide

lemma floatLayout_lacks_newline : floatLayout.Lacks '\n' := by
  constructor <;> decide

lemma newline_notMem_null : '\n' ∉ renderWith shown .null := by
  change '\n' ∉ "null".toList
  decide

lemma newline_notMem_bool (b : Bool) : '\n' ∉ renderWith shown (.bool b) := by
  cases b
  · change '\n' ∉ "false".toList
    decide
  · change '\n' ∉ "true".toList
    decide

lemma newline_notMem_int (i : Int64) : '\n' ∉ renderWith shown (.int i) :=
  foreign_newline.notMem_intDigits i.toInt

lemma newline_notMem_float (x : Binary64) : '\n' ∉ renderWith shown (.float x) :=
  foreign_newline.notMem_render floatLayout_lacks_newline x

lemma newline_notMem_string (s : String) : '\n' ∉ renderWith shown (.string s) :=
  newline_notMem_quote s.toList

lemma newline_mem_bracketed_iff {opening closing : Char} (opens : '\n' ≠ opening)
    (closes : '\n' ≠ closing) {texts : List (List Char)} :
    '\n' ∈ bracketed opening closing texts ↔ ∃ text ∈ texts, '\n' ∈ text := by
  have comma : '\n' ∉ [','] := by decide
  rw [bracketed, ← mem_intercalate_iff comma]
  simp [opens, closes]

/-- A mapping that is not a reference node quotes its keys. -/
lemma newline_mem_object_iff {entries : List (String × Value)}
    (no_node : ∀ path, entries ≠ [(path, .null)]) :
    '\n' ∈ renderWith shown (.object entries) ↔
      ∃ entry ∈ entries, '\n' ∈ renderWith shown entry.2 := by
  have colon : '\n' ≠ ':' := by decide
  rw [renderWith_object no_node, newline_mem_bracketed_iff (by decide) (by decide),
    renderEntries_eq_map]
  simp only [List.mem_map, exists_exists_and_eq_and, List.mem_append, List.mem_cons,
    newline_notMem_quote, colon, false_or]

/-- A value writes as it is what stands inside, the names of host objects and the path of a
reference node. -/
lemma newline_mem_renderWith_iff (v : Value) :
    '\n' ∈ renderWith shown v ↔
      (∃ path, v = .reference path ∧ '\n' ∈ path.toList) ∨
      (∃ f, v = .function f ∧ '\n' ∈ f.name.toList) ∨
      (∃ c, v = .cls c ∧ '\n' ∈ c.name.toList) ∨
      (∃ i, v = .inst i ∧ '\n' ∈ shown i) ∨
      ∃ child ∈ v.children, '\n' ∈ renderWith shown child := by
  cases v with
  | null => simp [newline_notMem_null, reference, children]
  | bool b => simp [newline_notMem_bool, reference, children]
  | int i => simp [newline_notMem_int, reference, children]
  | float x => simp [newline_notMem_float, reference, children]
  | string s => simp [newline_notMem_string, reference, children]
  | array items =>
    rw [renderWith_array, newline_mem_bracketed_iff (by decide) (by decide)]
    simp [reference, children]
  | function f => simp [renderWith_function, reference, children]
  | cls c => simp [renderWith_cls, reference, children]
  | inst i => simp [renderWith_inst, reference, children]
  | object entries =>
    by_cases node : ∃ path, entries = [(path, .null)]
    · obtain ⟨path, rfl⟩ := node
      have path_text := renderWith_reference shown path
      rw [reference] at path_text
      simp [path_text, newline_notMem_null, reference, children]
    · rw [not_exists] at node
      rw [newline_mem_object_iff shown node]
      simp only [reference, object.injEq, node, false_and, exists_false, reduceCtorEq, false_or,
        children, List.mem_map, exists_exists_and_eq_and]

end OneLevel

/-! ## All levels -/

/-- The text of an instance that is seen through at most so many views. -/
def shownAt (data : InstanceRef → Option Value) : ℕ → InstanceRef → List Char
  | 0, i => opaqueText i
  | depth + 1, i =>
    match data i with
    | some view => renderUpTo data depth view
    | none => opaqueText i

lemma renderUpTo_eq (data : InstanceRef → Option Value) (depth : ℕ) (v : Value) :
    renderUpTo data depth v = renderWith (shownAt data depth) v := by
  cases depth <;> rfl

lemma newline_mem_opaqueText_iff {i : InstanceRef} :
    '\n' ∈ opaqueText i ↔ '\n' ∈ i.className.toList := by
  simp [opaqueText]

variable {data : InstanceRef → Option Value}

lemma newline_mem_of_instances {depth : ℕ}
    (instances : ∀ i, '\n' ∈ shownAt data depth i ↔
      ∃ text, WritesBare data depth (.inst i) text ∧ '\n' ∈ text.toList) (v : Value) :
    '\n' ∈ renderWith (shownAt data depth) v ↔
      ∃ text, WritesBare data depth v text ∧ '\n' ∈ text.toList := by
  induction v using induction_on_children with
  | step v ih =>
    rw [newline_mem_renderWith_iff]
    constructor
    · rintro (⟨path, rfl, newline⟩ | ⟨f, rfl, newline⟩ | ⟨c, rfl, newline⟩ | ⟨i, rfl, newline⟩ |
        ⟨child, mem, newline⟩)
      · exact ⟨path, .reference depth path, newline⟩
      · exact ⟨f.name, .function depth f, newline⟩
      · exact ⟨c.name, .cls depth c, newline⟩
      · exact (instances i).mp newline
      · obtain ⟨text, bare, newline⟩ := (ih child mem).mp newline
        exact ⟨text, .inside mem bare, newline⟩
    · rintro ⟨text, bare, newline⟩
      cases bare with
      | reference => exact .inl ⟨_, rfl, newline⟩
      | function _ f => exact .inr (.inl ⟨f, rfl, newline⟩)
      | cls _ c => exact .inr (.inr (.inl ⟨c, rfl, newline⟩))
      | @unseen _ i unseen =>
        have shown := (instances i).mpr ⟨_, .unseen unseen, newline⟩
        exact .inr (.inr (.inr (.inl ⟨i, rfl, shown⟩)))
      | @seen _ i _ _ shows below =>
        have shown := (instances i).mpr ⟨_, .seen shows below, newline⟩
        exact .inr (.inr (.inr (.inl ⟨i, rfl, shown⟩)))
      | @inside _ _ child _ mem below =>
        exact .inr (.inr (.inr (.inr ⟨child, mem, (ih child mem).mpr ⟨_, below, newline⟩⟩)))

/-- The text of a value has a line feed exactly if a text that the value writes as it is has one. -/
lemma newline_mem_renderUpTo_iff (depth : ℕ) (v : Value) :
    '\n' ∈ renderUpTo data depth v ↔
      ∃ text, WritesBare data depth v text ∧ '\n' ∈ text.toList := by
  induction depth generalizing v with
  | zero =>
    rw [renderUpTo_eq]
    refine newline_mem_of_instances (fun i => ?_) v
    rw [shownAt, newline_mem_opaqueText_iff]
    constructor
    · intro newline
      exact ⟨_, .unseen (.inl rfl), newline⟩
    · rintro ⟨text, bare, newline⟩
      cases bare with
      | unseen _ => exact newline
      | inside mem _ => cases mem
  | succ depth ih =>
    rw [renderUpTo_eq]
    refine newline_mem_of_instances (fun i => ?_) v
    rw [shownAt]
    cases shows : data i with
    | some view =>
      rw [ih view]
      constructor
      · rintro ⟨text, bare, newline⟩
        exact ⟨text, .seen shows bare, newline⟩
      · rintro ⟨text, bare, newline⟩
        cases bare with
        | unseen unseen =>
          rcases unseen with nothing | nothing
          · cases nothing
          · rw [nothing] at shows
            cases shows
        | seen shows' below =>
          obtain rfl := Option.some.inj (shows'.symm.trans shows)
          exact ⟨text, below, newline⟩
        | inside mem _ => cases mem
    | none =>
      rw [newline_mem_opaqueText_iff]
      constructor
      · intro newline
        exact ⟨_, .unseen (.inr shows), newline⟩
      · rintro ⟨text, bare, newline⟩
        cases bare with
        | unseen _ => exact newline
        | seen shows' _ =>
          rw [shows] at shows'
          cases shows'
        | inside mem _ => cases mem

lemma newline_mem_render_iff (views : Views) (v : Value) :
    '\n' ∈ (v.render views).toList ↔
      ∃ text, WritesBare views.data views.depth v text ∧ '\n' ∈ text.toList := by
  rw [render, String.toList_ofList, newline_mem_renderUpTo_iff]

end Value

end Conformance
