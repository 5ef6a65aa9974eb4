import Conformance.Value.Basic
import Conformance.Binary64.Text
import Conformance.Text.Quoted

/-!
# The text of values

Values are shown on one line in a JSON-like notation.  Data without reference nodes is shown as
JSON; a reference node is shown as its bare path, a host object between angle brackets, and an
instance with a data view as that data.

## Parts

* `Value.floatLayout` fixes how floating-point numbers are laid out.
* `Value.renderWith` writes a value given the text of instances.
* `Value.render` closes it through the data views; `Value.exists_renderWith` says that in every
  world there is one text for each instance.
* `Value.renderWith_object`, `Value.renderItems_eq_map` and `Value.renderEntries_eq_map` are the
  texts of mappings and sequences.
-/

namespace Conformance.Value

open Conformance.Text

/-- Plain notation from five decimal places up to sixteen digits, and an explicit plus in front of a
positive exponent. -/
def floatLayout : Binary64.Layout where
  plainFrom := -5
  plainBelow := 16
  plus := ['+']
  nan := "NaN".toList
  infinite := "inf".toList
  negativeInfinite := "-inf".toList

/-- A comma-separated list between brackets. -/
def bracketed (opening closing : Char) (texts : List (List Char)) : List Char :=
  opening :: [','].intercalate texts ++ [closing]

mutual

/-- The text of a value with the text of instances left open. -/
def renderWith (shown : InstanceRef → List Char) : Value → List Char
  | .object [(path, .null)] => path.toList
  | .null => "null".toList
  | .bool true => "true".toList
  | .bool false => "false".toList
  | .int i => intDigits i.toInt
  | .float x => x.render floatLayout
  | .string s => quote s.toList
  | .array items => bracketed '[' ']' (renderItems shown items)
  | .object entries => bracketed '\x7b' '\x7d' (renderEntries shown entries)
  | .function f => "<function ".toList ++ f.name.toList ++ ['>']
  | .cls c => "<class ".toList ++ c.name.toList ++ ['>']
  | .inst i => shown i

/-- The texts of the items of a sequence. -/
def renderItems (shown : InstanceRef → List Char) : List Value → List (List Char)
  | [] => []
  | item :: rest => renderWith shown item :: renderItems shown rest

/-- The texts of the entries of a mapping, each a quoted key, a colon and the value. -/
def renderEntries (shown : InstanceRef → List Char) : List (String × Value) → List (List Char)
  | [] => []
  | (key, item) :: rest =>
    (quote key.toList ++ ':' :: renderWith shown item) :: renderEntries shown rest

end

/-- The text of an instance that shows no data. -/
def opaqueText (i : InstanceRef) : List Char :=
  '<' :: i.className.toList ++ " instance>".toList

/-- The text with instances seen through at most so many views. -/
def renderUpTo (data : InstanceRef → Option Value) : Nat → Value → List Char
  | 0, v => renderWith opaqueText v
  | depth + 1, v =>
    renderWith (fun i =>
      match data i with
      | some view => renderUpTo data depth view
      | none => opaqueText i) v

/-- The text of a value. -/
def render (views : Views) (v : Value) : String :=
  String.ofList (renderUpTo views.data views.depth v)

/-! ## Laws of the text -/

/-- However deep instances are seen through, there is one text for each of them. -/
theorem exists_renderWith (views : Views) :
    ∃ shown, ∀ v : Value, v.render views = String.ofList (renderWith shown v) := by
  unfold render
  cases views.depth with
  | zero => exact ⟨_, fun _ => rfl⟩
  | succ depth => exact ⟨_, fun _ => rfl⟩

/-- A mapping that is not a reference node is shown with its entries. -/
theorem renderWith_object {entries : List (String × Value)}
    (no_node : ∀ path, entries ≠ [(path, .null)]) (shown : InstanceRef → List Char) :
    renderWith shown (.object entries) =
      bracketed '\x7b' '\x7d' (renderEntries shown entries) := by
  rw [renderWith.eq_def]
  split
  case h_1 path same =>
    cases same
    exact absurd rfl (no_node path)
  case h_9 others _ same =>
    cases same
    rfl
  all_goals
    rename_i same
    cases same

theorem renderItems_eq_map (shown : InstanceRef → List Char) (items : List Value) :
    renderItems shown items = items.map (renderWith shown) := by
  induction items with
  | nil => rfl
  | cons item rest ih => rw [renderItems, ih, List.map_cons]

theorem renderEntries_eq_map (shown : InstanceRef → List Char) (entries : List (String × Value)) :
    renderEntries shown entries =
      entries.map fun entry => quote entry.1.toList ++ ':' :: renderWith shown entry.2 := by
  induction entries with
  | nil => rfl
  | cons entry rest ih => rw [renderEntries, ih, List.map_cons]

end Conformance.Value
