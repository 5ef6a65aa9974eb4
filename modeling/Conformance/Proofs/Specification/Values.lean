import Conformance.Proofs.Specification.Statistics
import Conformance.Proofs.Value.Alike

/-!
# The values of loaded features

The arguments and the expected results of tests are written down in a document, so they hold no
functions and no other host objects.  Reading a feature moves values around, from the items of a
sequence to positional and keyword arguments, but makes no new ones.

## Parts

* `Payload.OfDocument` and `Feature.OfDocument` say that values come from a document: they are alike
  to themselves under every pairing.
* `Payload.ofDocument_ofItems` and `Feature.ofDocument_of_parse` follow the values through the
  reading of a feature.
* `Specification.features_ofDocument` is the result for loaded specifications.
-/

namespace Conformance

open Value (ItemsAlike EntriesAlike)

/-! ## Payloads -/

/-- The values of the payload hold no functions. -/
structure Payload.OfDocument (p : Payload) : Prop where
  args : ∀ β, ItemsAlike β p.args p.args
  kwargs : ∀ β, EntriesAlike β p.kwargs p.kwargs
  result : ∀ β, p.result.Alike β p.result

/-- The values of the feature hold no functions. -/
def Feature.OfDocument : Feature → Prop
  | .comment _ => True
  | .test t => Payload.OfDocument ⟨t.args, t.kwargs, t.result⟩

namespace Payload

lemma ofDocument_empty : empty.OfDocument :=
  ⟨fun _ => .nil, fun _ => .nil, fun _ => .null⟩

lemma OfDocument.add {p : Payload} (data : p.OfDocument) {v : Value} (plain : ∀ β, v.Alike β v) :
    (p.add (.ofValue v)).OfDocument := by
  unfold PayloadItem.ofValue
  split
  · rename_i key value
    have value_plain (β : Pairing) : value.Alike β value := by
      cases plain β with
      | object each =>
        cases each with
        | cons key first rest => exact first
    split
    · exact ⟨data.args, data.kwargs, value_plain⟩
    · split
      · exact ⟨data.args, fun β => (data.kwargs β).insert _ (value_plain β), data.result⟩
      · exact ⟨fun β => (data.args β).append (.cons (plain β) .nil), data.kwargs, data.result⟩
  · exact ⟨fun β => (data.args β).append (.cons (plain β) .nil), data.kwargs, data.result⟩

lemma ofDocument_ofItems {items : List Value} (plain : ∀ β, ItemsAlike β items items) :
    (ofItems items).OfDocument := by
  have from_any (p : Payload) (data : p.OfDocument) :
      (items.foldl (fun p item => p.add (.ofValue item)) p).OfDocument := by
    induction items generalizing p with
    | nil => exact data
    | cons item items ih =>
      have first (β : Pairing) : item.Alike β item := by
        cases plain β with
        | cons first rest => exact first
      have rest (β : Pairing) : ItemsAlike β items items := by
        cases plain β with
        | cons first rest => exact rest
      exact ih rest _ (data.add first)
  exact from_any empty ofDocument_empty

end Payload

/-- A right side is the payload of a call or the expected result. -/
lemma Payload.ofDocument_getD {v : Value} (plain : ∀ β, v.Alike β v) {called : Option (List Value)}
    (of_items : ∀ items, called = some items → v = .array items) :
    ((called.map ofItems).getD { Payload.empty with result := v }).OfDocument := by
  cases called with
  | none => exact ⟨ofDocument_empty.args, ofDocument_empty.kwargs, plain⟩
  | some items =>
    refine ofDocument_ofItems fun β => ?_
    have alike := plain β
    rw [of_items items rfl] at alike
    cases alike with
    | array each => exact each

/-! ## Features -/

namespace Feature

variable {views : Views} {runtime left : String} {v : Value} {f : Feature}

lemma ofDocument_of_parse_test {t : Test} (ok : Test.parse views runtime left v = .ok t)
    (plain : ∀ β, v.Alike β v) : (Feature.test t).OfDocument := by
  unfold Test.parse at ok
  split at ok
  · cases ok
  · dsimp only at ok
    split at ok
    · cases ok
    · cases ok
      refine Payload.ofDocument_getD plain fun items called => ?_
      split at called
      · cases v with
        | array others =>
          cases called
          rfl
        | _ => cases called
      · cases called

lemma ofDocument_of_parse (ok : Feature.parse views runtime v = .ok f)
    (plain : ∀ β, v.Alike β v) : f.OfDocument := by
  unfold Feature.parse at ok
  split at ok
  · rename_i text
    cases parsed : Comment.parse runtime text with
    | error e =>
      rw [parsed] at ok
      cases ok
    | ok c =>
      rw [parsed] at ok
      cases ok
      trivial
  · rename_i left right
    have right_plain (β : Pairing) : right.Alike β right := by
      cases plain β with
      | object each =>
        cases each with
        | cons key first rest => exact first
    cases parsed : Test.parse views runtime left right with
    | error e =>
      rw [parsed] at ok
      cases ok
    | ok t =>
      rw [parsed] at ok
      cases ok
      exact ofDocument_of_parse_test parsed right_plain
  · cases ok

end Feature

lemma ofDocument_of_parseEntries {runtime : String} {entries : List Yaml.Node}
    {features : List Feature} (ok : parseEntries runtime entries = .ok features) :
    ∀ f ∈ features, f.OfDocument := by
  have each := except_mapM_eq_ok_iff.mp ok
  clear ok
  induction each with
  | nil => simp
  | cons parsed _ others =>
    rw [List.forall_mem_cons]
    exact ⟨Feature.ofDocument_of_parse parsed fun β => Value.alike_ofNode β _, others⟩

/-- Skipping has nothing to do with values. -/
lemma ofDocument_of_inheritSkip {features : List Feature}
    (data : ∀ f ∈ features, f.OfDocument) (ambient : Bool) :
    ∀ f ∈ inheritSkip ambient features, f.OfDocument := by
  induction features generalizing ambient with
  | nil => simp [inheritSkip]
  | cons f features ih =>
    rw [List.forall_mem_cons] at data
    cases f with
    | comment c =>
      rw [inheritSkip, List.forall_mem_cons]
      exact ⟨trivial, ih data.2 c.skip⟩
    | test t =>
      rw [inheritSkip, List.forall_mem_cons]
      refine ⟨?_, ih data.2 ambient⟩
      split
      · exact data.1
      · exact data.1

/-- The features of a loaded specification hold no functions. -/
lemma Specification.features_ofDocument {σ : Type} {h : Host σ} {spec : Specification}
    (loaded : spec.Loaded h) : ∀ f ∈ spec.features, f.OfDocument := by
  obtain ⟨runtime, serial, nodes, ok⟩ := loaded
  obtain ⟨_, _, parsed, _, _, _, -, read, -, -, -, rfl⟩ := ofNodes_eq_some_iff.mp ok
  exact ofDocument_of_inheritSkip (ofDocument_of_parseEntries read) false

end Conformance
