import Conformance.Proofs.Assoc
import Conformance.Proofs.Feature.LeftSides
import Conformance.Proofs.Value.Position
import Conformance.Proofs.Yaml.Spelling

/-!
# Entries that survive conversion

A mapping of a document may have keys of every kind, and its value has strings.  Each key becomes a
text, and entries whose keys become the same text are merged.  So a mapping keeps its entries
exactly if its keys become different texts, and a document keeps its values, each at its place,
exactly if this holds of every mapping in it.  A mapping whose keys all become one text ends up with
a single entry, and that is what a test is read from.

## Parts

* `Value.keyOf` is the text of a key, and `Value.keyTexts` are those of a mapping.
* `Yaml.Node.child?` and `Yaml.Node.at?` are the positions inside a document, as those inside a
  value.
* `Value.at?_ofNode_iff` says when conversion keeps every position.
* `Value.nodup_keyTexts_iff` says when different scalar keys become different texts, and
  `Value.ofNode_eq_single_iff` when all keys of a mapping become one.
* `entries_kept_iff` is the result.
-/

namespace Conformance

open Yaml (Node)

/-! ## Positions inside a document -/

namespace Yaml.Node

/-- What stands directly inside a sequence or a mapping, local tags aside. -/
def child? : Node → ℕ → Option Node
  | .sequence items, n => items[n]?
  | .mapping entries, n => entries[n]?.map Prod.snd
  | .tagged _ content, n => content.child? n
  | _, _ => none

/-- What stands at a position inside a document.  The position lists the steps from outside to
inside. -/
def at? : Node → List ℕ → Option Node
  | node, [] => some node
  | node, n :: below => (node.child? n).bind (·.at? below)

@[simp] lemma at?_nil (node : Node) : node.at? [] = some node := rfl

lemma at?_cons (node : Node) (n : ℕ) (below : List ℕ) :
    node.at? (n :: below) = (node.child? n).bind (·.at? below) := rfl

lemma at?_append (node : Node) (above below : List ℕ) :
    node.at? (above ++ below) = (node.at? above).bind (·.at? below) := by
  induction above generalizing node with
  | nil => rfl
  | cons n above ih =>
    rw [List.cons_append, at?_cons, at?_cons, Option.bind_assoc]
    simp only [ih]

end Yaml.Node

namespace Value

/-! ## Keys and entries -/

/-- The text that a key becomes. -/
def keyOf (key : Node) : String :=
  keyText key (ofNode key)

/-- The texts that the keys of a mapping become. -/
def keyTexts (entries : List (Node × Node)) : List String :=
  entries.map fun entry => keyOf entry.1

/-- An entry with its key as a text. -/
def ofEntry (entry : Node × Node) : String × Value :=
  (keyOf entry.1, ofNode entry.2)

lemma ofItems_eq_map (items : List Node) : ofItems items = items.map ofNode := by
  induction items with
  | nil => rfl
  | cons item rest ih => rw [ofItems, ih, List.map_cons]

lemma ofEntries_eq_map (entries : List (Node × Node)) :
    ofEntries entries = entries.map ofEntry := by
  induction entries with
  | nil => rfl
  | cons entry rest ih =>
    rw [ofEntries, ih, List.map_cons]
    rfl

lemma ofNode_mapping (entries : List (Node × Node)) :
    ofNode (.mapping entries) = .object (Assoc.ofList (entries.map ofEntry)) := by
  rw [ofNode, ofEntries_eq_map]

lemma map_fst_ofEntry (entries : List (Node × Node)) :
    (entries.map ofEntry).map Prod.fst = keyTexts entries :=
  List.map_map

lemma keyTexts_append (before after : List (Node × Node)) :
    keyTexts (before ++ after) = keyTexts before ++ keyTexts after :=
  List.map_append

/-! ## Every position of a document -/

lemma child?_ofNumber (number : Yaml.Number) (n : ℕ) : (ofNumber number).child? n = none := by
  cases number with
  | float x => rfl
  | int i =>
    rw [ofNumber]
    split <;> rfl

/-- What stands directly inside is kept unless a mapping has keys that become one text. -/
lemma child?_ofNode_iff (node : Node) :
    (∀ n, (ofNode node).child? n = (node.child? n).map ofNode) ↔
      ∀ entries, node.untagged = .mapping entries → (keyTexts entries).Nodup := by
  fun_induction Node.untagged node with
  | case1 tag content ih => exact ih
  | case2 node untagged =>
    cases node with
    | tagged tag content => exact absurd rfl (untagged tag content)
    | mapping entries =>
      simp only [Node.mapping.injEq, forall_eq', ofNode_mapping, Value.child?, Node.child?,
        Option.map_map]
      rw [← map_fst_ofEntry]
      -- A merged entry is missing at the end, so the number of children gives it away.
      constructor
      · intro kept
        have values : (Assoc.ofList (entries.map ofEntry)).map Prod.snd =
            entries.map (ofNode ∘ Prod.snd) :=
          List.ext_getElem? fun n => by rw [List.getElem?_map, kept n, List.getElem?_map]
        have length := congrArg List.length values
        rw [List.length_map, List.length_map, ← List.length_map ofEntry] at length
        exact Assoc.length_ofList_eq_iff.mp length
      · intro distinct n
        rw [Assoc.ofList_eq_self_iff.mpr distinct, List.getElem?_map, Option.map_map]
        rfl
    | sequence items =>
      refine iff_of_true (fun n => ?_) fun _ mapping => nomatch mapping
      rw [ofNode, ofItems_eq_map]
      exact List.getElem?_map
    | number x =>
      refine iff_of_true (fun n => ?_) fun _ mapping => nomatch mapping
      rw [ofNode, child?_ofNumber]
      rfl
    | _ => exact iff_of_true (fun _ => rfl) fun _ mapping => nomatch mapping

/-- Conversion keeps every position unless there is a mapping, at any depth, with keys that become
one text. -/
lemma at?_ofNode_iff (node : Node) :
    (∀ position, (ofNode node).at? position = (node.at? position).map ofNode) ↔
      ∀ position entries, (node.at? position).map Node.untagged = some (.mapping entries) →
        (keyTexts entries).Nodup := by
  constructor
  -- What is kept at the positions right below a mapping is kept directly inside of it.
  · intro kept position entries found
    obtain ⟨part, there, bare⟩ := Option.map_eq_some_iff.mp found
    refine (child?_ofNode_iff part).mp (fun n => ?_) entries bare
    have below := kept (position ++ [n])
    rw [Value.at?_append, Node.at?_append, kept position, there] at below
    simpa [Value.at?_cons, Node.at?_cons] using below
  · intro distinct position
    induction position generalizing node with
    | nil => rfl
    | cons n below ih =>
      have here := (child?_ofNode_iff node).mpr fun entries bare =>
        distinct [] entries (by rw [Node.at?_nil, Option.map_some, bare])
      rw [Value.at?_cons, Node.at?_cons, here]
      cases there : node.child? n with
      | none => rfl
      | some child =>
        refine ih child fun position entries found => distinct (n :: position) entries ?_
        rw [Node.at?_cons, there]
        exact found

end Value

/-! ## Keys with different texts -/

namespace Value

/-- The text of a key that is null, a boolean or a number is read as the key. -/
lemma exists_plainNode_keyOf {key : Node} (word : key.Word) :
    ∃ read, Yaml.plainNode (keyOf key) = .ok read ∧ read.same key = true :=
  ⟨_, word.plainNode_keyText _, word.same_spelled⟩

/-- Among strings, null, booleans and numbers, different keys become one text only where a string
spells another key. -/
lemma nodup_keyTexts_iff {entries : List (Node × Node)}
    (distinct : entries.Pairwise fun entry other => entry.1.same other.1 = false)
    (scalars : ∀ entry ∈ entries, (∃ s, entry.1 = .string s) ∨ entry.1.Word) :
    (keyTexts entries).Nodup ↔
      ∀ entry ∈ entries, ∀ other ∈ entries, entry.1.Word →
        other.1 ≠ .string (keyOf entry.1) := by
  constructor
  · intro nodup entry there other other_there word spelled
    have one_text : keyOf other.1 = keyOf entry.1 := by
      rw [spelled]
      rfl
    rw [← List.inj_on_of_nodup_map nodup other_there there one_text, spelled] at word
    cases word
  · intro apart
    refine List.pairwise_map.mpr (distinct.imp_of_mem fun {entry other} there other_there => ?_)
    intro differ one_text
    rcases scalars entry there with ⟨s, string⟩ | word
    · rcases scalars other other_there with ⟨t, other_string⟩ | other_word
      · rw [string, other_string] at one_text differ
        obtain rfl : s = t := one_text
        simp [Node.same] at differ
      · refine apart other other_there entry there other_word ?_
        rw [← one_text, string]
        rfl
    · rcases scalars other other_there with ⟨t, other_string⟩ | other_word
      · refine apart entry there other other_there word ?_
        rw [one_text, other_string]
        rfl
      · have same := word.same_of_keyText_eq other_word one_text
        exact Bool.false_ne_true (differ.symm.trans same)

/-! ## Raw entries -/

/-- A mapping becomes a single entry exactly if all its keys become one text. -/
lemma ofNode_eq_single_iff {entries : List (Node × Node)} {left : String} {right : Value} :
    ofNode (.mapping entries) = .object [(left, right)] ↔
      ∃ before key value, entries = before ++ [(key, value)] ∧ left = keyOf key ∧
        right = ofNode value ∧ ∀ text ∈ keyTexts before, text = keyOf key := by
  rw [ofNode_mapping, object.injEq, Assoc.ofList_eq_singleton_iff]
  constructor
  · rintro ⟨front, split, one_text⟩
    obtain ⟨before, last, rfl, rfl, single⟩ := List.map_eq_append_iff.mp split
    obtain ⟨⟨key, value⟩, rfl, last_eq⟩ := List.map_eq_singleton_iff.mp single
    obtain ⟨rfl, rfl⟩ := Prod.mk.inj last_eq
    refine ⟨before, key, value, rfl, rfl, rfl, fun text there => ?_⟩
    obtain ⟨entry, mem, rfl⟩ := List.mem_map.mp there
    exact one_text _ (List.mem_map_of_mem mem)
  · rintro ⟨before, key, value, rfl, rfl, rfl, one_text⟩
    refine ⟨before.map ofEntry, List.map_append, fun binding there => ?_⟩
    obtain ⟨entry, mem, rfl⟩ := List.mem_map.mp there
    exact one_text _ (List.mem_map_of_mem mem)

lemma exists_single_iff {entries : List (Node × Node)} :
    (∃ left right, ofNode (.mapping entries) = .object [(left, right)]) ↔
      entries ≠ [] ∧ ∀ text ∈ keyTexts entries, ∀ other ∈ keyTexts entries, text = other := by
  simp only [ofNode_eq_single_iff]
  constructor
  · rintro ⟨_, _, before, key, value, rfl, -, -, one_text⟩
    have all_one : ∀ text ∈ keyTexts (before ++ [(key, value)]), text = keyOf key := by
      rw [keyTexts_append]
      exact List.forall_mem_append.mpr ⟨one_text, List.forall_mem_singleton.mpr rfl⟩
    exact ⟨by simp, fun text there other other_there =>
      (all_one text there).trans (all_one other other_there).symm⟩
  · rintro ⟨some_there, one_text⟩
    obtain ⟨before, ⟨key, value⟩, rfl⟩ := (List.eq_nil_or_concat' entries).resolve_left some_there
    rw [keyTexts_append] at one_text
    refine ⟨_, _, before, key, value, rfl, rfl, rfl, fun text there => ?_⟩
    exact one_text text (List.mem_append_left _ there) _ (List.mem_append_right _ (.head _))

end Value

/-- A raw entry is read as a test from the text that all its keys become and its last value. -/
lemma Feature.parse_of_one_text {views : Views} {runtime : String} {before : List (Node × Node)}
    {key value : Node} (one_text : ∀ text ∈ Value.keyTexts before, text = Value.keyOf key) :
    Feature.parse views runtime (.ofNode (.mapping (before ++ [(key, value)]))) =
      Feature.test <$> Test.parse views runtime (Value.keyOf key) (.ofNode value) := by
  rw [Value.ofNode_eq_single_iff.mpr ⟨before, key, value, rfl, rfl, rfl, one_text⟩,
    Feature.parse_single]

/-! ## The result -/

open Value

/-- **Which entries of a document survive.**  A mapping becomes one whose keys are the texts of its
keys, each once and in the order of first appearance, and each of them has the value of the last
entry whose key becomes it.  There are as many entries as before exactly if no two keys become one
text, and then they are the same entries in the same order.  Null, booleans and numbers keep their
spelling, which is read as the key again; so among these and strings, different keys become one text
only where a string spells another key.  A raw entry that is a mapping is taken for a test exactly
if all its keys become one text, and the test is read from that text and the value of the last
entry.

So the value of a document has the values of all its parts, each at its place, exactly if this holds
of every mapping at any depth. -/
theorem entries_kept_iff (entries : List (Node × Node)) (document : Node) (views : Views)
    (runtime : String) :
    (∃ converted : Mapping, ofNode (.mapping entries) = .object converted ∧
      converted.keys = (keyTexts entries).eraseDups ∧ converted.keys.Nodup ∧
      (∀ before key value after, entries = before ++ (key, value) :: after →
        keyOf key ∉ keyTexts after → converted.get? (keyOf key) = some (ofNode value)) ∧
      (converted.length = entries.length ↔ (keyTexts entries).Nodup) ∧
      (converted = entries.map ofEntry ↔ (keyTexts entries).Nodup)) ∧
    (∀ key : Node, key.Word →
      ∃ read, Yaml.plainNode (keyOf key) = .ok read ∧ read.same key = true) ∧
    (entries.Pairwise (fun entry other => entry.1.same other.1 = false) →
      (∀ entry ∈ entries, (∃ s, entry.1 = .string s) ∨ entry.1.Word) →
      ((keyTexts entries).Nodup ↔
        ∀ entry ∈ entries, ∀ other ∈ entries, entry.1.Word →
          other.1 ≠ .string (keyOf entry.1))) ∧
    ((¬ ∃ text, Feature.parse views runtime (ofNode (.mapping entries)) =
        .error (.notAFeature text)) ↔
      entries ≠ [] ∧ ∀ text ∈ keyTexts entries, ∀ other ∈ keyTexts entries, text = other) ∧
    (∀ before key value, entries = before ++ [(key, value)] →
      (∀ text ∈ keyTexts before, text = keyOf key) →
      Feature.parse views runtime (ofNode (.mapping entries)) =
        Feature.test <$> Test.parse views runtime (keyOf key) (ofNode value)) ∧
    ((∀ position, (ofNode document).at? position = (document.at? position).map ofNode) ↔
      ∀ position inner, (document.at? position).map Node.untagged = some (.mapping inner) →
        (keyTexts inner).Nodup) := by
  refine ⟨⟨_, ofNode_mapping entries, ?_, Assoc.nodup_keys_ofList _, ?_, ?_, ?_⟩,
    fun _ => exists_plainNode_keyOf, nodup_keyTexts_iff, ?_, ?_, at?_ofNode_iff document⟩
  · rw [Assoc.keys_ofList, map_fst_ofEntry]
  · rintro before key value after rfl last
    rw [List.map_append, List.map_cons]
    refine Assoc.get?_ofList_append_cons _ ?_ _
    rwa [map_fst_ofEntry]
  · rw [← map_fst_ofEntry, ← Assoc.length_ofList_eq_iff, List.length_map]
  · rw [← map_fst_ofEntry, Assoc.ofList_eq_self_iff]
  · rw [← exists_single_iff, ofNode_mapping, Feature.exists_notAFeature_iff, not_not]
    simp only [object.injEq]
  · rintro before key value rfl one_text
    exact Feature.parse_of_one_text one_text

/-! ### A number and the string that spells it -/

/-- Two different keys that become one text. -/
def numberedEntries : List (Node × Node) :=
  [(.number (.int 1), .string "a"), (.string "1", .string "b")]

lemma numberedEntries_distinct :
    numberedEntries.Pairwise fun entry other => entry.1.same other.1 = false := by
  simp [numberedEntries, Node.same]

lemma keyTexts_numberedEntries : keyTexts numberedEntries = ["1", "1"] := by
  decide

/-- Keys of many kinds, none of which spells another one. -/
def scalarEntries : List (Node × Node) :=
  [(.null, .string "a"), (.bool true, .string "b"), (.number (.int 1), .string "c"),
    (.number (.float ⟨0x3FF0000000000000⟩), .string "d"), (.string "one", .string "e")]

lemma scalarEntries_distinct :
    scalarEntries.Pairwise fun entry other => entry.1.same other.1 = false := by
  simp [scalarEntries, Node.same, Yaml.Number.same]

lemma scalar_of_mem_scalarEntries :
    ∀ entry ∈ scalarEntries, (∃ s, entry.1 = .string s) ∨ entry.1.Word := by
  simp only [scalarEntries, List.forall_mem_cons]
  exact ⟨.inr .null, .inr (.bool true), .inr (.int (by decide) (by decide)), .inr (.float _),
    .inl ⟨_, rfl⟩, by simp⟩

lemma apart_of_mem_scalarEntries :
    ∀ entry ∈ scalarEntries, ∀ other ∈ scalarEntries, entry.1.Word →
      other.1 ≠ .string (keyOf entry.1) := by
  intro entry there other other_there word spelled
  simp only [scalarEntries, List.mem_cons, List.not_mem_nil, or_false] at there other_there
  have one : keyOf entry.1 = "one" := by
    rcases other_there with rfl | rfl | rfl | rfl | rfl
    case inr.inr.inr.inr => exact (Node.string.inj spelled).symm
    all_goals cases spelled
  rcases there with rfl | rfl | rfl | rfl | rfl
  case inr.inr.inr.inr => cases word
  all_goals exact absurd one (by decide)

/-- The two entries become one, which is taken for a test, and a sequence around them loses what
only the first one has.  Keys of many kinds side by side are kept. -/
theorem numbered_entries_merged :
    (∃ converted : Mapping, ofNode (.mapping numberedEntries) = .object converted ∧
      converted.keys = ["1"] ∧ converted.get? "1" = some (.string "b")) ∧
    (∃ position, (ofNode (.sequence [.mapping numberedEntries])).at? position ≠
      ((Node.sequence [.mapping numberedEntries]).at? position).map ofNode) ∧
    (¬ ∃ text, Feature.parse .none "rs" (ofNode (.mapping numberedEntries)) =
      .error (.notAFeature text)) ∧
    ∃ converted : Mapping, ofNode (.mapping scalarEntries) = .object converted ∧
      converted = scalarEntries.map ofEntry := by
  obtain ⟨⟨converted, same, keys, -, last, -⟩, -, -, refused, -, kept⟩ :=
    entries_kept_iff numberedEntries (.sequence [.mapping numberedEntries]) .none "rs"
  obtain ⟨⟨scalars, scalars_same, -, -, -, -, all_kept⟩, -, apart, -⟩ :=
    entries_kept_iff scalarEntries .null .none "rs"
  rw [keyTexts_numberedEntries] at keys refused
  refine ⟨⟨converted, same, keys, ?_⟩, ?_, refused.mpr ⟨List.cons_ne_nil _ _, by simp⟩,
    scalars, scalars_same, all_kept.mpr ?_⟩
  · exact last [(.number (.int 1), .string "a")] (.string "1") (.string "b") [] rfl
      (by simp [keyTexts])
  · by_contra always
    simp only [not_exists, not_not] at always
    have distinct := kept.mp always [0] numberedEntries rfl
    rw [keyTexts_numberedEntries] at distinct
    simp at distinct
  · exact (apart scalarEntries_distinct scalar_of_mem_scalarEntries).mpr apart_of_mem_scalarEntries

/-- Keys that are different in a document may become one text, and then an entry is lost. -/
theorem not_entries_kept :
    ¬ ∀ entries : List (Node × Node),
      entries.Pairwise (fun entry other => entry.1.same other.1 = false) →
      ∃ converted : Mapping, ofNode (.mapping entries) = .object converted ∧
        converted.length = entries.length := by
  intro kept
  obtain ⟨converted, same, length⟩ := kept numberedEntries numberedEntries_distinct
  rw [ofNode_mapping] at same
  obtain rfl := object.inj same
  have distinct := Assoc.length_ofList_eq_iff.mp (length.trans (List.length_map ofEntry).symm)
  rw [map_fst_ofEntry, keyTexts_numberedEntries] at distinct
  simp at distinct

end Conformance
