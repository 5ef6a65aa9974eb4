import Conformance.Proofs.Binary64.Characters
import Conformance.Proofs.Binary64.ReadBack
import Conformance.Yaml.Node.Scalar

/-!
# The spelling of keys

A key that is null, a boolean or a number keeps its spelling: read as a plain scalar of a document,
its text is that key again.  So different keys of these kinds have different texts.

## Parts

* `Yaml.Marked` are the texts that show a point or an `e` and are no integers, the texts of
  floating-point numbers among them.
* `Yaml.integer?_intDigits` and `Yaml.float?_render` read numbers back.
* `Yaml.plainNode_intDigits` and `Yaml.plainNode_render` read them as plain scalars.
* `Yaml.Node.Word` are the keys, and `Yaml.Node.Word.plainNode_keyText` is the result.
-/

namespace Conformance.Yaml

open Text
open Binary64 (Foreign)
open Value (keyLayout)

/-! ## Texts that are no integers -/

/-- The text shows a point or an `e`, and no mark of a number base. -/
structure Marked (text : List Char) : Prop where
  mark : '.' ∈ text ∨ 'e' ∈ text
  no_base : ∀ c ∈ ['x', 'o', 'b'], c ∉ text

variable {text : List Char} {c : Char}

lemma Marked.tail (marked : Marked (c :: text)) (no_point : c ≠ '.') (no_e : c ≠ 'e') :
    Marked text where
  mark := marked.mark.imp (fun mem => List.mem_of_ne_of_mem no_point.symm mem)
    fun mem => List.mem_of_ne_of_mem no_e.symm mem
  no_base := fun base there mem => marked.no_base base there (List.mem_cons_of_mem _ mem)

lemma Marked.not_all_digits (marked : Marked text) : text.all Char.isDigit = false := by
  rw [List.all_eq_false]
  exact marked.mark.elim (fun mem => ⟨'.', mem, by decide⟩) fun mem => ⟨'e', mem, by decide⟩

lemma Marked.readNat?_eq (marked : Marked text) : readNat? text = none := by
  simp [readNat?, marked.not_all_digits]

lemma Marked.readBased?_eq (marked : Marked text) : readBased? text = none := by
  have no_base (c : Char) (more : List Char) (start : text = c :: more) : c ∉ ['x', 'o', 'b'] :=
    fun there => marked.no_base c there (start ▸ List.mem_cons_self)
  unfold readBased?
  split
  case h_4 => rfl
  all_goals exact absurd (by decide) (no_base _ _ rfl)

lemma Marked.readMagnitude?_eq (marked : Marked text) : readMagnitude? text = none := by
  unfold readMagnitude?
  split
  case h_1 more =>
    rw [(marked.tail (by decide) (by decide)).readBased?_eq]
    dsimp only
    split
    · rfl
    · exact marked.readNat?_eq
  case h_2 => exact marked.readNat?_eq

lemma Marked.integer?_eq (marked : Marked text) : integer? text = none := by
  unfold integer?
  split
  · rw [(marked.tail (by decide) (by decide)).readMagnitude?_eq]
    rfl
  · rw [(marked.tail (by decide) (by decide)).readMagnitude?_eq]
    rfl
  · rw [marked.readMagnitude?_eq]
    rfl

lemma Marked.hasLeadingZero_eq (marked : Marked text) : hasLeadingZero text = false := by
  have no_digits {rest : List Char} (zero : Marked ('0' :: rest)) :
      (!rest.isEmpty && rest.all Char.isDigit) = false := by
    rw [(zero.tail (by decide) (by decide)).not_all_digits, Bool.and_false]
  unfold hasLeadingZero
  dsimp only
  split
  case h_1 rest bare =>
    split at bare
    · exact no_digits (bare ▸ marked.tail (by decide) (by decide))
    · exact no_digits (bare ▸ marked.tail (by decide) (by decide))
    · exact no_digits (bare ▸ marked)
  case h_2 => rfl

/-- The text of a floating-point number is no integer. -/
lemma marked_render (x : Binary64) : Marked (x.render keyLayout) where
  mark := by
    cases datum : x.datum with
    | nan =>
      rw [Binary64.render, datum]
      exact Or.inl (by decide)
    | infinite negative =>
      rw [Binary64.render, datum]
      cases negative <;> exact Or.inl (by decide)
    | finite => exact Binary64.mark_mem_render datum
  no_base := by
    intro c there
    simp only [List.mem_cons, List.not_mem_nil, or_false] at there
    have foreign : Foreign c ∧ keyLayout.Lacks c := by
      rcases there with rfl | rfl | rfl
      all_goals exact ⟨by constructor <;> decide, by constructor <;> decide⟩
    exact foreign.1.notMem_render foreign.2 x

/-! ## Numbers read back -/

lemma readMagnitude?_natDigits (n : ℕ) : readMagnitude? (natDigits n) = some n := by
  by_cases zero : n = 0
  · rw [zero]
    decide
  · unfold readMagnitude?
    split
    case h_1 more digits =>
      exact absurd (Json.eq_zero_of_head?_natDigits (by rw [digits]; rfl)) zero
    case h_2 => exact readNat?_natDigits n

lemma integer?_intDigits (i : ℤ) : integer? (intDigits i) = some i := by
  cases i with
  | ofNat n =>
    unfold integer? intDigits
    split
    case h_1 minus => exact absurd minus (natDigits_ne_cons (by decide))
    case h_2 plus => exact absurd plus (natDigits_ne_cons (by decide))
    case h_3 => exact congrArg (Option.map Int.ofNat) (readMagnitude?_natDigits n)
  | negSucc n =>
    show (readMagnitude? (natDigits (n + 1))).map (fun m => -(m : ℤ)) = some (Int.negSucc n)
    rw [readMagnitude?_natDigits]
    rfl

/-- A text that can be read is none of the words that cannot. -/
lemma contains_eq_false {α : Type} {read : List Char → Option α} {words : List String} {v : α}
    (reads : read text = some v) (no_word : ∀ word ∈ words, read word.toList = none) :
    words.contains (String.ofList text) = false := by
  rw [Bool.eq_false_iff, ne_eq, List.contains_iff_mem]
  intro there
  rw [← String.toList_ofList (l := text), no_word _ there] at reads
  cases reads

/-- A NaN is read back as the one that documents have. -/
lemma float?_render (x : Binary64) :
    float? (x.render keyLayout) = some (if x.isNan then .nan else x) := by
  cases datum : x.datum with
  | nan =>
    rw [if_pos ((Binary64.isNan_iff x).mpr datum), Binary64.render, datum]
    decide
  | infinite negative =>
    have number : x.isNan ≠ true := by simp [Binary64.isNan_iff, datum]
    rw [if_neg number, Binary64.render, datum, Binary64.eq_infinite_of_datum datum]
    cases negative <;> decide
  | finite negative coefficient exponent =>
    have number : x.isNan ≠ true := by simp [Binary64.isNan_iff, datum]
    have reads : Binary64.read? (x.render keyLayout) = some x :=
      Binary64.read?_render (Or.inl rfl) datum
    have finite : x.magnitude < Binary64.infiniteMagnitude :=
      (Binary64.normal_of_datum datum).2.2.2
    unfold float?
    dsimp only
    rw [contains_eq_false reads (by decide), contains_eq_false reads (by decide),
      contains_eq_false reads (by decide), if_neg number, finite?, reads]
    simp [finite]

/-! ## Plain scalars -/

/-- The texts of plain scalars that are null or a boolean. -/
def words : List String :=
  ["", "null", "Null", "NULL", "~", "true", "True", "TRUE", "false", "False", "FALSE"]

/-- A text that spells a number spells neither null nor a boolean. -/
lemma plainNode_eq {α : Type} {read : List Char → Option α} {v : α} (reads : read text = some v)
    (no_word : ∀ word ∈ words, read word.toList = none) :
    plainNode (String.ofList text) = (do
      match ← integerNumber? text with
      | some n => return .number n
      | none =>
        if hasLeadingZero text then return .string (String.ofList text)
        else
          match float? text with
          | some x => return .number (.float x)
          | none => return .string (String.ofList text)) := by
  have other (some_words : List String) (among : some_words ⊆ words) :
      some_words.contains (String.ofList text) = false :=
    contains_eq_false reads fun word there => no_word word (among there)
  have some_text : (String.ofList text).isEmpty = false := by
    have no_empty := other [""] (by decide)
    simpa using no_empty
  have no_null : isNullWord (String.ofList text) = false := other _ (by decide)
  have no_bool : boolWord? (String.ofList text) = none := by
    unfold boolWord?
    rw [other _ (by decide), other _ (by decide)]
    rfl
  unfold plainNode
  rw [some_text, no_null, no_bool, String.toList_ofList]
  rfl

/-- An integer of 64 bits, signed or not. -/
lemma plainNode_intDigits {i : ℤ} (least : Int64.minValue.toInt ≤ i)
    (greatest : i < (UInt64.size : ℤ)) :
    plainNode (String.ofList (intDigits i)) = .ok (.number (.int i)) := by
  have read := integer?_intDigits i
  have number : integerNumber? (intDigits i) = .ok (some (.int i)) := by
    rw [integerNumber?, read]
    exact if_pos ⟨least, greatest⟩
  rw [plainNode_eq read (by decide), number]
  rfl

lemma plainNode_render (x : Binary64) :
    plainNode (String.ofList (x.render keyLayout)) =
      .ok (.number (.float (if x.isNan then .nan else x))) := by
  have read := float?_render x
  have marked := marked_render x
  have no_integer : integerNumber? (x.render keyLayout) = .ok none := by
    rw [integerNumber?, marked.integer?_eq]
  rw [plainNode_eq read (by decide), no_integer, read, marked.hasLeadingZero_eq]
  rfl

/-! ## Keys -/

/-- Null, a boolean or a number of a document. -/
inductive Node.Word : Node → Prop
  | null : Word .null
  | bool (b : Bool) : Word (.bool b)
  | int {i : ℤ} (least : Int64.minValue.toInt ≤ i) (greatest : i < (UInt64.size : ℤ)) :
      Word (.number (.int i))
  | float (x : Binary64) : Word (.number (.float x))

/-- The key as it is read back.  There is one NaN in documents. -/
def Node.spelled : Node → Node
  | .number (.float x) => .number (.float (if x.isNan then .nan else x))
  | node => node

lemma isNan_nan : Binary64.nan.isNan = true := by
  decide

lemma Node.spelled_eq_self_or (key : Node) :
    key.spelled = key ∨ ∃ x : Binary64, x.isNan = true ∧ key = .number (.float x) := by
  unfold spelled
  split
  case h_1 x =>
    split_ifs with nan
    · exact Or.inr ⟨x, nan, rfl⟩
    · exact Or.inl rfl
  case h_2 => exact Or.inl rfl

lemma Node.Word.same_spelled {key : Node} (word : key.Word) : key.spelled.same key = true := by
  rcases key.spelled_eq_self_or with kept | ⟨x, nan, rfl⟩
  · rw [kept]
    cases word with
    | float x =>
      by_cases nan : x.isNan = true
      · simp [Node.same, Number.same, nan]
      · simp [Node.same, Number.same, nan, Binary64.equal_self]
    | _ => simp [Node.same, Number.same]
  · simp [spelled, Node.same, Number.same, nan, isNan_nan]

/-- **A key of these kinds keeps its spelling**: its text is read as the key. -/
theorem Node.Word.plainNode_keyText {key : Node} (word : key.Word) (value : Value) :
    plainNode (Value.keyText key value) = .ok key.spelled := by
  cases word with
  | null => rfl
  | bool b => cases b <;> rfl
  | int least greatest => exact plainNode_intDigits least greatest
  | float x => exact plainNode_render x

/-- Different keys of these kinds have different texts. -/
lemma Node.Word.same_of_keyText_eq {key other : Node} (word : key.Word) (other_word : other.Word)
    {value other_value : Value}
    (one_text : Value.keyText key value = Value.keyText other other_value) :
    key.same other = true := by
  have read := word.plainNode_keyText value
  rw [one_text, other_word.plainNode_keyText] at read
  have same : key.spelled.same other = true := by
    rw [← Except.ok.inj read]
    exact other_word.same_spelled
  rcases key.spelled_eq_self_or with kept | ⟨x, nan, rfl⟩
  · rwa [kept] at same
  · cases other_word with
    | float y => simpa [spelled, Node.same, Number.same, Binary64.equal, nan, isNan_nan] using same
    | _ => simp [spelled, Node.same, Number.same] at same

end Conformance.Yaml
