import Mathlib.Data.List.Lex
import Mathlib.Data.String.Basic

/-!
# The order of strings by their bytes

Strings are ordered by their characters, and the order is the same as that of their bytes in UTF-8.
A character with a larger code never has a smaller encoding, whatever follows either of the two:
encodings of one length hold the code in sextets, the highest first, and a longer encoding starts
with a larger byte than a shorter one.

## Parts

* `octets` are the bytes of a string.
* `utf8EncodeChar_append_lt` compares the encodings of two characters.
* `octets_lt_iff` compares strings.
-/

namespace Conformance.Text

/-- The bytes of a string in UTF-8. -/
def octets (s : String) : List UInt8 :=
  s.toUTF8.data.toList

lemma octets_eq_flatMap (s : String) : octets s = s.toList.flatMap String.utf8EncodeChar := by
  have encoded : s.toUTF8 = s.toList.utf8Encode := by
    conv_lhs => rw [← String.ofList_toList (s := s)]
    exact String.toByteArray_ofList
  rw [octets, encoded, List.utf8Encode, List.toList_data_toByteArray]

/-! ## Characters -/

/-- A code is the sum of its sextets. -/
lemma eq_sextets (v : ℕ) :
    v = 262144 * (v / 262144) + 4096 * (v / 4096 % 64) + 64 * (v / 64 % 64) + v % 64 := by
  omega

lemma toNat_val_lt (c : Char) : c.val.toNat < 1114112 := by
  have valid := c.valid
  simp only [UInt32.isValidChar, Nat.isValidChar] at valid
  omega

/-- The encoding of a smaller character is smaller, whatever follows. -/
lemma utf8EncodeChar_append_lt {c d : Char} (lt : c < d) (rest rest' : List UInt8) :
    String.utf8EncodeChar c ++ rest < String.utf8EncodeChar d ++ rest' := by
  have codes_lt : c.val.toNat < d.val.toNat := lt
  have c_lt := toNat_val_lt c
  have d_lt := toNat_val_lt d
  have c_sextets := eq_sextets c.val.toNat
  have d_sextets := eq_sextets d.val.toNat
  unfold String.utf8EncodeChar
  dsimp only
  generalize c.val.toNat = v at *
  generalize d.val.toNat = w at *
  -- One case for each two lengths; where the lengths are the same, the sextets decide.
  split_ifs <;>
    simp only [List.cons_append, List.nil_append, List.cons_lt_cons_iff, UInt8.lt_iff_toNat_lt,
      ← UInt8.toNat_inj, UInt8.toNat_ofNat'] <;>
    simp (disch := omega) only [Nat.mod_eq_of_lt] <;>
    omega

lemma utf8EncodeChar_ne_nil (c : Char) : String.utf8EncodeChar c ≠ [] := by
  unfold String.utf8EncodeChar
  dsimp only
  split_ifs <;> simp

/-! ## Strings -/

lemma flatMap_utf8EncodeChar_lt {chars others : List Char} (lt : chars < others) :
    chars.flatMap String.utf8EncodeChar < others.flatMap String.utf8EncodeChar := by
  induction chars generalizing others with
  | nil =>
    cases others with
    | nil => exact absurd lt (List.not_lt_nil [])
    | cons d others =>
      rw [List.flatMap_nil, List.flatMap_cons]
      obtain ⟨first, more, eq⟩ := List.exists_cons_of_ne_nil (utf8EncodeChar_ne_nil d)
      rw [eq]
      exact List.nil_lt_cons first _
  | cons c chars ih =>
    cases others with
    | nil => exact absurd lt (List.not_lt_nil _)
    | cons d others =>
      rw [List.flatMap_cons, List.flatMap_cons]
      rcases List.cons_lt_cons_iff.mp lt with below | ⟨rfl, behind⟩
      · exact utf8EncodeChar_append_lt below _ _
      · exact List.append_left_lt (ih behind)

lemma octets_lt {s t : String} (lt : s < t) : octets s < octets t := by
  rw [octets_eq_flatMap, octets_eq_flatMap]
  exact flatMap_utf8EncodeChar_lt (String.lt_iff_toList_lt.mp lt)

/-- Strings are ordered as their bytes are. -/
theorem octets_lt_iff {s t : String} : octets s < octets t ↔ s < t := by
  refine ⟨fun lt => ?_, octets_lt⟩
  rcases lt_trichotomy s t with below | rfl | above
  · exact below
  · exact absurd lt (List.lt_irrefl _)
  · exact absurd (octets_lt above) (List.lt_asymm lt)

end Conformance.Text
