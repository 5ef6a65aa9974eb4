import Conformance.Binary64.Text
import Conformance.Proofs.Json.Token

/-!
# Characters in the text of a number

The text of a number has digits, a point, an `e`, minus signs, and otherwise only what its layout
puts there.  A finite number always shows a point or an `e`, which an integer never does.

## Parts

* `Binary64.Foreign` are the characters that neither decimals nor a layout have, and
  `Binary64.notMem_render` keeps them out of the text.
* `Binary64.mark_mem_render` is about finite numbers.
-/

namespace Conformance.Binary64

open Text

/-- A character that decimals do not have, a plus aside. -/
structure Foreign (c : Char) : Prop where
  no_digit : c.isDigit = false
  no_point : c ≠ '.'
  no_e : c ≠ 'e'
  no_minus : c ≠ '-'

/-- A layout that does not have the character either. -/
structure Layout.Lacks (layout : Layout) (c : Char) : Prop where
  plus : c ∉ layout.plus
  nan : c ∉ layout.nan
  infinite : c ∉ layout.infinite
  negativeInfinite : c ∉ layout.negativeInfinite

variable {layout : Layout} {c : Char} {digits : List Char}

lemma Foreign.ne_zero (foreign : Foreign c) : c ≠ '0' := by
  rintro rfl
  exact absurd foreign.no_digit (by decide)

lemma Foreign.notMem_natDigits (foreign : Foreign c) (n : ℕ) : c ∉ natDigits n := by
  intro mem
  exact Bool.false_ne_true (foreign.no_digit.symm.trans (Json.isDigit_of_mem_natDigits mem))

lemma Foreign.notMem_intDigits (foreign : Foreign c) (i : ℤ) : c ∉ intDigits i := by
  intro mem
  rcases Json.mem_intDigits mem with minus | digit
  · exact foreign.no_minus minus
  · exact Bool.false_ne_true (foreign.no_digit.symm.trans digit)

lemma Foreign.notMem_plainDecimal (foreign : Foreign c) (clean : c ∉ digits) (place : ℤ) :
    c ∉ plainDecimal digits place := by
  have taken (n : ℕ) : c ∉ digits.take n := fun mem => clean (List.mem_of_mem_take mem)
  have dropped (n : ℕ) : c ∉ digits.drop n := fun mem => clean (List.mem_of_mem_drop mem)
  unfold plainDecimal
  split
  · simp [clean, foreign.ne_zero, foreign.no_point]
  · dsimp only
    split
    · simp [taken, dropped, foreign.no_point]
    · simp [clean, foreign.ne_zero, foreign.no_point]

lemma Foreign.notMem_scientific (foreign : Foreign c) (lacks : layout.Lacks c) (clean : c ∉ digits)
    (exponent : ℤ) : c ∉ scientific layout digits exponent := by
  have taken : c ∉ digits.take 1 := fun mem => clean (List.mem_of_mem_take mem)
  have dropped : c ∉ digits.tail := fun mem => clean (List.mem_of_mem_tail mem)
  have power := foreign.notMem_intDigits exponent
  unfold scientific
  dsimp only
  split <;> split <;> simp [taken, dropped, power, lacks.plus, foreign.no_point, foreign.no_e]

lemma Foreign.notMem_decimalText (foreign : Foreign c) (lacks : layout.Lacks c) (n : ℕ)
    (place : ℤ) : c ∉ decimalText layout n place := by
  unfold decimalText
  dsimp only
  split
  · exact foreign.notMem_plainDecimal (foreign.notMem_natDigits n) place
  · exact foreign.notMem_scientific lacks (foreign.notMem_natDigits n) _

/-- What neither decimals nor the layout have does not occur. -/
lemma Foreign.notMem_render (foreign : Foreign c) (lacks : layout.Lacks c) (x : Binary64) :
    c ∉ x.render layout := by
  have sign (negative : Bool) : c ∉ if negative then ['-'] else [] := by
    cases negative <;> simp [foreign.no_minus]
  unfold render
  split
  · exact lacks.nan
  · exact lacks.infinite
  · exact lacks.negativeInfinite
  · dsimp only
    split
    · simp [sign, foreign.ne_zero, foreign.no_point]
    · simp [sign, foreign.notMem_decimalText lacks]

/-! ## The marks of a decimal -/

lemma point_mem_plainDecimal (place : ℤ) : '.' ∈ plainDecimal digits place := by
  unfold plainDecimal
  split
  · simp
  · dsimp only
    split <;> simp

lemma e_mem_scientific (exponent : ℤ) : 'e' ∈ scientific layout digits exponent := by
  simp [scientific]

lemma mark_mem_decimalText (n : ℕ) (place : ℤ) :
    '.' ∈ decimalText layout n place ∨ 'e' ∈ decimalText layout n place := by
  unfold decimalText
  dsimp only
  split
  · exact Or.inl (point_mem_plainDecimal place)
  · exact Or.inr (e_mem_scientific _)

/-- A finite number shows a point or an `e`. -/
lemma mark_mem_render {x : Binary64} {negative : Bool} {coefficient : ℕ} {exponent : ℤ}
    (datum : x.datum = .finite negative coefficient exponent) :
    '.' ∈ x.render layout ∨ 'e' ∈ x.render layout := by
  unfold render
  rw [datum]
  dsimp only
  by_cases zero : coefficient = 0
  · rw [if_pos zero]
    exact Or.inl (by simp)
  · rw [if_neg zero]
    exact (mark_mem_decimalText _ _).imp (List.mem_append_right _) (List.mem_append_right _)

end Conformance.Binary64
