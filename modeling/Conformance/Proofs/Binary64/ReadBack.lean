import Conformance.Proofs.Binary64.Shortest
import Conformance.Proofs.Json.Token

/-!
# Numbers read back from their text

A finite number is read back from its text, whatever the layout says about plain and scientific
notation, as long as it puts nothing but a plus in front of an exponent.

## Parts

* `Text.readInt?_intDigits` is about integers, and exponents are integers.
* `Binary64.Reads` says which rational number an unsigned decimal stands for.
* `Binary64.reads_plainDecimal` and `Binary64.reads_scientific` are the two notations.
* `Binary64.read?_render` is the result.
-/

namespace Conformance

/-! ## Numerals -/

namespace Text

lemma natOfDigits_append (front back : List Char) :
    natOfDigits (front ++ back) = natOfDigits front * 10 ^ back.length + natOfDigits back := by
  refine (Nat.ofDigitChars_append (b := 10) 0).trans ?_
  rw [Nat.ofDigitChars_eq_ofDigitChars_zero, Nat.mul_comm]
  rfl

lemma natOfDigits_replicate_zero (k : ℕ) : natOfDigits (List.replicate k '0') = 0 := by
  induction k with
  | zero => rfl
  | succ k ih =>
    rw [List.replicate_succ', natOfDigits_append, ih]
    rfl

lemma readNat?_natDigits (n : ℕ) : readNat? (natDigits n) = some n := by
  have some_digits : (natDigits n).isEmpty = false := by
    simp [natDigits, Nat.toDigits_ne_nil]
  have digits : (natDigits n).all Char.isDigit = true :=
    List.all_eq_true.mpr fun _ mem => Json.isDigit_of_mem_natDigits mem
  rw [readNat?, some_digits, if_neg Bool.false_ne_true, if_pos digits,
    Json.natOfDigits_natDigits]

/-- A written number starts with a digit. -/
lemma natDigits_ne_cons {n : ℕ} {c : Char} {more : List Char} (no_digit : c.isDigit = false) :
    natDigits n ≠ c :: more := by
  intro digits
  have digit : c.isDigit = true :=
    Json.isDigit_of_mem_natDigits (n := n) (digits ▸ List.mem_cons_self)
  exact Bool.false_ne_true (no_digit.symm.trans digit)

lemma readInt?_natDigits (n : ℕ) : readInt? (natDigits n) = some n := by
  unfold readInt?
  split
  case h_1 minus => exact absurd minus (natDigits_ne_cons (by decide))
  case h_2 plus => exact absurd plus (natDigits_ne_cons (by decide))
  case h_3 =>
    rw [readNat?_natDigits]
    rfl

lemma readInt?_intDigits (i : ℤ) : readInt? (intDigits i) = some i := by
  cases i with
  | ofNat n => exact readInt?_natDigits n
  | negSucc n => simp [intDigits, readInt?, readNat?_natDigits, Int.negSucc_eq]

end Text

namespace Binary64

open Text

/-! ## Exponents -/

/-- Positive exponents are written without a sign, or with a plus. -/
def Layout.Readable (layout : Layout) : Prop :=
  layout.plus = [] ∨ layout.plus = ['+']

variable {layout : Layout}

lemma readExponent?_intDigits (readable : layout.Readable) (k : ℤ) :
    readExponent? ('e' :: (if 0 ≤ k then layout.plus else []) ++ intDigits k) = some k := by
  have unsigned : readExponent? ('e' :: intDigits k) = some k := readInt?_intDigits k
  split_ifs with nonneg
  · rcases readable with none | plus
    · rwa [none]
    · obtain ⟨n, rfl⟩ := Int.eq_ofNat_of_zero_le nonneg
      rw [plus]
      show (readNat? (natDigits n)).map Int.ofNat = some (n : ℤ)
      rw [readNat?_natDigits]
      rfl
  · exact unsigned

/-! ## Unsigned decimals -/

/-- The text is read as a decimal of this value, under both signs. -/
def Reads (text : List Char) (q : ℚ) : Prop :=
  ∃ (n : ℕ) (place : ℤ), n * 10 ^ place = q ∧
    ∀ negative, readUnsigned? negative text = some (ofDecimal negative n place)

variable {whole fraction rest : List Char} {k : ℤ}

/-- The text does not go on with a digit. -/
def EndsDigits (text : List Char) : Prop :=
  ∀ c, text.head? = some c → c.isDigit = false

lemma split_digits (all_digits : ∀ c ∈ whole, c.isDigit = true) (ends : EndsDigits rest) :
    (whole ++ rest).takeWhile Char.isDigit = whole ∧
      (whole ++ rest).dropWhile Char.isDigit = rest := by
  have taken : rest.takeWhile Char.isDigit = [] ∧ rest.dropWhile Char.isDigit = rest := by
    cases rest with
    | nil => exact ⟨rfl, rfl⟩
    | cons c more =>
      have no_digit := ends c rfl
      simp [no_digit]
  rw [List.takeWhile_append_of_pos all_digits, List.dropWhile_append_of_pos all_digits, taken.1,
    taken.2, List.append_nil]
  exact ⟨rfl, rfl⟩

/-- Digits around a point. -/
lemma reads_point (some_digits : whole ≠ []) (whole_digits : ∀ c ∈ whole, c.isDigit = true)
    (fraction_digits : ∀ c ∈ fraction, c.isDigit = true) (ends : EndsDigits rest)
    (exponent : readExponent? rest = some k) :
    Reads (whole ++ '.' :: (fraction ++ rest))
      (natOfDigits (whole ++ fraction) * 10 ^ (k - fraction.length)) := by
  refine ⟨_, _, rfl, fun negative => ?_⟩
  have point : EndsDigits ('.' :: (fraction ++ rest)) := by
    rintro c ⟨rfl⟩
    rfl
  obtain ⟨taken, left⟩ := split_digits whole_digits point
  obtain ⟨taken', left'⟩ := split_digits fraction_digits ends
  unfold readUnsigned?
  simp only [taken, left, taken', left', exponent, Option.map_some]
  simp [some_digits]

/-- Digits without a point. -/
lemma reads_whole (some_digits : whole ≠ []) (whole_digits : ∀ c ∈ whole, c.isDigit = true)
    (ends : EndsDigits rest) (no_point : rest.head? ≠ some '.')
    (exponent : readExponent? rest = some k) :
    Reads (whole ++ rest) (natOfDigits whole * 10 ^ k) := by
  refine ⟨natOfDigits whole, k, rfl, fun negative => ?_⟩
  obtain ⟨taken, left⟩ := split_digits whole_digits ends
  unfold readUnsigned?
  simp only [taken, left]
  split
  case h_1 => exact absurd rfl no_point
  case h_2 => simp [some_digits, exponent]

/-- Digits around a point and nothing behind them. -/
lemma reads_fraction {q : ℚ} (some_digits : whole ≠ [])
    (whole_digits : ∀ c ∈ whole, c.isDigit = true)
    (fraction_digits : ∀ c ∈ fraction, c.isDigit = true)
    (value : natOfDigits (whole ++ fraction) / 10 ^ fraction.length = q) :
    Reads (whole ++ '.' :: fraction) q := by
  have reads := reads_point some_digits whole_digits fraction_digits
    (fun c none => nomatch none : EndsDigits []) rfl
  rw [List.append_nil, zero_sub, zpow_neg, zpow_natCast, ← div_eq_mul_inv, value] at reads
  exact reads

lemma isDigit_of_mem_replicate {n : ℕ} {c : Char} (mem : c ∈ List.replicate n '0') :
    c.isDigit = true := by
  rw [List.eq_of_mem_replicate mem]
  rfl

lemma natDigits_ne_nil (n : ℕ) : natDigits n ≠ [] :=
  Nat.toDigits_ne_nil

/-- Plain notation stands for the decimal. -/
lemma reads_plainDecimal (n : ℕ) (place : ℤ) :
    Reads (plainDecimal (natDigits n) place) (n * 10 ^ place) := by
  have digits : ∀ c ∈ natDigits n, c.isDigit = true := fun c => Json.isDigit_of_mem_natDigits
  unfold plainDecimal
  split_ifs with nonneg
  · obtain ⟨k, rfl⟩ := Int.eq_ofNat_of_zero_le nonneg
    refine reads_fraction (by simp [natDigits_ne_nil]) ?_ (by simp) ?_
    · rintro c mem
      exact (List.mem_append.mp mem).elim (digits c) isDigit_of_mem_replicate
    · rw [natOfDigits_append, natOfDigits_append, natOfDigits_replicate_zero,
        Json.natOfDigits_natDigits]
      simp [natOfDigits, digitValue]
  · obtain ⟨k, rfl⟩ : ∃ k : ℕ, place = -k := ⟨(-place).toNat, by omega⟩
    rw [neg_neg, Int.toNat_natCast, zpow_neg, zpow_natCast, ← div_eq_mul_inv]
    dsimp only
    split_ifs with inside
    · refine reads_fraction ?_ ?_ ?_ ?_
      · simp [natDigits_ne_nil, Nat.sub_ne_zero_of_lt inside]
      · exact fun c mem => digits c (List.mem_of_mem_take mem)
      · exact fun c mem => digits c (List.mem_of_mem_drop mem)
      · rw [List.take_append_drop, Json.natOfDigits_natDigits, List.length_drop,
          Nat.sub_sub_self inside.le]
    · rw [List.cons_append, List.cons_append]
      refine reads_fraction (List.cons_ne_nil '0' []) (by simp) ?_ ?_
      · rintro c mem
        exact (List.mem_append.mp mem).elim isDigit_of_mem_replicate (digits c)
      · rw [List.length_append, List.length_replicate, Nat.sub_add_cancel (not_lt.mp inside),
          natOfDigits_append, natOfDigits_append, natOfDigits_replicate_zero,
          Json.natOfDigits_natDigits]
        simp [natOfDigits, digitValue]

/-- Scientific notation stands for the decimal. -/
lemma reads_scientific (readable : layout.Readable) (n : ℕ) (exponent : ℤ) :
    Reads (scientific layout (natDigits n) exponent)
      (n * 10 ^ (exponent - ((natDigits n).length - 1 : ℕ))) := by
  have digits : ∀ c ∈ natDigits n, c.isDigit = true := fun c => Json.isDigit_of_mem_natDigits
  have power := readExponent?_intDigits readable exponent
  unfold scientific
  dsimp only
  rw [List.append_assoc, List.append_assoc]
  -- All that matters of what follows the digits is that it starts with an `e` and what it is read as.
  have front : ('e' :: (if 0 ≤ exponent then layout.plus else []) ++ intDigits exponent).head? =
      some 'e' := rfl
  generalize 'e' :: (if 0 ≤ exponent then layout.plus else []) ++ intDigits exponent = tail
    at power front ⊢
  have ends : EndsDigits tail := by
    rintro c start
    obtain rfl : 'e' = c := Option.some.inj (front.symm.trans start)
    rfl
  by_cases single : (natDigits n).length ≤ 1
  · rw [if_pos single, List.nil_append, List.take_of_length_le single, Nat.sub_eq_zero_of_le single,
      Nat.cast_zero, sub_zero]
    have reads := reads_whole (natDigits_ne_nil n) digits ends (by simp [front]) power
    rwa [Json.natOfDigits_natDigits] at reads
  · rw [if_neg single, List.cons_append]
    have some_digits : (natDigits n).take 1 ≠ [] := by simp [natDigits_ne_nil]
    have first : ∀ c ∈ (natDigits n).take 1, c.isDigit = true :=
      fun c mem => digits c (List.mem_of_mem_take mem)
    have others : ∀ c ∈ (natDigits n).drop 1, c.isDigit = true :=
      fun c mem => digits c (List.mem_of_mem_drop mem)
    have reads := reads_point some_digits first others ends power
    rwa [List.take_append_drop, Json.natOfDigits_natDigits, List.length_drop] at reads

/-- The text of a decimal stands for the decimal. -/
lemma reads_decimalText (readable : layout.Readable) (n : ℕ) (place : ℤ) :
    Reads (decimalText layout n place) (n * 10 ^ place) := by
  unfold decimalText
  dsimp only
  split_ifs
  · exact reads_plainDecimal n place
  · have length : 0 < (natDigits n).length := Nat.length_toDigits_pos
    convert reads_scientific readable n (place + (natDigits n).length - 1) using 2
    congr 1
    omega

/-! ## The result -/

/-- Nothing that is read as an unsigned decimal starts with a sign. -/
lemma read?_of_unsigned {text : List Char} {x : Binary64}
    (unsigned : readUnsigned? false text = some x) : read? text = some x := by
  unfold read?
  split
  · cases unsigned
  · cases unsigned
  · exact unsigned

lemma read?_signed (negative : Bool) {text : List Char} {x : Binary64}
    (unsigned : readUnsigned? negative text = some x) :
    read? ((if negative then ['-'] else []) ++ text) = some x := by
  cases negative
  · exact read?_of_unsigned unsigned
  · exact unsigned

/-- **A finite number is read back from its text.** -/
theorem read?_render (readable : layout.Readable) {x : Binary64} {negative : Bool} {coefficient : ℕ}
    {exponent : ℤ} (datum : x.datum = .finite negative coefficient exponent) :
    read? (x.render layout) = some x := by
  obtain ⟨normal, sign, bits, finite⟩ := normal_of_datum datum
  have same : x = ofMagnitude negative (magnitudeOf coefficient exponent) := by
    rw [← sign, ← bits, ofMagnitude_magnitude]
  rw [bits] at finite
  unfold render
  rw [datum]
  dsimp only
  by_cases zero : coefficient = 0
  · obtain rfl : exponent = -1074 := normal.large.resolve_left (by omega)
    rw [if_pos zero, same, zero]
    cases negative <;> rfl
  · rw [if_neg zero]
    have pos : 0 < coefficient := Nat.pos_of_ne_zero zero
    -- The text may be read as another decimal of the same value.
    obtain ⟨n, place, value, reads⟩ := reads_decimalText readable (shortest coefficient exponent).1
      (shortest coefficient exponent).2
    have mem := mem_shortest normal pos
    rw [← value] at mem
    refine read?_signed negative ?_
    rw [reads negative, ofDecimal_of_mem normal pos finite mem negative, ← same]

end Binary64

end Conformance
