import Mathlib.Data.List.TakeWhile
import Mathlib.Tactic.Common
import Conformance.Text.Quoted
import Conformance.Value.OfNode
import Conformance.Yaml.Token.Text

/-!
# Tokens of JSON

The first half of a reader of JSON: it cuts a text into punctuation, strings and scalars, passing
over white space.  Nothing here knows how values are written.  Numbers follow the grammar of JSON
and are taken as integers where they are written as such and fit into 64 bits; strings may use every
escape, surrogate pairs included.

What has been read ahead is counted and passed over one character at a time, so that reading is a
recursion on the text.

## Parts

* `Json.Token` is a token, and `Json.tokens?` cuts a text into them.
* `Json.stringHere?` reads a string and `Json.number?` a number.
* `Json.Lexes` says that a text is cut into certain tokens whatever follows it, and
  `Json.Lexes.append_punctuation` puts two such texts together.
* `Json.lexes_quote`, `Json.lexes_scalar` and `Json.lexes_intDigits` are single tokens.
-/

namespace Conformance.Json

open Text
open Yaml (isHexDigit natOfHex)

/-! ## Reading tokens -/

/-- A token of a JSON text.  A scalar is null, a boolean or a number. -/
inductive Token
  | openArray
  | closeArray
  | openObject
  | closeObject
  | comma
  | colon
  | string (s : String)
  | scalar (v : Value)

def isBlank (c : Char) : Bool :=
  c == ' ' || c == '\t' || c == '\n' || c == '\r'

def punctuation? : Char → Option Token
  | '[' => some .openArray
  | ']' => some .closeArray
  | '\x7b' => some .openObject
  | '\x7d' => some .closeObject
  | ',' => some .comma
  | ':' => some .colon
  | _ => none

/-- Whether a scalar goes on with the character: anything that does not begin another token. -/
def inScalar (c : Char) : Bool :=
  !isBlank c && (punctuation? c).isNone && c != '"'

/-! ### Strings -/

/-- The character that a one-letter escape stands for. -/
def namedEscape? : Char → Option Char
  | '"' => some '"'
  | '\\' => some '\\'
  | '/' => some '/'
  | 'b' => some '\x08'
  | 'f' => some '\x0c'
  | 'n' => some '\n'
  | 'r' => some '\r'
  | 't' => some '\t'
  | _ => none

/-- The UTF-16 code unit that four hexadecimal digits stand for. -/
def codeUnit? (text : List Char) : Option ℕ :=
  let digits := text.take 4
  if digits.length = 4 && digits.all isHexDigit then some (natOfHex digits) else none

def isHighSurrogate (unit : ℕ) : Bool :=
  0xD800 ≤ unit && unit < 0xDC00

def isLowSurrogate (unit : ℕ) : Bool :=
  0xDC00 ≤ unit && unit < 0xE000

/-- The character that an escape stands for, read from behind the backslash, and the number of
characters that it takes there.  A high surrogate must be followed by a low one. -/
def escaped? : List Char → Option (Char × ℕ)
  | 'u' :: rest => do
    let unit ← codeUnit? rest
    if isHighSurrogate unit then
      match rest.drop 4 with
      | '\\' :: 'u' :: more =>
        let low ← codeUnit? more
        if isLowSurrogate low then
          some (Char.ofNat (0x10000 + 0x400 * (unit - 0xD800) + (low - 0xDC00)), 11)
        else none
      | _ => none
    else if isLowSurrogate unit then none
    else some (Char.ofNat unit, 5)
  | c :: _ => (namedEscape? c).map fun char => (char, 1)
  | [] => none

/-- Read a string behind its opening quote, and what follows its closing one.  `pending` are
characters of an escape that were read ahead and are still to be passed over. -/
def stringHere? : (pending : ℕ) → List Char → Option (List Char × List Char)
  | _, [] => none
  | pending + 1, _ :: rest => stringHere? pending rest
  | 0, '"' :: rest => some ([], rest)
  | 0, '\\' :: rest => do
    let (c, width) ← escaped? rest
    let (text, after) ← stringHere? width rest
    some (c :: text, after)
  | 0, c :: rest =>
    if c.toNat < 0x20 then none
    else do
      let (text, after) ← stringHere? 0 rest
      some (c :: text, after)

/-! ### Scalars -/

/-- The digits behind a decimal point, and what follows them.  There may be no point. -/
def fraction? : List Char → Option (List Char × List Char)
  | '.' :: rest =>
    let digits := rest.takeWhile Char.isDigit
    if digits.isEmpty then none else some (digits, rest.dropWhile Char.isDigit)
  | rest => some ([], rest)

/-- A number: a minus sign if there is one, digits without a needless zero in front, and perhaps a
fraction and an exponent. -/
def number? (text : List Char) : Option Value :=
  let negative := text.head? == some '-'
  let unsigned := if negative then text.drop 1 else text
  let whole := unsigned.takeWhile Char.isDigit
  let rest := unsigned.dropWhile Char.isDigit
  if whole.isEmpty || (whole.head? == some '0' && whole.length != 1) then none
  else if rest.isEmpty then
    let size : Int := natOfDigits whole
    some (Value.ofNumber (.int (if negative then -size else size)))
  else do
    let (fraction, rest) ← fraction? rest
    let exponent ← Binary64.readExponent? rest
    some (.float (Binary64.ofDecimal negative (natOfDigits (whole ++ fraction))
      (exponent - fraction.length)))

def scalar? (text : List Char) : Option Value :=
  if text = "null".toList then some .null
  else if text = "true".toList then some (.bool true)
  else if text = "false".toList then some (.bool false)
  else number? text

/-! ### Texts -/

/-- Cut a text into tokens.  `pending` are characters of a token that were read ahead and are still
to be passed over. -/
def tokens? : (pending : ℕ) → List Char → Option (List Token)
  | _, [] => some []
  | pending + 1, _ :: rest => tokens? pending rest
  | 0, c :: rest =>
    if isBlank c then tokens? 0 rest
    else
      match punctuation? c with
      | some token => (tokens? 0 rest).map (token :: ·)
      | none =>
        if c = '"' then do
          let (text, after) ← stringHere? 0 rest
          (tokens? (rest.length - after.length) rest).map (.string (String.ofList text) :: ·)
        else do
          let more := rest.takeWhile inScalar
          let v ← scalar? (c :: more)
          (tokens? more.length rest).map (.scalar v :: ·)

/-! ## Texts that are cut in one way -/

/-- The text does not go on with a scalar. -/
def EndsScalar (text : List Char) : Prop :=
  ∀ c, text.head? = some c → inScalar c = false

/-- The text is cut into these tokens, whatever follows it.  What follows must not go on with a
scalar, which the text may end in. -/
def Lexes (text : List Char) (tokens : List Token) : Prop :=
  ∀ rest, EndsScalar rest → tokens? 0 (text ++ rest) = (tokens? 0 rest).map (tokens ++ ·)

variable {text more : List Char} {tokens others : List Token}

lemma Lexes.nil : Lexes [] [] := by
  intro rest _
  simp

/-- Punctuation ends whatever stands in front of it. -/
lemma inScalar_of_punctuation {c : Char} {token : Token} (is_token : punctuation? c = some token) :
    inScalar c = false := by
  rw [inScalar, is_token, Option.isNone_some, Bool.and_false, Bool.false_and]

lemma Lexes.punctuation {c : Char} {token : Token} (is_token : punctuation? c = some token)
    (inner : Lexes text tokens) : Lexes (c :: text) (token :: tokens) := by
  intro rest ends
  have not_blank : isBlank c = false := by
    by_contra blank
    simp only [isBlank, Bool.not_eq_false, Bool.or_eq_true, beq_iff_eq] at blank
    rcases blank with ((rfl | rfl) | rfl) | rfl <;> cases is_token
  rw [List.cons_append, tokens?, not_blank, if_neg Bool.false_ne_true, is_token]
  simp only [inner rest ends, Option.map_map, Function.comp_def, List.cons_append]

/-- Two texts can be put together with punctuation between them. -/
lemma Lexes.append_punctuation {c : Char} {token : Token} (first : Lexes text tokens)
    (is_token : punctuation? c = some token) (second : Lexes more others) :
    Lexes (text ++ c :: more) (tokens ++ token :: others) := by
  intro rest ends
  have stops : EndsScalar (c :: more ++ rest) := by
    intro char front
    cases front
    exact inScalar_of_punctuation is_token
  rw [List.append_assoc, first _ stops, second.punctuation is_token rest ends, Option.map_map]
  simp only [Function.comp_def, List.append_assoc]

lemma tokens?_length_append (text rest : List Char) :
    tokens? text.length (text ++ rest) = tokens? 0 rest := by
  induction text with
  | nil => rfl
  | cons c text ih => rw [List.length_cons, List.cons_append, tokens?, ih]

/-! ### Quoted strings -/

lemma isHexDigit_hexDigit : ∀ n < 16, isHexDigit (hexDigit n) = true := by
  decide

lemma hexValue_hexDigit : ∀ n < 16, Yaml.hexValue (hexDigit n) = n := by
  decide

/-- Two hexadecimal digits behind two zeros are the number that they were written for. -/
lemma codeUnit?_hexDigit {n : ℕ} (small : n < 256) (more : List Char) :
    codeUnit? ('0' :: '0' :: hexDigit (n / 16) :: hexDigit (n % 16) :: more) = some n := by
  have high : n / 16 < 16 := by omega
  have low : n % 16 < 16 := by omega
  have value : natOfHex ['0', '0', hexDigit (n / 16), hexDigit (n % 16)] = n := by
    have zero : Yaml.hexValue '0' = 0 := by decide
    simp only [natOfHex, List.foldl_cons, List.foldl_nil, zero, hexValue_hexDigit _ high,
      hexValue_hexDigit _ low]
    omega
  have zero : isHexDigit '0' = true := by decide
  simp [codeUnit?, zero, isHexDigit_hexDigit _ high, isHexDigit_hexDigit _ low, value]

/-- The escape of a control character without a name of its own. -/
lemma escaped?_control {c : Char} (control : c.toNat < 0x20) (more : List Char) :
    escaped? ('u' :: '0' :: '0' :: hexDigit (c.toNat / 16) :: hexDigit (c.toNat % 16) :: more) =
      some (c, 5) := by
  have not_high : isHighSurrogate c.toNat = false := by
    simp only [isHighSurrogate, Bool.and_eq_false_iff, decide_eq_false_iff_not]
    omega
  have not_low : isLowSurrogate c.toNat = false := by
    simp only [isLowSurrogate, Bool.and_eq_false_iff, decide_eq_false_iff_not]
    omega
  simp [escaped?, codeUnit?_hexDigit (show c.toNat < 256 by omega), not_high, not_low]

lemma stringHere?_length_append (text rest : List Char) :
    stringHere? text.length (text ++ rest) = stringHere? 0 rest := by
  induction text with
  | nil => rfl
  | cons c text ih => rw [List.length_cons, List.cons_append, stringHere?, ih]

/-- An escape is read as the character that it stands for. -/
lemma stringHere?_backslash (letters : List Char) {more : List Char} {c : Char}
    (stands : escaped? (letters ++ more) = some (c, letters.length)) :
    stringHere? 0 ('\\' :: (letters ++ more)) =
      (stringHere? 0 more).map fun read => (c :: read.1, read.2) := by
  rw [stringHere?, stands, Option.map_eq_bind]
  show (stringHere? letters.length (letters ++ more)).bind _ = _
  rw [stringHere?_length_append]
  rfl

/-- A character is read back from its escaped form. -/
lemma stringHere?_escape (c : Char) (more : List Char) :
    stringHere? 0 (escape c ++ more) =
      (stringHere? 0 more).map fun read => (c :: read.1, read.2) := by
  unfold escape
  split
  -- The last case is every character without a named escape; the others are those of one letter.
  case h_8 not_quote not_backslash _ _ _ _ _ =>
    by_cases control : c.toNat < 0x20
    · rw [if_pos control]
      exact stringHere?_backslash _ (escaped?_control control more)
    · rw [if_neg control, List.singleton_append, stringHere?, if_neg control, Option.map_eq_bind]
      · rfl
      · exact not_quote
      · exact not_backslash
  all_goals exact stringHere?_backslash [_] rfl

/-- What stands between the quotes is read back, up to the closing quote. -/
lemma stringHere?_flatMap_escape (text rest : List Char) :
    stringHere? 0 (text.flatMap escape ++ '"' :: rest) = some (text, rest) := by
  induction text with
  | nil => rfl
  | cons c text ih =>
    rw [List.flatMap_cons, List.append_assoc, stringHere?_escape, ih]
    rfl

/-- A quoted string is one token, and it is the string. -/
lemma lexes_quote (s : String) : Lexes (quote s.toList) [.string s] := by
  intro rest _
  let inside := s.toList.flatMap escape ++ ['"']
  have here : stringHere? 0 (inside ++ rest) = some (s.toList, rest) := by
    rw [List.append_assoc]
    exact stringHere?_flatMap_escape s.toList rest
  have read_ahead : (inside ++ rest).length - rest.length = inside.length := by
    rw [List.length_append, Nat.add_sub_cancel]
  calc tokens? 0 (quote s.toList ++ rest)
      = (stringHere? 0 (inside ++ rest)).bind fun read =>
          (tokens? ((inside ++ rest).length - read.2.length) (inside ++ rest)).map
            (.string (String.ofList read.1) :: ·) := rfl
    _ = (tokens? inside.length (inside ++ rest)).map (.string s :: ·) := by
        rw [here, Option.bind_some, read_ahead, String.ofList_toList]
    _ = (tokens? 0 rest).map ([.string s] ++ ·) := by
        rw [tokens?_length_append]
        rfl

/-! ### Scalars -/

/-- A word that stands for a scalar is one token. -/
lemma lexes_scalar {c : Char} {word : List Char} {v : Value}
    (inside : (c :: word).all inScalar = true) (stands : scalar? (c :: word) = some v) :
    Lexes (c :: word) [.scalar v] := by
  intro rest ends
  rw [List.all_eq_true, List.forall_mem_cons] at inside
  have first := inside.1
  simp only [inScalar, Bool.and_eq_true, Bool.not_eq_true', Option.isNone_iff_eq_none, bne_iff_ne,
    ne_eq] at first
  obtain ⟨⟨not_blank, no_punctuation⟩, no_quote⟩ := first
  have stops : rest.takeWhile inScalar = [] := by
    cases rest with
    | nil => rfl
    | cons char rest => rw [List.takeWhile_cons, ends char rfl, if_neg Bool.false_ne_true]
  have more : (word ++ rest).takeWhile inScalar = word := by
    rw [List.takeWhile_append_of_pos inside.2, stops, List.append_nil]
  rw [List.cons_append, tokens?, not_blank, if_neg Bool.false_ne_true, no_punctuation]
  simp only [no_quote, if_false, more, stands]
  exact congrArg (Option.map _) (tokens?_length_append word rest)

/-! ### Integers -/

lemma natOfDigits_natDigits (n : ℕ) : natOfDigits (natDigits n) = n :=
  Nat.ofDigitChars_toDigits (by decide) (by decide)

lemma isDigit_of_mem_natDigits {n : ℕ} {c : Char} (mem : c ∈ natDigits n) : c.isDigit = true :=
  Nat.isDigit_of_mem_toDigits (by decide) (by decide) mem

lemma eq_zero_of_digitChar : ∀ n < 10, Nat.digitChar n = '0' → n = 0 := by
  decide

/-- Only the number zero is written with a zero in front. -/
lemma eq_zero_of_head?_natDigits {n : ℕ} (leading : (natDigits n).head? = some '0') : n = 0 := by
  induction n using Nat.strongRecOn with
  | ind n ih =>
    rw [natDigits, Nat.toDigits_eq_if (by decide)] at leading
    split at leading
    case isTrue small => exact eq_zero_of_digitChar n small (by simpa using leading)
    case isFalse large =>
      -- A number of two digits or more has the first digit of its tenth part.
      have front : (natDigits (n / 10)).head? = some '0' := by
        obtain ⟨c, more, digits⟩ := List.exists_cons_of_ne_nil
          (Nat.toDigits_ne_nil (b := 10) (n := n / 10))
        rw [digits] at leading
        rwa [natDigits, digits]
      have zero : n / 10 = 0 := ih (n / 10) (by omega) front
      omega

/-- The digits of a number are digits with no needless zero in front. -/
lemma natDigits_well_formed (n : ℕ) :
    ((natDigits n).isEmpty || ((natDigits n).head? == some '0' && (natDigits n).length != 1)) =
      false := by
  have some_digits : (natDigits n).isEmpty = false := by
    simp [natDigits, Nat.toDigits_ne_nil]
  rw [some_digits, Bool.false_or, Bool.and_eq_false_iff]
  by_cases leading : (natDigits n).head? = some '0'
  · rw [eq_zero_of_head?_natDigits leading]
    exact Or.inr rfl
  · exact Or.inl (by simpa using leading)

/-- An integer is read back from its digits. -/
lemma number?_intDigits (i : Int) : number? (intDigits i) = some (Value.ofNumber (.int i)) := by
  have all_taken (n : ℕ) : (natDigits n).takeWhile Char.isDigit = natDigits n :=
    List.takeWhile_eq_self_iff.mpr fun c mem => isDigit_of_mem_natDigits mem
  have none_left (n : ℕ) : (natDigits n).dropWhile Char.isDigit = [] :=
    List.dropWhile_eq_nil_iff.mpr fun c mem => isDigit_of_mem_natDigits mem
  cases i with
  | ofNat n =>
    have unsigned : ((natDigits n).head? == some '-') = false := by
      rw [beq_eq_false_iff_ne]
      intro minus
      exact absurd (isDigit_of_mem_natDigits (List.mem_of_head? minus)) (by decide)
    simp [number?, intDigits, unsigned, all_taken, none_left, natDigits_well_formed,
      natOfDigits_natDigits]
  | negSucc n =>
    simp [number?, intDigits, all_taken, none_left, natDigits_well_formed, natOfDigits_natDigits,
      Int.negSucc_eq]

/-- The characters of a written integer are its digits and perhaps a minus sign. -/
lemma mem_intDigits {i : Int} {c : Char} (mem : c ∈ intDigits i) : c = '-' ∨ c.isDigit = true := by
  cases i with
  | ofNat n => exact Or.inr (isDigit_of_mem_natDigits mem)
  | negSucc n =>
    rcases List.mem_cons.mp mem with rfl | mem
    · exact Or.inl rfl
    · exact Or.inr (isDigit_of_mem_natDigits mem)

lemma intDigits_ne_nil (i : Int) : intDigits i ≠ [] := by
  cases i with
  | ofNat n => exact Nat.toDigits_ne_nil
  | negSucc n => exact List.cons_ne_nil _ _

lemma inScalar_of_isDigit {c : Char} (digit : c.isDigit = true) : inScalar c = true := by
  have ne (other : Char) (no_digit : other.isDigit = false) : c ≠ other := by
    rintro rfl
    exact Bool.false_ne_true (no_digit.symm.trans digit)
  have no_punctuation : punctuation? c = none := by
    unfold punctuation?
    split
    case h_7 => rfl
    all_goals exact absurd rfl (ne _ (by decide))
  simp [inScalar, isBlank, no_punctuation, ne ' ' (by decide), ne '\t' (by decide),
    ne '\n' (by decide), ne '\r' (by decide), ne '"' (by decide)]

/-- A written integer is not a name. -/
lemma intDigits_ne_of_mem {i : Int} {name : List Char} {c : Char} (mem : c ∈ name)
    (letter : c ≠ '-' ∧ c.isDigit = false) : intDigits i ≠ name := by
  rintro rfl
  rcases mem_intDigits mem with minus | digit
  · exact letter.1 minus
  · exact Bool.false_ne_true (letter.2.symm.trans digit)

lemma scalar?_intDigits (i : Int) : scalar? (intDigits i) = some (Value.ofNumber (.int i)) := by
  have not_null : intDigits i ≠ "null".toList :=
    intDigits_ne_of_mem (c := 'n') (by decide) (by decide)
  have not_true : intDigits i ≠ "true".toList :=
    intDigits_ne_of_mem (c := 't') (by decide) (by decide)
  have not_false : intDigits i ≠ "false".toList :=
    intDigits_ne_of_mem (c := 'f') (by decide) (by decide)
  rw [scalar?, if_neg not_null, if_neg not_true, if_neg not_false, number?_intDigits]

/-- An integer is one token, and it is the integer. -/
lemma lexes_intDigits (i : Int64) : Lexes (intDigits i.toInt) [.scalar (.int i)] := by
  have fits : fitsInt64 i.toInt = true := by
    rw [fitsInt64, Bool.and_eq_true, decide_eq_true_eq, decide_eq_true_eq]
    exact ⟨i.minValue_le_toInt, i.toInt_le⟩
  have scalar : scalar? (intDigits i.toInt) = some (.int i) := by
    rw [scalar?_intDigits, Value.ofNumber, if_pos fits, Int64.ofInt_toInt]
  have inside : (intDigits i.toInt).all inScalar = true := by
    refine List.all_eq_true.mpr fun c mem => ?_
    rcases mem_intDigits mem with rfl | digit
    · decide
    · exact inScalar_of_isDigit digit
  obtain ⟨c, word, digits⟩ := List.exists_cons_of_ne_nil (intDigits_ne_nil i.toInt)
  rw [digits] at inside scalar ⊢
  exact lexes_scalar inside scalar

end Conformance.Json
