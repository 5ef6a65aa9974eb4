import Mathlib.Tactic.Common
import Conformance.Text.LowerCase

/-!
# Lower case is settled

A text in lower case has no capitals left, so its own lower-case form is the text again.  What comes
out of the tables has to be looked up in the tables for this: the lower-case form of a capital could
be a capital itself.  The tables are compared run by run.  The forms of one run either stand clear
of another run, or they fall into the gaps of a run that holds every other code point.

## Parts

* `CaseRun.apart` compares two runs, and `apart_of_mem` says that all of them are apart.
* `Settled` are the characters that no run covers, and `lowerAfter_settled` says that lower case
  consists of them.
* `lowerCase_lowerCase` is the result.
-/

namespace Conformance.Text

/-! ## Runs that do not meet -/

namespace CaseRun

/-- The lower-case form of the first capital. -/
def firstForm (run : CaseRun) : ℕ :=
  (run.first + run.shift).toNat

/-- The lower-case form of the last capital. -/
def lastForm (run : CaseRun) : ℕ :=
  (run.last + run.shift).toNat

/-- No capital of the first run has its lower-case form among the capitals of the other one. -/
def apart (run other : CaseRun) : Bool :=
  run.lastForm.blt other.first || other.last.blt run.firstForm ||
    (other.step == 2 && (run.step == 2 || run.first == run.last) &&
      (run.firstForm + other.first) % 2 == 1)

lemma covers_iff {run : CaseRun} {n : ℕ} :
    run.covers n = true ↔ run.first ≤ n ∧ n ≤ run.last ∧ (n - run.first) % run.step = 0 := by
  simp [covers, and_assoc]

lemma not_covers_of_apart {run other : CaseRun} {n m : ℕ} (apart : run.apart other = true)
    (covered : run.covers n = true) (not_negative : 0 ≤ run.first + run.shift)
    (form : (m : Int) = n + run.shift) : other.covers m = false := by
  obtain ⟨from_first, to_last, in_step⟩ := covers_iff.mp covered
  by_contra meets
  obtain ⟨from_first', to_last', in_step'⟩ := covers_iff.mp (Bool.not_eq_false _ ▸ meets)
  simp only [CaseRun.apart, Bool.or_eq_true, Bool.and_eq_true, Nat.blt_eq, beq_iff_eq] at apart
  simp only [firstForm, lastForm] at apart
  obtain (below | above) | ⟨⟨every_other, even | single⟩, odd⟩ := apart
  · omega
  · omega
  · rw [every_other] at in_step'
    rw [even] at in_step
    omega
  · rw [every_other] at in_step'
    omega

end CaseRun

/-- The runs of capitals, and the one capital whose lower-case form has two characters. -/
def allCaseRuns : List CaseRun :=
  ⟨0x130, 0x130, 1, 0⟩ :: caseRuns

lemma apart_of_mem {run other : CaseRun} (mem : run ∈ caseRuns) (mem' : other ∈ allCaseRuns) :
    run.apart other = true := by
  have all_apart : (caseRuns.all fun run => allCaseRuns.all run.apart) = true := by
    decide +kernel
  exact List.all_eq_true.mp (List.all_eq_true.mp all_apart run mem) other mem'

/-- Lower-case forms are characters. -/
lemma isValidChar_of_mem : ∀ run ∈ caseRuns, 0 ≤ run.first + run.shift ∧
    (run.last + run.shift < 0xD800 ∨
      0xDFFF < run.first + run.shift ∧ run.last + run.shift < 0x110000) := by
  decide +kernel

/-! ## Characters that stay -/

/-- The character is no capital. -/
def Settled (c : Char) : Prop :=
  ∀ run ∈ allCaseRuns, run.covers c.toNat = false

instance (c : Char) : Decidable (Settled c) :=
  inferInstanceAs (Decidable (∀ run ∈ allCaseRuns, run.covers c.toNat = false))

lemma Settled.ne_of_covered {c d : Char} (settled : Settled c)
    (covered : ∃ run ∈ allCaseRuns, run.covers d.toNat = true) : c ≠ d := by
  rintro rfl
  obtain ⟨run, mem, covers⟩ := covered
  exact Bool.false_ne_true ((settled run mem).symm.trans covers)

lemma lowerChar_of_settled {c : Char} (settled : Settled c) : lowerChar c = [c] := by
  have not_dotted : c ≠ 'İ' := settled.ne_of_covered (by decide)
  have uncovered : caseRuns.find? (·.covers c.toNat) = none := by
    rw [List.find?_eq_none]
    intro run mem
    simp [settled run (List.mem_cons_of_mem _ mem)]
  rw [lowerChar, if_neg not_dotted, uncovered]

/-- The lower-case form of a capital is no capital. -/
lemma settled_of_covered {run : CaseRun} {c : Char} (mem : run ∈ caseRuns)
    (covered : run.covers c.toNat = true) : Settled (Char.ofNat (c.toNat + run.shift).toNat) := by
  obtain ⟨from_first, to_last, -⟩ := CaseRun.covers_iff.mp covered
  obtain ⟨not_negative, valid⟩ := isValidChar_of_mem run mem
  have is_char : (c.toNat + run.shift).toNat.isValidChar := by
    unfold Nat.isValidChar
    omega
  have code : (Char.ofNat (c.toNat + run.shift).toNat).toNat = (c.toNat + run.shift).toNat := by
    rw [Char.ofNat, dif_pos is_char]
    rfl
  intro other mem'
  rw [code]
  exact CaseRun.not_covers_of_apart (apart_of_mem mem mem') covered not_negative (by omega)

lemma settled_of_mem_lowerChar {c d : Char} (mem : d ∈ lowerChar c) : Settled d := by
  unfold lowerChar at mem
  split at mem
  next =>
    rw [List.mem_cons, List.mem_singleton] at mem
    obtain rfl | rfl := mem
    · decide +kernel
    · decide +kernel
  next not_dotted =>
    split at mem
    next run found =>
      obtain rfl := List.mem_singleton.mp mem
      have covered : run.covers c.toNat = true := by simpa using List.find?_some found
      exact settled_of_covered (List.mem_of_find?_eq_some found) covered
    next uncovered =>
      obtain rfl := List.mem_singleton.mp mem
      rw [List.find?_eq_none] at uncovered
      intro run mem
      rw [allCaseRuns, List.mem_cons] at mem
      obtain rfl | mem := mem
      · by_contra covered
        obtain ⟨from_first, to_last, -⟩ := CaseRun.covers_iff.mp (Bool.not_eq_false _ ▸ covered)
        exact not_dotted (Char.toNat_inj.mp (Nat.le_antisymm to_last from_first))
      · simpa using uncovered run mem

/-! ## Texts that stay -/

lemma settled_of_mem_lowerAfter {before text : List Char} {d : Char}
    (mem : d ∈ lowerAfter before text) : Settled d := by
  induction text generalizing before with
  | nil => cases mem
  | cons c rest ih =>
    rw [lowerAfter, List.mem_append] at mem
    obtain here | later := mem
    · split at here
      · split at here
        · obtain rfl := List.mem_singleton.mp here
          decide +kernel
        · obtain rfl := List.mem_singleton.mp here
          decide +kernel
      · exact settled_of_mem_lowerChar here
    · exact ih later

lemma lowerAfter_of_settled {text : List Char} (settled : ∀ c ∈ text, Settled c)
    (before : List Char) : lowerAfter before text = text := by
  induction text generalizing before with
  | nil => rfl
  | cons c rest ih =>
    obtain ⟨here, later⟩ := List.forall_mem_cons.mp settled
    have not_sigma : c ≠ 'Σ' := here.ne_of_covered (by decide)
    rw [lowerAfter, if_neg not_sigma, lowerChar_of_settled here, ih later]
    rfl

/-- The lower-case form of a text is in lower case. -/
theorem lowerCase_lowerCase (text : String) : lowerCase (lowerCase text) = lowerCase text := by
  have settled : ∀ c ∈ lowerAfter [] text.toList, Settled c := fun _ => settled_of_mem_lowerAfter
  rw [lowerCase, lowerCase, String.toList_ofList, lowerAfter_of_settled settled]

end Conformance.Text
