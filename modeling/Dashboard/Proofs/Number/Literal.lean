import Dashboard.Number.Literal
import Dashboard.Proofs.Number.Digits
import Mathlib.Data.List.TakeWhile
import Mathlib.Tactic.IntervalCases

/-
  Signs and digits at the start of texts.

  Main declarations:
    * `Text.isDigit_iff`
    * `Text.mem_digits_of_isDigit`
    * `NumberLiteral.scanDigits_append`
    * `NumberLiteral.scanSign_of_isDigit`
-/

------------------------------------------------------------
-- Digits
------------------------------------------------------------

namespace Dashboard

namespace Text

theorem isDigit_iff (c : Char) :
    isDigit c = true ↔ 48 ≤ c.toNat ∧ c.toNat ≤ 57 := by
  unfold isDigit
  rw [Bool.and_eq_true, decide_eq_true_eq, decide_eq_true_eq]
  rfl

/- The ten digits. -/
def digits : List Char :=
  "0123456789".toList

theorem mem_digits_of_isDigit
    {c : Char}
    (hDigit : isDigit c = true) :
    c ∈ digits := by
  rw [isDigit_iff] at hDigit
  rcases hDigit with ⟨hLeast, hMost⟩
  rw [← Char.ofNat_toNat c]
  generalize c.toNat = n at hLeast hMost
  interval_cases n <;> decide

theorem ne_of_isDigit
    {c d : Char}
    (hDigit : isDigit c = true)
    (hOther : isDigit d = false) :
    c ≠ d := by
  rintro rfl
  rw [hDigit] at hOther
  cases hOther

theorem isBlank_of_isDigit
    {c : Char}
    (hDigit : isDigit c = true) :
    isBlank c = false := by
  rw [isDigit_iff] at hDigit
  simp only [isBlank, Bool.or_eq_false_iff,
    Bool.and_eq_false_iff, decide_eq_false_iff_not,
    beq_eq_false_iff_ne]
  omega

/- There is nothing to trim before a digit. -/
theorem trimLeft_of_isDigit
    {c : Char}
    (hDigit : isDigit c = true)
    (rest : List Char) :
    trimLeft (c :: rest) = c :: rest := by
  rw [trimLeft, List.dropWhile_cons,
    isBlank_of_isDigit hDigit]
  rfl

end Text

end Dashboard

------------------------------------------------------------
-- Signs And Digits At The Start
------------------------------------------------------------

namespace Dashboard

theorem NumberLiteral.scanDigits_append
    {digits rest : List Char}
    (hDigits : ∀ c ∈ digits, Text.isDigit c = true)
    (hRest : ∀ c ∈ rest.head?, Text.isDigit c = false) :
    scanDigits (digits ++ rest) = (digits, rest) := by
  unfold scanDigits
  rw [List.takeWhile_append_of_pos hDigits,
    List.dropWhile_append_of_pos hDigits]
  cases rest with
  | nil => simp
  | cons c more =>
      have hFirst := hRest c rfl
      simp [hFirst]

theorem NumberLiteral.scanSign_of_isDigit
    {c : Char}
    (hDigit : Text.isDigit c = true)
    (rest : List Char) :
    scanSign (c :: rest) = (false, c :: rest) := by
  have hPlus : c ≠ '+' := Text.ne_of_isDigit hDigit rfl
  have hMinus : c ≠ '-' := Text.ne_of_isDigit hDigit rfl
  unfold scanSign
  split
  · rename_i hText
    exact absurd (List.cons.inj hText).1 hPlus
  · rename_i hText
    exact absurd (List.cons.inj hText).1 hMinus
  · rfl

end Dashboard
