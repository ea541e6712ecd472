import Dashboard.Number.Decimal
import Dashboard.Text.Word
import Mathlib.Data.List.Basic

/-
  The decimal digits of natural numbers.

  Main declarations:
    * `Decimal.isDigit_of_mem_digitsOf`
    * `Decimal.valueOf_digitsOf`
    * `Decimal.valueOf_append`
    * `Decimal.head?_digitsOf`
-/

------------------------------------------------------------
-- Digits Of A Number
------------------------------------------------------------

namespace Dashboard

namespace Decimal

theorem isDigit_of_mem_digitsOf
    {n : Nat}
    {c : Char}
    (hMem : c ∈ digitsOf n) :
    Text.isDigit c = true := by
  have hDigit : c.isDigit = true :=
    Nat.isDigit_of_mem_toDigits (by decide) (by decide) hMem
  simpa [Char.isDigit, Text.isDigit, Char.le_def] using
    hDigit

theorem digitsOf_ne_nil (n : Nat) : digitsOf n ≠ [] :=
  Nat.toDigits_ne_nil

/- The digits of a number have its value. -/
@[simp] theorem valueOf_digitsOf (n : Nat) :
    valueOf (digitsOf n) = n := by
  have hFold :
      valueOf (digitsOf n) =
        Nat.ofDigitChars 10 (Nat.toDigits 10 n) 0 :=
    Nat.ofDigitChars_eq_foldl.symm
  rw [hFold, Nat.ofDigitChars_ten_toDigits]

theorem valueOf_append (init : List Char) (d : Char) :
    valueOf (init ++ [d]) = 10 * valueOf init + (d.toNat - 48) := by
  simp [valueOf]

/- Only zero is written with a leading zero. -/
theorem head?_digitsOf
    {n : Nat}
    (hPositive : 0 < n) :
    (digitsOf n).head? ≠ some '0' := by
  unfold digitsOf
  induction n using Nat.base_induction 10 (by decide) with
  | single digit hDigit =>
      rw [Nat.toDigits_of_lt_base hDigit]
      intro hHead
      have hChar : digit.digitChar = '0' :=
        Option.some.inj hHead
      have hValue :=
        Nat.toNat_digitChar_sub_48_of_lt_ten hDigit
      rw [hChar] at hValue
      have hZero : digit = 0 := hValue.symm
      omega
  | digit m d hd hm ih =>
      rw [← Nat.toDigits_append_toDigits (by decide) hm hd,
        List.head?_append_of_ne_nil _ Nat.toDigits_ne_nil]
      exact ih hm

end Decimal

end Dashboard
