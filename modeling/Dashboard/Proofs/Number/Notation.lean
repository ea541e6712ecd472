import Dashboard.Number.Notation
import Dashboard.Proofs.Number.Digits

/-
  The characters that written numbers consist of.

  Main declarations:
    * `NumberStyle.isNumberChar`
    * `NumberStyle.isNumberChar_of_mem_write`
-/

------------------------------------------------------------
-- Characters Of A Number
------------------------------------------------------------

namespace Dashboard

namespace NumberStyle

/- The characters that stand in finite numbers. -/
def isNumberChar (c : Char) : Bool :=
  Text.isDigit c || c == '.' || c == '-' || c == '+' ||
    c == 'e'

theorem isNumberChar_of_isDigit
    {c : Char}
    (hDigit : Text.isDigit c = true) :
    isNumberChar c = true := by
  simp [isNumberChar, hDigit]

theorem isNumberChar_of_mem_digitsOf
    {n : Nat}
    {c : Char}
    (hMem : c ∈ Decimal.digitsOf n) :
    isNumberChar c = true :=
  isNumberChar_of_isDigit
    (Decimal.isDigit_of_mem_digitsOf hMem)

theorem isNumberChar_of_mem_significant
    {d : Decimal}
    {c : Char}
    (hMem : c ∈ significant d) :
    isNumberChar c = true := by
  unfold significant at hMem
  split at hMem
  · rw [List.mem_singleton.mp hMem]
    rfl
  · have hReverse := List.mem_reverse.mp hMem
    have hDigits :=
      (List.dropWhile_sublist _).subset hReverse
    exact isNumberChar_of_mem_digitsOf
      (List.mem_reverse.mp hDigits)

theorem isNumberChar_of_mem_writePlain
    {style : NumberStyle}
    {digits : List Char}
    {point : Int}
    (hDigits : ∀ c ∈ digits, isNumberChar c = true)
    {c : Char}
    (hMem : c ∈ style.writePlain digits point) :
    isNumberChar c = true := by
  have hZeros :
      ∀ n, c ∈ List.replicate n '0' →
        isNumberChar c = true := by
    intro n hZero
    rw [List.eq_of_mem_replicate hZero]
    rfl
  unfold writePlain at hMem
  split at hMem
  · simp only [List.cons_append, List.mem_cons,
      List.mem_append] at hMem
    rcases hMem with rfl | rfl | hZero | hDigit
    · rfl
    · rfl
    · exact hZeros _ hZero
    · exact hDigits c hDigit
  · dsimp only at hMem
    split at hMem
    · simp only [List.mem_append] at hMem
      rcases hMem with (hDigit | hZero) | hPlace
      · exact hDigits c hDigit
      · exact hZeros _ hZero
      · split at hPlace
        · simp only [List.mem_cons, List.not_mem_nil,
            or_false] at hPlace
          rcases hPlace with rfl | rfl
          · rfl
          · rfl
        · cases hPlace
    · simp only [List.mem_append, List.mem_cons] at hMem
      rcases hMem with hDigit | rfl | hDigit
      · exact hDigits c (List.mem_of_mem_take hDigit)
      · rfl
      · exact hDigits c (List.mem_of_mem_drop hDigit)

theorem isNumberChar_of_mem_writeExponent
    {digits : List Char}
    {point : Int}
    (hDigits : ∀ c ∈ digits, isNumberChar c = true)
    {c : Char}
    (hMem : c ∈ writeExponent digits point) :
    isNumberChar c = true := by
  unfold writeExponent at hMem
  dsimp only at hMem
  simp only [List.mem_append, List.mem_cons] at hMem
  rcases hMem with
    (hDigit | hPlaces) | rfl | hSign | hDigit
  · exact hDigits c (List.mem_of_mem_take hDigit)
  · split at hPlaces
    · cases hPlaces
    · rcases List.mem_cons.mp hPlaces with rfl | hDigit
      · rfl
      · exact hDigits c (List.mem_of_mem_drop hDigit)
  · rfl
  · split at hSign
    · subst hSign
      rfl
    · subst hSign
      rfl
  · exact isNumberChar_of_mem_digitsOf hDigit

theorem isNumberChar_of_mem_writeUnits
    {style : NumberStyle}
    {f : FloatFormat}
    {units : Nat}
    {c : Char}
    (hMem : c ∈ style.writeUnits f units) :
    isNumberChar c = true := by
  unfold writeUnits writeDecimal at hMem
  split at hMem
  · refine isNumberChar_of_mem_writePlain ?_ hMem
    intro d hZero
    rw [List.mem_singleton.mp hZero]
    rfl
  · dsimp only at hMem
    split at hMem
    · exact isNumberChar_of_mem_writePlain
        (fun _ => isNumberChar_of_mem_significant) hMem
    · split at hMem
      · exact isNumberChar_of_mem_writePlain
          (fun _ => isNumberChar_of_mem_significant) hMem
      · exact isNumberChar_of_mem_writeExponent
          (fun _ => isNumberChar_of_mem_significant) hMem

/-
  A finite number is written in digits, points, signs and the
  mark of an exponent, whatever the style.
-/
theorem isNumberChar_of_mem_write
    {f : FloatFormat}
    {style : NumberStyle}
    {x : Binary f}
    (hFinite : x.isFinite = true)
    {c : Char}
    (hMem : c ∈ style.write x) :
    isNumberChar c = true := by
  cases x with
  | finite negative units fits =>
      unfold write at hMem
      dsimp only at hMem
      rcases List.mem_append.mp hMem with hSign | hUnits
      · split at hSign
        · rw [List.mem_singleton.mp hSign]
          rfl
        · cases hSign
      · exact isNumberChar_of_mem_writeUnits hUnits
  | infinite negative => cases hFinite
  | notANumber => cases hFinite

end NumberStyle

end Dashboard
