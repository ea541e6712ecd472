import Dashboard.Number.Notation
import Dashboard.Proofs.Number.Amount
import Dashboard.Proofs.Number.Shortest
import Mathlib.Data.List.Induction

/-
  Numbers as they stand in a sentence.  A finite number is
  written as an amount without leading zeros, after a minus
  sign if it is negative, and this amount reads back as the
  same number.

  Key definitions include:
    * `Amount.decimal`
    * `Amount.IsPlain`
    * `NumberLiteral.minus`

  Main declarations:
    * `NumberStyle.exists_amount_writeUnits`
    * `Double.exists_amount_prose`
-/

------------------------------------------------------------
-- Values Of Digits
------------------------------------------------------------

namespace Dashboard

namespace Decimal

/- Leading zeros count for nothing. -/
theorem valueOf_zeros_append
    (zeros : Nat)
    (digits : List Char) :
    valueOf (List.replicate zeros '0' ++ digits) =
      valueOf digits := by
  induction zeros with
  | zero => rfl
  | succ n ih =>
      rw [List.replicate_succ, List.cons_append]
      exact ih

/- Each zero at the end makes ten times as much. -/
theorem valueOf_append_zeros
    (digits : List Char)
    (zeros : Nat) :
    valueOf (digits ++ List.replicate zeros '0') =
      valueOf digits * 10 ^ zeros := by
  induction zeros with
  | zero => simp
  | succ n ih =>
      rw [List.replicate_succ', ← List.append_assoc,
        valueOf_append, ih, Nat.pow_succ]
      have hZero : '0'.toNat - 48 = 0 := rfl
      rw [hZero]
      ring

theorem digitsOf_digit
    {d : Char}
    (hDigit : Text.isDigit d = true) :
    d.toNat - 48 < 10 ∧ digitsOf (d.toNat - 48) = [d] := by
  have hAll :
      (Text.digits.all fun d =>
          d.toNat - 48 < 10 && digitsOf (d.toNat - 48) == [d]) =
        true := by
    decide
  have hHere :=
    List.all_eq_true.mp hAll d
      (Text.mem_digits_of_isDigit hDigit)
  rw [Bool.and_eq_true, decide_eq_true_eq, beq_iff_eq] at hHere
  exact hHere

/- Digits without leading zeros are those of their value. -/
theorem digitsOf_valueOf
    {digits : List Char}
    (hSome : digits ≠ [])
    (hDigits : ∀ c ∈ digits, Text.isDigit c = true)
    (hPlain : digits.head? = some '0' → digits = ['0']) :
    digitsOf (valueOf digits) = digits := by
  induction digits using List.reverseRecOn with
  | nil => exact absurd rfl hSome
  | append_singleton init d ih =>
      rw [List.forall_mem_append, List.forall_mem_singleton]
        at hDigits
      rcases digitsOf_digit hDigits.2 with ⟨hLess, hLast⟩
      by_cases hInit : init = []
      · subst hInit
        simpa [valueOf] using hLast
      · have hFirst : init.head? ≠ some '0' := by
          intro hZero
          rw [List.head?_append_of_ne_nil _ hInit] at hPlain
          have hSingle := hPlain hZero
          have hLength := congrArg List.length hSingle
          simp [hInit] at hLength
        have hBefore :
            digitsOf (valueOf init) = init :=
          ih hInit hDigits.1 fun hZero => absurd hZero hFirst
        have hPositive : 0 < valueOf init := by
          by_contra hNot
          rw [Nat.eq_zero_of_not_pos hNot] at hBefore
          rw [← hBefore] at hFirst
          exact hFirst rfl
        rw [valueOf_append, digitsOf,
          ← Nat.toDigits_append_toDigits (by decide) hPositive
            hLess]
        rw [← digitsOf, ← digitsOf, hBefore, hLast]

end Decimal

namespace NumberStyle

open Decimal

/- The digits of a decimal without the zeros at their end. -/
theorem exists_digitsOf_eq_significant
    {d : Decimal}
    (hPositive : 0 < d.significand) :
    ∃ zeros,
      digitsOf d.significand =
        significant d ++ List.replicate zeros '0' := by
  let reversed := (digitsOf d.significand).reverse
  let kept := reversed.dropWhile (· == '0')
  have hSplit :
      digitsOf d.significand =
        kept.reverse ++
          (reversed.takeWhile (· == '0')).reverse := by
    rw [← List.reverse_append, List.takeWhile_append_dropWhile,
      List.reverse_reverse]
  have hZeros :
      (reversed.takeWhile (· == '0')).reverse =
        List.replicate
          (reversed.takeWhile (· == '0')).length '0' := by
    rw [List.eq_replicate_iff]
    refine ⟨List.length_reverse, fun c hMem => ?_⟩
    have hZero :=
      List.mem_takeWhile_imp (List.mem_reverse.mp hMem)
    exact beq_iff_eq.mp hZero
  have hKept : kept.reverse ≠ [] := by
    intro hNil
    have hValue := valueOf_digitsOf d.significand
    rw [hSplit, hNil, hZeros, List.nil_append] at hValue
    have hNothing :=
      valueOf_append_zeros []
        (reversed.takeWhile (· == '0')).length
    rw [List.nil_append, hValue] at hNothing
    simp [valueOf] at hNothing
    omega
  have hSignificant : significant d = kept.reverse := by
    unfold significant
    split
    · rename_i hNil
      exact absurd hNil hKept
    · rfl
  refine ⟨(reversed.takeWhile (· == '0')).length, ?_⟩
  rw [hSignificant, ← hZeros]
  exact hSplit

theorem isDigit_of_mem_significant
    {d : Decimal}
    (hPositive : 0 < d.significand)
    {c : Char}
    (hMem : c ∈ significant d) :
    Text.isDigit c = true := by
  rcases exists_digitsOf_eq_significant hPositive with
    ⟨zeros, hDigits⟩
  apply isDigit_of_mem_digitsOf
  rw [hDigits]
  exact List.mem_append_left _ hMem

theorem significant_ne_nil (d : Decimal) :
    significant d ≠ [] := by
  unfold significant
  split
  · exact List.cons_ne_nil _ _
  · rename_i hSome
    exact hSome

theorem head?_significant
    {d : Decimal}
    (hPositive : 0 < d.significand) :
    (significant d).head? ≠ some '0' := by
  rcases exists_digitsOf_eq_significant hPositive with
    ⟨zeros, hDigits⟩
  have hFirst := head?_digitsOf hPositive
  rwa [hDigits,
    List.head?_append_of_ne_nil _ (significant_ne_nil d)]
    at hFirst

end NumberStyle

end Dashboard

------------------------------------------------------------
-- Written Amounts
------------------------------------------------------------

namespace Dashboard

namespace Amount

/- An amount as a decimal. -/
def decimal (n : Amount) : Decimal :=
  ⟨Decimal.valueOf (n.whole.chars ++ n.fraction),
    -(n.fraction.length : Int)⟩

/- Only zero itself is written with a leading zero. -/
def IsPlain (n : Amount) : Prop :=
  n.whole.chars.head? = some '0' → n.whole.chars = ['0']

end Amount

namespace NumberStyle

open Decimal

variable {digits : List Char}

/-
  Digits that are written out are an amount of the same value:
  zeros stand in for places that they do not reach.
-/
theorem exists_amount_writePlain
    (point : Int)
    (hSome : digits ≠ [])
    (hDigits : ∀ c ∈ digits, Text.isDigit c = true)
    (hFirst : digits.head? ≠ some '0') :
    ∃ n : Amount,
      prose.writePlain digits point = n.text ∧ n.IsPlain ∧
        ∃ more places : Nat,
          n.decimal =
              ⟨valueOf digits * 10 ^ more, -(places : Int)⟩ ∧
            point - digits.length = (more : Int) - places := by
  have hZeros :
      ∀ zeros, ∀ c ∈ List.replicate zeros '0',
        Text.isDigit c = true := by
    intro zeros c hMem
    rw [List.eq_of_mem_replicate hMem]
    rfl
  unfold writePlain
  split
  · rename_i hPoint
    let zeros := List.replicate (-point).toNat '0'
    refine
      ⟨⟨⟨['0'], List.cons_ne_nil _ _, ?_⟩,
          some ⟨zeros ++ digits, ?_, ?_⟩⟩,
        rfl, fun _ => rfl, 0,
        (-point).toNat + digits.length, ?_, by omega⟩
    · exact List.forall_mem_singleton.mpr rfl
    · exact List.append_ne_nil_of_right_ne_nil _ hSome
    · exact List.forall_mem_append.mpr ⟨hZeros _, hDigits⟩
    · have hValue :
          valueOf (['0'] ++ (zeros ++ digits)) =
            valueOf digits :=
        valueOf_zeros_append _ _
      simp only [Amount.decimal, Amount.fraction, hValue,
        zeros]
      simp
  · rename_i hPoint
    dsimp only
    split
    · rename_i hLength
      let zeros :=
        List.replicate (point.toNat - digits.length) '0'
      refine
        ⟨⟨⟨digits ++ zeros, ?_, ?_⟩, none⟩, ?_, ?_,
          point.toNat - digits.length, 0, ?_, by omega⟩
      · exact List.append_ne_nil_of_left_ne_nil hSome _
      · exact List.forall_mem_append.mpr ⟨hDigits, hZeros _⟩
      · simp [Amount.text, Amount.pointed, prose, zeros]
      · intro hZero
        rw [List.head?_append_of_ne_nil _ hSome] at hZero
        exact absurd hZero hFirst
      · simp only [Amount.decimal, Amount.fraction,
          List.append_nil, valueOf_append_zeros, zeros]
        simp
    · rename_i hLength
      have hWhole : digits.take point.toNat ≠ [] := by
        rw [Ne, List.take_eq_nil_iff, not_or]
        exact ⟨by omega, hSome⟩
      have hPlaces : digits.drop point.toNat ≠ [] := by
        rw [Ne, List.drop_eq_nil_iff]
        omega
      refine
        ⟨⟨⟨digits.take point.toNat, hWhole, ?_⟩,
            some ⟨digits.drop point.toNat, hPlaces, ?_⟩⟩, rfl,
          ?_, 0, digits.length - point.toNat, ?_, by omega⟩
      · exact fun c hMem =>
          hDigits c (List.mem_of_mem_take hMem)
      · exact fun c hMem =>
          hDigits c (List.mem_of_mem_drop hMem)
      · intro hZero
        rw [List.head?_take, if_neg (by omega)] at hZero
        exact absurd hZero hFirst
      · simp only [Amount.decimal, Amount.fraction,
          List.take_append_drop]
        simp

/-
  A finite magnitude is written as an amount without leading
  zeros, and reads back as itself.
-/
theorem exists_amount_writeUnits
    {f : FloatFormat}
    {units : Nat}
    (hFits : f.Fits units) :
    ∃ n : Amount,
      prose.writeUnits f units = n.text ∧ n.IsPlain ∧
        f.nearest n.decimal = units := by
  unfold writeUnits
  split
  · rename_i hNone
    subst hNone
    refine
      ⟨⟨⟨['0'], List.cons_ne_nil _ _, ?_⟩, none⟩, rfl,
        fun _ => rfl, ?_⟩
    · exact List.forall_mem_singleton.mpr rfl
    · exact f.nearest_of_eq_zero rfl
  · rename_i hSome
    have hNearest := f.nearest_shortest prose.tie hFits
    generalize f.shortest prose.tie units = d at hNearest
    have hPositive : 0 < d.significand := by
      by_contra hNot
      have hZero :=
        f.nearest_of_eq_zero (Nat.eq_zero_of_not_pos hNot)
      omega
    rcases exists_digitsOf_eq_significant hPositive with
      ⟨zeros, hDigits⟩
    rcases exists_amount_writePlain d.magnitude
        (significant_ne_nil d)
        (fun _ => isDigit_of_mem_significant hPositive)
        (head?_significant hPositive) with
      ⟨n, hText, hPlain, more, places, hDecimal, hPoint⟩
    refine ⟨n, hText, hPlain, ?_⟩
    rw [← hNearest]
    symm
    have hValue :
        d.significand =
          valueOf (significant d) * 10 ^ zeros := by
      rw [← valueOf_append_zeros, ← hDigits, valueOf_digitsOf]
    have hExponent :
        d.exponent + zeros = (more : Int) - places := by
      rw [← hPoint, magnitude, hDigits, List.length_append,
        List.length_replicate]
      omega
    apply f.nearest_of_same
    rw [hDecimal]
    have hSame :
        Same
          ⟨valueOf (significant d) * 10 ^ zeros, d.exponent⟩
          ⟨valueOf (significant d) * 10 ^ more,
            -(places : Int)⟩ :=
      same_of_zeros hExponent
    rwa [← hValue] at hSame

end NumberStyle

end Dashboard

------------------------------------------------------------
-- Doubles In Prose
------------------------------------------------------------

namespace Dashboard

/- The sign of a number, if it is written. -/
def NumberLiteral.minus (negative : Bool) : List Char :=
  if negative then ['-'] else []

/-
  A finite double is written as an amount without leading
  zeros behind its sign, and that amount is read as the same
  double.
-/
theorem Double.exists_amount_prose
    (negative : Bool)
    {units : Nat}
    (hFits : FloatFormat.double.Fits units) :
    ∃ n : Amount,
      (Binary.finite negative units hFits : Double).prose =
          String.ofList
            (NumberLiteral.minus negative ++ n.text) ∧
        n.IsPlain ∧
        (.ofDecimal negative n.decimal : Double) =
          .finite negative units hFits := by
  rcases NumberStyle.exists_amount_writeUnits hFits with
    ⟨n, hText, hPlain, hNearest⟩
  refine ⟨n, ?_, hPlain, ?_⟩
  · rw [← hText]
    rfl
  · rw [Double.ofDecimal_eq_ofUnits, hNearest]
    exact dif_pos hFits

end Dashboard
