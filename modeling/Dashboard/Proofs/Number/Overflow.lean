import Dashboard.Proofs.Number.Digits
import Dashboard.Proofs.Number.Rounding
import Mathlib.Tactic.Ring
import Mathlib.Tactic.SplitIfs

/-
  Decimals that are too large for a floating point format.  A
  quotient is rounded out of range when it is at least the
  number in the middle between the greatest finite number and
  the one that would follow it.

  Key definitions include:
    * `FloatFormat.halfLimit`
    * `Decimal.InRange`

  Main declarations:
    * `divideToEven_le_iff_of_odd`
    * `FloatFormat.roundQuotient_lt_iff`
    * `Double.isFinite_ofDecimal_iff`
-/

------------------------------------------------------------
-- Nearest Quotients
------------------------------------------------------------

namespace Dashboard

/-
  What is rounded to at most an odd number is less than half
  a step above it, because a half goes to the even neighbour.
-/
theorem divideToEven_le_iff_of_odd
    {dividend divisor n : Nat}
    (hDivisor : 0 < divisor)
    (hOdd : n % 2 = 1) :
    divideToEven dividend divisor ≤ n ↔
      2 * dividend < (2 * n + 1) * divisor := by
  have hRest := Nat.mod_lt dividend hDivisor
  have hWhole := Nat.div_add_mod dividend divisor
  generalize hQuotient : dividend / divisor = quotient at *
  generalize hRemainder :
    dividend % divisor = remainder at *
  have hRound :
      divideToEven dividend divisor =
        if 2 * remainder < divisor then
          quotient
        else if divisor < 2 * remainder then
          quotient + 1
        else
          quotient + quotient % 2 := by
    rw [divideToEven, hQuotient, hRemainder]
  have hSplit :
      (2 * n + 1) * divisor =
        2 * (divisor * n) + divisor := by
    ring
  have hTwice :
      2 * dividend = 2 * (divisor * quotient) + 2 * remainder := by
    omega
  rw [hRound, hSplit, hTwice]
  rcases Nat.lt_trichotomy quotient n with hLess | rfl | hMore
  · have hStep :
        divisor * quotient + divisor ≤ divisor * n := by
      rw [← Nat.mul_succ]
      exact Nat.mul_le_mul_left _ hLess
    have hEven := Nat.mod_lt quotient Nat.two_pos
    constructor
    · intro _
      omega
    · intro _
      split_ifs <;> omega
  · split_ifs <;> omega
  · have hStep :
        divisor * n + divisor ≤ divisor * quotient := by
      rw [← Nat.mul_succ]
      exact Nat.mul_le_mul_left _ hMore
    constructor
    · intro hLeast
      split_ifs at hLeast <;> omega
    · intro hLeast
      omega

end Dashboard

------------------------------------------------------------
-- The Limit Of A Format
------------------------------------------------------------

namespace Dashboard

namespace FloatFormat

/-
  The count of half units in the least quotient that is
  rounded out of the range of a format.
-/
def halfLimit (f : FloatFormat) : Nat :=
  (Nat.pow 2 (f.precision + 1) - 1) *
    Nat.pow 2 (f.range - f.precision)

theorem halfLimit_eq (f : FloatFormat) :
    f.halfLimit =
      (2 * (2 ^ f.precision - 1) + 1) *
        2 ^ (f.range - f.precision) := by
  have hPositive : 0 < 2 ^ f.precision := Nat.two_pow_pos _
  have hPower :
      Nat.pow 2 (f.precision + 1) = 2 * 2 ^ f.precision := by
    rw [Nat.pow_eq, Nat.pow_succ, Nat.mul_comm]
  unfold halfLimit
  rw [hPower]
  congr 1
  omega

theorem halfLimit_le
    (f : FloatFormat)
    (hRange : f.precision ≤ f.range) :
    f.halfLimit ≤ 2 * 2 ^ f.range := by
  have hPositive : 0 < 2 ^ f.precision := Nat.two_pow_pos _
  rw [halfLimit_eq]
  calc
    _ ≤ 2 * 2 ^ f.precision * 2 ^ (f.range - f.precision) :=
      Nat.mul_le_mul_right _ (by omega)
    _ = 2 * 2 ^ f.range := by
      rw [Nat.mul_assoc, ← Nat.pow_add,
        Nat.add_sub_cancel' hRange]

theorem le_halfLimit
    (f : FloatFormat)
    (hRange : f.precision ≤ f.range) :
    2 ^ f.range ≤ f.halfLimit := by
  have hPositive : 0 < 2 ^ f.precision := Nat.two_pow_pos _
  rw [halfLimit_eq]
  calc
    2 ^ f.range =
        2 ^ f.precision * 2 ^ (f.range - f.precision) := by
      rw [← Nat.pow_add, Nat.add_sub_cancel' hRange]
    _ ≤ _ := Nat.mul_le_mul_right _ (by omega)

section

variable (f : FloatFormat)
variable {dividend divisor : Nat}

/- A quotient below half of the range stays in range. -/
theorem roundQuotient_lt_of_lt
    (hPrecision : 0 < f.precision)
    (hRange : f.precision < f.range)
    (hLess : dividend / divisor < 2 ^ (f.range - 1)) :
    f.roundQuotient dividend divisor < 2 ^ f.range := by
  have hHalf : 2 ^ (f.range - 1) < 2 ^ f.range :=
    Nat.pow_lt_pow_right (by decide) (by omega)
  rcases Nat.eq_zero_or_pos (f.surplus (dividend / divisor))
    with hNone | hSome
  · have hRound := divideToEven_le dividend divisor
    rw [roundQuotient_eq, hNone, Nat.pow_zero, Nat.mul_one,
      Nat.mul_one]
    omega
  · have hNonzero : dividend / divisor ≠ 0 := by
      intro hZero
      rw [hZero, surplus, Nat.log2_zero] at hSome
      omega
    have hBits :
        (dividend / divisor).log2 < f.range - 1 :=
      (Nat.log2_lt hNonzero).mpr hLess
    have hFloor :=
      f.div_two_pow_surplus_lt (dividend / divisor)
    have hRound :=
      divideToEven_le dividend
        (divisor * 2 ^ f.surplus (dividend / divisor))
    rw [← Nat.div_div_eq_div_mul] at hRound
    rw [roundQuotient_eq]
    calc
      _ ≤ 2 ^ f.precision *
          2 ^ f.surplus (dividend / divisor) :=
        Nat.mul_le_mul_right _ (by omega)
      _ = 2 ^ (f.precision +
          f.surplus (dividend / divisor)) :=
        (Nat.pow_add _ _ _).symm
      _ < 2 ^ f.range := by
        apply Nat.pow_lt_pow_right (by decide)
        unfold surplus at hSome ⊢
        omega

/- A quotient out of range stays out of range. -/
theorem le_roundQuotient_of_le
    (hPrecision : 0 < f.precision)
    (hMore : 2 ^ f.range ≤ dividend / divisor) :
    2 ^ f.range ≤ f.roundQuotient dividend divisor := by
  have hNonzero : dividend / divisor ≠ 0 :=
    (Nat.lt_of_lt_of_le (Nat.two_pow_pos _) hMore).ne'
  have hBits : f.range ≤ (dividend / divisor).log2 :=
    (Nat.le_log2 hNonzero).mpr hMore
  have hSurplus :
      f.surplus (dividend / divisor) ≤
        (dividend / divisor).log2 := by
    unfold surplus
    omega
  have hFloor :
      2 ^ ((dividend / divisor).log2 -
          f.surplus (dividend / divisor)) ≤
        dividend / divisor /
          2 ^ f.surplus (dividend / divisor) := by
    rw [Nat.le_div_iff_mul_le (Nat.two_pow_pos _),
      ← Nat.pow_add, Nat.sub_add_cancel hSurplus]
    exact Nat.log2_self_le hNonzero
  have hRound :=
    div_le_divideToEven dividend
      (divisor * 2 ^ f.surplus (dividend / divisor))
  rw [← Nat.div_div_eq_div_mul] at hRound
  rw [roundQuotient_eq]
  calc
    2 ^ f.range ≤ 2 ^ (dividend / divisor).log2 :=
      Nat.pow_le_pow_right Nat.two_pos hBits
    _ = 2 ^ ((dividend / divisor).log2 -
          f.surplus (dividend / divisor)) *
        2 ^ f.surplus (dividend / divisor) := by
      rw [← Nat.pow_add, Nat.sub_add_cancel hSurplus]
    _ ≤ _ :=
      Nat.mul_le_mul_right _ (Nat.le_trans hFloor hRound)

/-
  In the upper half of the range the last bit that is kept is
  always the same one.
-/
theorem roundQuotient_lt_iff_of_between
    (hPrecision : 0 < f.precision)
    (hRange : f.precision < f.range)
    (hDivisor : 0 < divisor)
    (hLeast : 2 ^ (f.range - 1) ≤ dividend / divisor)
    (hMost : dividend / divisor < 2 ^ f.range) :
    f.roundQuotient dividend divisor < 2 ^ f.range ↔
      2 * dividend < f.halfLimit * divisor := by
  have hNonzero : dividend / divisor ≠ 0 :=
    (Nat.lt_of_lt_of_le (Nat.two_pow_pos _) hLeast).ne'
  have hBits : (dividend / divisor).log2 = f.range - 1 := by
    apply Nat.le_antisymm
    · apply Nat.le_sub_one_of_lt
      exact (Nat.log2_lt hNonzero).mpr hMost
    · exact (Nat.le_log2 hNonzero).mpr hLeast
  have hSurplus :
      f.surplus (dividend / divisor) =
        f.range - f.precision := by
    rw [surplus, hBits]
    omega
  have hPower :
      2 ^ f.range =
        2 ^ f.precision * 2 ^ (f.range - f.precision) := by
    rw [← Nat.pow_add, Nat.add_sub_cancel' hRange.le]
  have hPositive : 0 < 2 ^ f.precision := Nat.two_pow_pos _
  have hOdd : (2 ^ f.precision - 1) % 2 = 1 := by
    have hEven : 2 ^ f.precision = 2 * 2 ^ (f.precision - 1) := by
      rw [← Nat.pow_succ', Nat.succ_eq_add_one,
        Nat.sub_add_cancel hPrecision]
    omega
  rw [roundQuotient_eq, hSurplus, hPower,
    Nat.mul_lt_mul_right (Nat.two_pow_pos _),
    Nat.lt_iff_le_pred hPositive,
    divideToEven_le_iff_of_odd
      (Nat.mul_pos hDivisor (Nat.two_pow_pos _)) hOdd,
    halfLimit_eq, Nat.mul_comm divisor, ← Nat.mul_assoc]

/- Only quotients below the limit are rounded into range. -/
theorem roundQuotient_lt_iff
    (hPrecision : 0 < f.precision)
    (hRange : f.precision < f.range)
    (hDivisor : 0 < divisor) :
    f.roundQuotient dividend divisor < 2 ^ f.range ↔
      2 * dividend < f.halfLimit * divisor := by
  have hDouble : 2 ^ f.range = 2 * 2 ^ (f.range - 1) := by
    rw [← Nat.pow_succ', Nat.succ_eq_add_one,
      Nat.sub_add_cancel (by omega)]
  by_cases hLess : dividend / divisor < 2 ^ (f.range - 1)
  · refine iff_of_true
      (f.roundQuotient_lt_of_lt hPrecision hRange hLess) ?_
    have hDividend :
        dividend < 2 ^ (f.range - 1) * divisor :=
      (Nat.div_lt_iff_lt_mul hDivisor).mp hLess
    calc
      2 * dividend < 2 * (2 ^ (f.range - 1) * divisor) := by
        omega
      _ = 2 ^ f.range * divisor := by
        rw [hDouble, Nat.mul_assoc]
      _ ≤ f.halfLimit * divisor :=
        Nat.mul_le_mul_right _ (f.le_halfLimit hRange.le)
  · rw [Nat.not_lt] at hLess
    by_cases hMost : dividend / divisor < 2 ^ f.range
    · exact
        f.roundQuotient_lt_iff_of_between hPrecision hRange
          hDivisor hLess hMost
    · rw [Nat.not_lt] at hMost
      refine iff_of_false ?_ ?_
      · exact Nat.not_lt.mpr
          (f.le_roundQuotient_of_le hPrecision hMost)
      · rw [Nat.not_lt]
        have hDividend :
            2 ^ f.range * divisor ≤ dividend :=
          (Nat.le_div_iff_mul_le hDivisor).mp hMost
        calc
          f.halfLimit * divisor ≤
              2 * 2 ^ f.range * divisor :=
            Nat.mul_le_mul_right _ (f.halfLimit_le hRange.le)
          _ = 2 * (2 ^ f.range * divisor) :=
            Nat.mul_assoc _ _ _
          _ ≤ 2 * dividend := Nat.mul_le_mul_left _ hDividend

end

end FloatFormat

end Dashboard

------------------------------------------------------------
-- Magnitudes
------------------------------------------------------------

namespace Dashboard

namespace Decimal

/- A number has as many places as its digits take. -/
theorem lt_ten_pow_length (n : Nat) :
    n < 10 ^ (digitsOf n).length := by
  unfold digitsOf
  induction n using Nat.base_induction 10 (by decide) with
  | single digit hDigit =>
      rw [Nat.toDigits_of_lt_base hDigit]
      exact hDigit
  | digit m d hd hm ih =>
      rw [← Nat.toDigits_append_toDigits (by decide) hm hd,
        Nat.toDigits_of_lt_base hd, List.length_append,
        List.length_singleton, Nat.pow_succ]
      omega

theorem ten_pow_length_le
    {n : Nat}
    (hPositive : 0 < n) :
    10 ^ (digitsOf n).length ≤ 10 * n := by
  unfold digitsOf
  induction n using Nat.base_induction 10 (by decide) with
  | single digit hDigit =>
      rw [Nat.toDigits_of_lt_base hDigit,
        List.length_singleton]
      omega
  | digit m d hd hm ih =>
      have hShorter := ih hm
      rw [← Nat.toDigits_append_toDigits (by decide) hm hd,
        Nat.toDigits_of_lt_base hd, List.length_append,
        List.length_singleton, Nat.pow_succ]
      omega

theorem ratio_pos (d : Decimal) : 0 < d.ratio.2 := by
  unfold ratio
  split
  · exact Nat.one_pos
  · exact Nat.pow_pos (by decide)

theorem ratio_of_eq_zero
    {d : Decimal}
    (hZero : d.significand = 0) :
    d.ratio.1 = 0 := by
  unfold ratio
  rw [hZero]
  split
  · exact Nat.zero_mul _
  · rfl

/- A decimal with zeros behind its point is small. -/
theorem ratio_mul_lt_of_magnitude
    {d : Decimal}
    {zeros : Nat}
    (hMagnitude : d.magnitude ≤ -(zeros : Int)) :
    d.ratio.1 * 10 ^ zeros < d.ratio.2 := by
  have hDigits := lt_ten_pow_length d.significand
  have hSome :=
    List.length_pos_of_ne_nil (digitsOf_ne_nil d.significand)
  unfold magnitude at hMagnitude
  unfold ratio
  split
  · rename_i n hExponent
    rw [hExponent, Int.ofNat_eq_natCast] at hMagnitude
    omega
  · rename_i n hExponent
    rw [hExponent, Int.negSucc_eq] at hMagnitude
    calc
      d.significand * 10 ^ zeros <
          10 ^ (digitsOf d.significand).length * 10 ^ zeros :=
        Nat.mul_lt_mul_of_pos_right hDigits
          (Nat.pow_pos (by decide))
      _ = 10 ^ ((digitsOf d.significand).length + zeros) :=
        (Nat.pow_add _ _ _).symm
      _ ≤ 10 ^ (n + 1) :=
        Nat.pow_le_pow_right (by decide) (by omega)

/- A decimal with more places than a power of ten has zeros. -/
theorem ten_pow_le_ratio
    {d : Decimal}
    {zeros : Nat}
    (hPositive : 0 < d.significand)
    (hMagnitude : (zeros : Int) < d.magnitude) :
    10 ^ zeros * d.ratio.2 ≤ d.ratio.1 := by
  have hDigits := ten_pow_length_le hPositive
  have hSome :=
    List.length_pos_of_ne_nil (digitsOf_ne_nil d.significand)
  unfold magnitude at hMagnitude
  generalize (digitsOf d.significand).length = places at *
  have hPower : 10 ^ places = 10 * 10 ^ (places - 1) := by
    rw [← Nat.pow_succ', Nat.succ_eq_add_one,
      Nat.sub_add_cancel hSome]
  unfold ratio
  split
  · rename_i n hExponent
    rw [hExponent, Int.ofNat_eq_natCast] at hMagnitude
    calc
      10 ^ zeros * 1 ≤ 10 ^ (places - 1 + n) := by
        rw [Nat.mul_one]
        exact Nat.pow_le_pow_right (by decide) (by omega)
      _ = 10 ^ (places - 1) * 10 ^ n := Nat.pow_add _ _ _
      _ ≤ d.significand * 10 ^ n :=
        Nat.mul_le_mul_right _ (by omega)
  · rename_i n hExponent
    rw [hExponent, Int.negSucc_eq] at hMagnitude
    calc
      10 ^ zeros * 10 ^ (n + 1) = 10 ^ (zeros + (n + 1)) :=
        (Nat.pow_add _ _ _).symm
      _ ≤ 10 ^ (places - 1) :=
        Nat.pow_le_pow_right (by decide) (by omega)
      _ ≤ d.significand := by omega

end Decimal

end Dashboard

------------------------------------------------------------
-- Decimals In Range
------------------------------------------------------------

namespace Dashboard

namespace Decimal

/- Whether a decimal is below the limit of a format. -/
def InRange (d : Decimal) (f : FloatFormat) : Prop :=
  2 * (d.ratio.1 * Nat.pow 2 f.scale) <
    f.halfLimit * d.ratio.2

instance
    (d : Decimal)
    (f : FloatFormat) :
    Decidable (d.InRange f) := by
  unfold InRange
  infer_instance

section

variable {f : FloatFormat}
variable {d : Decimal}

/- A decimal below one is in range if one is. -/
theorem inRange_of_ratio_lt
    (hOne : 2 * 2 ^ f.scale ≤ f.halfLimit)
    (hLess : d.ratio.1 < d.ratio.2) :
    d.InRange f := by
  unfold InRange
  calc
    2 * (d.ratio.1 * 2 ^ f.scale) <
        2 * (d.ratio.2 * 2 ^ f.scale) := by
      apply Nat.mul_lt_mul_of_pos_left _ Nat.two_pos
      exact Nat.mul_lt_mul_of_pos_right hLess f.one_units_pos
    _ = 2 * 2 ^ f.scale * d.ratio.2 := by ring
    _ ≤ f.halfLimit * d.ratio.2 :=
      Nat.mul_le_mul_right _ hOne

/- A decimal at least as great as one out of range is too. -/
theorem not_inRange_of_ratio_le
    {n : Nat}
    (hLimit : f.halfLimit ≤ n * (2 * 2 ^ f.scale))
    (hMany : n * d.ratio.2 ≤ d.ratio.1) :
    ¬ d.InRange f := by
  unfold InRange
  rw [Nat.not_lt]
  calc
    f.halfLimit * d.ratio.2 ≤
        n * (2 * 2 ^ f.scale) * d.ratio.2 :=
      Nat.mul_le_mul_right _ hLimit
    _ = 2 * (n * d.ratio.2 * 2 ^ f.scale) := by ring
    _ ≤ 2 * (d.ratio.1 * 2 ^ f.scale) :=
      Nat.mul_le_mul_left _ (Nat.mul_le_mul_right _ hMany)

end

end Decimal

namespace FloatFormat

theorem one_le_halfLimit
    (f : FloatFormat)
    (hRange : f.precision ≤ f.range)
    (hScale : f.scale < f.range) :
    2 * 2 ^ f.scale ≤ f.halfLimit := by
  rw [← Nat.pow_succ']
  exact Nat.le_trans
    (Nat.pow_le_pow_right Nat.two_pos hScale)
    (f.le_halfLimit hRange)

/- A number with enough zeros is out of range. -/
theorem halfLimit_le_of_zeros
    (f : FloatFormat)
    {zeros : Nat}
    (hRange : f.precision ≤ f.range)
    (hZeros : f.range ≤ 3 * zeros + f.scale) :
    f.halfLimit ≤ 10 ^ zeros * (2 * 2 ^ f.scale) := by
  calc
    f.halfLimit ≤ 2 * 2 ^ f.range := f.halfLimit_le hRange
    _ ≤ 2 * 2 ^ (3 * zeros + f.scale) :=
      Nat.mul_le_mul_left _
        (Nat.pow_le_pow_right Nat.two_pos hZeros)
    _ = 8 ^ zeros * (2 * 2 ^ f.scale) := by
      rw [Nat.pow_add, Nat.pow_mul, Nat.mul_left_comm]
    _ ≤ 10 ^ zeros * (2 * 2 ^ f.scale) :=
      Nat.mul_le_mul_right _
        (Nat.pow_le_pow_left (by decide) _)

end FloatFormat

end Dashboard

------------------------------------------------------------
-- Finite Numbers
------------------------------------------------------------

namespace Dashboard

theorem FloatFormat.fits_zero (f : FloatFormat) : f.Fits 0 :=
  ⟨Nat.two_pow_pos _, Nat.zero_mod _⟩

namespace Binary

variable {f : FloatFormat}

theorem isFinite_ofUnits_iff
    (negative : Bool)
    (units : Nat) :
    (ofUnits negative units : Binary f).isFinite = true ↔
      f.Fits units := by
  unfold ofUnits
  split
  · rename_i hFits
    exact iff_of_true rfl hFits
  · rename_i hFits
    exact iff_of_false Bool.false_ne_true hFits

/- A rounded quotient is finite below the limit. -/
theorem isFinite_ofQuotient_iff
    (hPrecision : 0 < f.precision)
    (hRange : f.precision < f.range)
    (negative : Bool)
    {dividend divisor : Nat}
    (hDivisor : 0 < divisor) :
    (ofQuotient negative dividend divisor :
        Binary f).isFinite = true ↔
      2 * dividend < f.halfLimit * divisor := by
  rw [ofQuotient, isFinite_ofUnits_iff,
    ← f.roundQuotient_lt_iff hPrecision hRange hDivisor]
  constructor
  · intro hFits
    exact hFits.1
  · exact f.fits_roundQuotient hPrecision

end Binary

/-
  The number nearest to a decimal is finite below the limit;
  the decimals that are settled by their magnitude are far
  from it.
-/
theorem Double.isFinite_ofDecimal_iff
    (negative : Bool)
    (d : Decimal) :
    (.ofDecimal negative d : Double).isFinite = true ↔
      d.InRange .double := by
  unfold Binary.ofDecimal
  split
  · rename_i hSmall
    rw [Bool.or_eq_true, decide_eq_true_eq,
      decide_eq_true_eq] at hSmall
    refine iff_of_true
      ((Binary.isFinite_ofUnits_iff _ _).mpr
        (FloatFormat.fits_zero _)) ?_
    apply Decimal.inRange_of_ratio_lt
      (FloatFormat.double.one_le_halfLimit
        (by decide) (by decide))
    rcases hSmall with hZero | hMagnitude
    · rw [Decimal.ratio_of_eq_zero hZero]
      exact d.ratio_pos
    · have hLess : d.magnitude ≤ -((0 : Nat) : Int) := by
        omega
      simpa using Decimal.ratio_mul_lt_of_magnitude hLess
  · rename_i hSmall
    rw [Bool.or_eq_true, decide_eq_true_eq] at hSmall
    split
    · rename_i hGreat
      have hPositive : 0 < d.significand :=
        Nat.pos_of_ne_zero fun hZero => hSmall (.inl hZero)
      refine iff_of_false Bool.false_ne_true ?_
      exact
        Decimal.not_inRange_of_ratio_le
          (FloatFormat.double.halfLimit_le_of_zeros
            (by decide) (by decide))
          (Decimal.ten_pow_le_ratio hPositive hGreat)
    · exact
        Binary.isFinite_ofQuotient_iff (by decide) (by decide)
          negative d.ratio_pos

end Dashboard
