import Dashboard.Number.Rounding
import Mathlib.Algebra.Order.Ring.Nat
import Mathlib.Data.Nat.Log

/-
  Rounding to a floating point format: the result has no more
  significant bits than the format keeps, and it is at most
  twice as far from zero as what is rounded.

  Main declarations:
    * `FloatFormat.roundQuotient_pos`
    * `FloatFormat.fits_roundQuotient`
    * `Binary.ofQuotient_ne_notANumber`
    * `Binary.ofQuotient_eq_finite`
-/

------------------------------------------------------------
-- Nearest Quotients
------------------------------------------------------------

namespace Dashboard

theorem div_le_divideToEven (dividend divisor : Nat) :
    dividend / divisor ≤ divideToEven dividend divisor := by
  unfold divideToEven
  dsimp only
  split
  · exact Nat.le_refl _
  · split
    · exact Nat.le_succ _
    · exact Nat.le_add_right _ _

theorem divideToEven_le (dividend divisor : Nat) :
    divideToEven dividend divisor ≤
      dividend / divisor + 1 := by
  have hEven := Nat.mod_lt (dividend / divisor) Nat.two_pos
  unfold divideToEven
  dsimp only
  split
  · exact Nat.le_succ _
  · split
    · exact Nat.le_refl _
    · omega

end Dashboard

------------------------------------------------------------
-- Significant Bits
------------------------------------------------------------

namespace Dashboard

namespace FloatFormat

/- One has units. -/
theorem one_units_pos (f : FloatFormat) :
    0 < Nat.pow 2 f.scale :=
  Nat.two_pow_pos f.scale

/- The bits of a quotient that a format has no room for. -/
def surplus (f : FloatFormat) (quotient : Nat) : Nat :=
  quotient.log2 + 1 - f.precision

theorem roundQuotient_eq
    (f : FloatFormat)
    (dividend divisor : Nat) :
    f.roundQuotient dividend divisor =
      divideToEven dividend
          (divisor * 2 ^ f.surplus (dividend / divisor)) *
        2 ^ f.surplus (dividend / divisor) := rfl

/- The first bit of a quotient is never in surplus. -/
theorem two_pow_surplus_le
    (f : FloatFormat)
    (hPrecision : 0 < f.precision)
    {quotient : Nat}
    (hPositive : 0 < quotient) :
    2 ^ f.surplus quotient ≤ quotient := by
  calc
    2 ^ f.surplus quotient ≤ 2 ^ quotient.log2 := by
      apply Nat.pow_le_pow_right Nat.two_pos
      unfold surplus
      omega
    _ ≤ quotient := Nat.log2_self_le hPositive.ne'

/- What is left of a quotient fits in the format. -/
theorem div_two_pow_surplus_lt
    (f : FloatFormat)
    (quotient : Nat) :
    quotient / 2 ^ f.surplus quotient < 2 ^ f.precision := by
  apply Nat.div_lt_of_lt_mul
  calc
    quotient < 2 ^ (quotient.log2 + 1) := Nat.lt_log2_self
    _ ≤ 2 ^ (f.surplus quotient + f.precision) := by
      apply Nat.pow_le_pow_right Nat.two_pos
      unfold surplus
      omega
    _ = 2 ^ f.surplus quotient * 2 ^ f.precision :=
      Nat.pow_add _ _ _

theorem roundQuotient_pos
    (f : FloatFormat)
    (hPrecision : 0 < f.precision)
    {dividend divisor : Nat}
    (hPositive : 0 < dividend / divisor) :
    0 < f.roundQuotient dividend divisor := by
  have hPower :=
    f.two_pow_surplus_le hPrecision hPositive
  have hQuotient :
      0 <
        dividend /
          (divisor * 2 ^ f.surplus (dividend / divisor)) := by
    rw [← Nat.div_div_eq_div_mul]
    exact Nat.div_pos hPower (Nat.two_pow_pos _)
  rw [roundQuotient_eq]
  apply Nat.mul_pos _ (Nat.two_pow_pos _)
  exact Nat.lt_of_lt_of_le hQuotient (div_le_divideToEven _ _)

theorem roundQuotient_le
    (f : FloatFormat)
    (hPrecision : 0 < f.precision)
    {dividend divisor : Nat}
    (hPositive : 0 < dividend / divisor) :
    f.roundQuotient dividend divisor ≤
      2 * (dividend / divisor) := by
  have hPower :=
    f.two_pow_surplus_le hPrecision hPositive
  have hRound :=
    divideToEven_le dividend
      (divisor * 2 ^ f.surplus (dividend / divisor))
  rw [← Nat.div_div_eq_div_mul] at hRound
  have hFloor :=
    Nat.div_mul_le_self (dividend / divisor)
      (2 ^ f.surplus (dividend / divisor))
  rw [roundQuotient_eq]
  calc
    _ ≤ _ := Nat.mul_le_mul_right _ hRound
    _ ≤ 2 * (dividend / divisor) := by
      rw [Nat.add_mul, Nat.one_mul]
      omega

/- A number with few bits and zeros behind them. -/
theorem mod_two_pow_eq_zero
    {bits zeros units : Nat}
    (hBits : 0 < bits)
    (hUnits : units ≤ 2 ^ bits) :
    units * 2 ^ zeros %
        2 ^ ((units * 2 ^ zeros).log2 + 1 - bits) = 0 := by
  rcases Nat.eq_zero_or_pos units with rfl | hPositive
  · rw [Nat.zero_mul, Nat.zero_mod]
  have hZeros : 0 < 2 ^ zeros := Nat.two_pow_pos _
  apply Nat.mod_eq_zero_of_dvd
  rcases Nat.lt_or_eq_of_le hUnits with hFewer | rfl
  · have hLog :
        (units * 2 ^ zeros).log2 < bits + zeros := by
      apply (Nat.log2_lt (Nat.mul_pos hPositive hZeros).ne').mpr
      rw [Nat.pow_add]
      exact Nat.mul_lt_mul_of_pos_right hFewer hZeros
    apply Nat.dvd_mul_left_of_dvd
    apply Nat.pow_dvd_pow
    omega
  · rw [← Nat.pow_add, Nat.log2_two_pow]
    apply Nat.pow_dvd_pow
    omega

/- A rounded number that is in range is one of the format. -/
theorem fits_roundQuotient
    (f : FloatFormat)
    (hPrecision : 0 < f.precision)
    {dividend divisor : Nat}
    (hRange :
      f.roundQuotient dividend divisor <
        Nat.pow 2 f.range) :
    f.Fits (f.roundQuotient dividend divisor) := by
  refine ⟨hRange, ?_⟩
  have hFloor :=
    f.div_two_pow_surplus_lt (dividend / divisor)
  have hRound :=
    divideToEven_le dividend
      (divisor * 2 ^ f.surplus (dividend / divisor))
  rw [← Nat.div_div_eq_div_mul] at hRound
  rw [roundQuotient_eq]
  exact mod_two_pow_eq_zero hPrecision (by omega)

end FloatFormat

end Dashboard

------------------------------------------------------------
-- Rounded Numbers
------------------------------------------------------------

namespace Dashboard

namespace Binary

variable {f : FloatFormat}

theorem ofUnits_ne_notANumber
    (negative : Bool)
    (units : Nat) :
    (ofUnits negative units : Binary f) ≠ .notANumber := by
  unfold ofUnits
  split
  · rintro ⟨⟩
  · rintro ⟨⟩

theorem isNegative_ofUnits
    (negative : Bool)
    (units : Nat) :
    (ofUnits negative units : Binary f).isNegative =
      negative := by
  unfold ofUnits
  split
  · rfl
  · rfl

theorem ofQuotient_ne_notANumber
    (negative : Bool)
    (dividend divisor : Nat) :
    (ofQuotient negative dividend divisor : Binary f) ≠
      .notANumber :=
  ofUnits_ne_notANumber _ _

theorem ofInt_ne_notANumber (n : Int) :
    (ofInt n : Binary f) ≠ .notANumber :=
  ofQuotient_ne_notANumber _ _ _

/- A quotient in range is rounded to a finite number. -/
theorem ofQuotient_eq_finite
    (hPrecision : 0 < f.precision)
    (negative : Bool)
    {dividend divisor : Nat}
    (hRange :
      f.roundQuotient dividend divisor <
        Nat.pow 2 f.range) :
    (ofQuotient negative dividend divisor : Binary f) =
      finite negative (f.roundQuotient dividend divisor)
        (f.fits_roundQuotient hPrecision hRange) :=
  dif_pos _

theorem neg_ne_notANumber
    {x : Binary f}
    (hDefined : x ≠ .notANumber) :
    x.neg ≠ .notANumber := by
  cases x with
  | finite negative units fits => rintro ⟨⟩
  | infinite negative => rintro ⟨⟩
  | notANumber => exact absurd rfl hDefined

end Binary

end Dashboard
