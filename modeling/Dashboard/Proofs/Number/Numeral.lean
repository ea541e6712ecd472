import Dashboard.Number.Numeral
import Dashboard.Proofs.Number.Rounding

/-
  Reading a numeral in steps never ends at an undefined
  number: a power of ten is finite and not zero, so nothing is
  divided by zero and no infinity by another.

  Main declarations:
    * `Double.tenTo_eq_finite`
    * `Double.scale?_ne_notANumber`
    * `Numeral.stepwise?_ne_notANumber`
-/

------------------------------------------------------------
-- Powers Of Ten
------------------------------------------------------------

namespace Dashboard

namespace Double

/- A power of ten in units. -/
def tenUnits (n : Nat) : Nat :=
  Nat.pow 10 n * Nat.pow 2 FloatFormat.double.scale

theorem tenUnits_pos (n : Nat) : 0 < tenUnits n :=
  Nat.mul_pos (Nat.pow_pos (Nat.succ_pos 9))
    FloatFormat.double.one_units_pos

theorem tenUnits_le
    {n m : Nat}
    (hPlaces : n ≤ m) :
    tenUnits n ≤ tenUnits m :=
  Nat.mul_le_mul_right _
    (Nat.pow_le_pow_right (Nat.succ_pos 9) hPlaces)

theorem tenTo_eq_ofQuotient
    {n : Nat}
    (hPlaces : n < 999) :
    tenTo n = .ofQuotient false (tenUnits n) 1 := by
  have hMagnitude :
      Decimal.magnitude ⟨1, n⟩ = 1 + (n : Int) := by
    unfold Decimal.magnitude Decimal.digitsOf
    rw [Nat.toDigits_of_lt_base (Nat.one_lt_succ_succ 8)]
    rfl
  have hSmall : ¬ 1 + (n : Int) < -1000 := by omega
  have hLarge : ¬ 1000 < 1 + (n : Int) := by omega
  have hNearest :
      FloatFormat.double.nearest ⟨1, n⟩ =
        FloatFormat.double.roundQuotient (tenUnits n) 1 := by
    unfold FloatFormat.nearest tenUnits
    simp only [Decimal.ratio, Nat.one_mul]
  unfold tenTo Binary.ofDecimal
  rw [hMagnitude, hNearest, decide_eq_false hSmall,
    if_neg hLarge, Binary.ofQuotient]
  exact if_neg Bool.false_ne_true

theorem roundQuotient_greatestUnits_lt :
    FloatFormat.double.roundQuotient
        (tenUnits greatestExponent) 1 <
      Nat.pow 2 FloatFormat.double.range := by
  decide +kernel

theorem twice_tenUnits_lt :
    2 * tenUnits 307 < Nat.pow 2 FloatFormat.double.range := by
  decide +kernel

/-
  Twice a power of ten is in range, so its rounding is.  Only
  the greatest one has to be rounded.
-/
theorem roundQuotient_tenUnits_lt
    {n : Nat}
    (hPlaces : n ≤ greatestExponent) :
    FloatFormat.double.roundQuotient (tenUnits n) 1 <
      Nat.pow 2 FloatFormat.double.range := by
  by_cases hGreatest : n = greatestExponent
  · rw [hGreatest]
    exact roundQuotient_greatestUnits_lt
  · have hPositive : 0 < tenUnits n / 1 := by
      rw [Nat.div_one]
      exact tenUnits_pos n
    have hFewer : n ≤ 307 := by
      unfold greatestExponent at hPlaces hGreatest
      omega
    have hRound :=
      FloatFormat.double.roundQuotient_le (by decide)
        hPositive
    rw [Nat.div_one] at hRound
    have hTwice :=
      Nat.mul_le_mul_left 2 (tenUnits_le hFewer)
    exact
      Nat.lt_of_le_of_lt (Nat.le_trans hRound hTwice)
        twice_tenUnits_lt

/- Every power of ten that is used is finite and not zero. -/
theorem tenTo_eq_finite
    {n : Nat}
    (hPlaces : n ≤ greatestExponent) :
    ∃ units fits,
      0 < units ∧ tenTo n = .finite false units fits := by
  have hRange := roundQuotient_tenUnits_lt hPlaces
  have hPositive :
      0 < FloatFormat.double.roundQuotient (tenUnits n) 1 := by
    apply FloatFormat.double.roundQuotient_pos (by decide)
    rw [Nat.div_one]
    exact tenUnits_pos n
  have hFew : n < 999 :=
    Nat.lt_of_le_of_lt hPlaces (by decide)
  rw [tenTo_eq_ofQuotient hFew,
    Binary.ofQuotient_eq_finite (f := .double) (by decide)
      _ hRange]
  exact ⟨_, _, hPositive, rfl⟩

end Double

end Dashboard

------------------------------------------------------------
-- Steps
------------------------------------------------------------

namespace Dashboard

namespace Double

theorem div_finite_ne_notANumber
    {x : Double}
    {negative : Bool}
    {units : Nat}
    {fits : FloatFormat.double.Fits units}
    (hX : x ≠ .notANumber)
    (hUnits : 0 < units) :
    x.div (.finite negative units fits) ≠ .notANumber := by
  cases x with
  | finite sign own ownFits =>
      unfold Binary.div
      dsimp only
      rw [if_neg hUnits.ne']
      exact Binary.ofQuotient_ne_notANumber _ _ _
  | infinite sign => rintro ⟨⟩
  | notANumber => exact absurd rfl hX

theorem div_tenTo_ne_notANumber
    {x : Double}
    {n : Nat}
    (hX : x ≠ .notANumber)
    (hPlaces : n ≤ greatestExponent) :
    x.div (tenTo n) ≠ .notANumber := by
  rcases tenTo_eq_finite hPlaces with
    ⟨units, fits, hPositive, hTen⟩
  rw [hTen]
  exact div_finite_ne_notANumber hX hPositive

theorem lower_ne_notANumber
    {x : Double}
    (hX : x ≠ .notANumber)
    (n : Nat) :
    lower x n ≠ .notANumber := by
  unfold lower
  split
  · exact div_tenTo_ne_notANumber hX ‹_›
  · split
    · apply div_tenTo_ne_notANumber
      · exact div_tenTo_ne_notANumber hX (Nat.le_refl _)
      · omega
    · exact Binary.ofUnits_ne_notANumber _ _

theorem scale?_ne_notANumber
    {x y : Double}
    {exponent : Int}
    (hX : x ≠ .notANumber)
    (hScale : scale? x exponent = some y) :
    y ≠ .notANumber := by
  cases exponent with
  | ofNat n =>
      have hFinite := (Option.filter_eq_some_iff.mp hScale).2
      rintro rfl
      cases hFinite
  | negSucc n =>
      cases hScale
      exact lower_ne_notANumber hX (n + 1)

end Double

/- A numeral that is read in steps is a defined number. -/
theorem Numeral.stepwise?_ne_notANumber
    {numeral : Numeral}
    {x : Double}
    (hRead : numeral.stepwise? = some x) :
    x ≠ .notANumber := by
  rcases Option.map_eq_some_iff.mp hRead with
    ⟨y, hScale, rfl⟩
  have hY : y ≠ .notANumber :=
    Double.scale?_ne_notANumber
      (Binary.ofInt_ne_notANumber _) hScale
  unfold Numeral.withSign
  split
  · exact Binary.neg_ne_notANumber hY
  · exact hY

end Dashboard
