import Dashboard.Proofs.Number.Overflow

/-
  Reading back a shortest decimal.  The number nearest to a
  decimal depends on its value only, not on how the decimal
  is written, and a shortest decimal is one whose nearest
  number is the one that it was made for.

  Key definitions include:
    * `Decimal.Same`

  Main declarations:
    * `FloatFormat.nearest_of_same`
    * `FloatFormat.nearest_shortest`
    * `Double.ofDecimal_eq_ofUnits`
-/

------------------------------------------------------------
-- Equal Quotients
------------------------------------------------------------

namespace Dashboard

theorem divideToEven_scale
    {k : Nat}
    (hPositive : 0 < k)
    (dividend divisor : Nat) :
    divideToEven (dividend * k) (divisor * k) =
      divideToEven dividend divisor := by
  have hTwice :
      2 * (dividend % divisor * k) =
        2 * (dividend % divisor) * k :=
    (Nat.mul_assoc _ _ _).symm
  unfold divideToEven
  rw [Nat.mul_div_mul_right _ _ hPositive,
    Nat.mul_mod_mul_right, hTwice]
  simp only [Nat.mul_lt_mul_right hPositive]

namespace FloatFormat

variable (f : FloatFormat)

theorem roundQuotient_scale
    {k : Nat}
    (hPositive : 0 < k)
    (dividend divisor : Nat) :
    f.roundQuotient (dividend * k) (divisor * k) =
      f.roundQuotient dividend divisor := by
  rw [roundQuotient_eq, roundQuotient_eq,
    Nat.mul_div_mul_right _ _ hPositive, Nat.mul_right_comm,
    divideToEven_scale hPositive]

/- Equal quotients are rounded alike. -/
theorem roundQuotient_congr
    {dividend divisor other base : Nat}
    (hDivisor : 0 < divisor)
    (hBase : 0 < base)
    (hSame : dividend * base = other * divisor) :
    f.roundQuotient dividend divisor =
      f.roundQuotient other base := by
  calc
    f.roundQuotient dividend divisor =
        f.roundQuotient (dividend * base) (divisor * base) :=
      (f.roundQuotient_scale hBase _ _).symm
    _ = f.roundQuotient (other * divisor) (base * divisor) := by
      rw [hSame, Nat.mul_comm divisor]
    _ = f.roundQuotient other base :=
      f.roundQuotient_scale hDivisor _ _

/- A number of the format is rounded to itself. -/
theorem roundQuotient_one
    {units : Nat}
    (hFits : f.Fits units) :
    f.roundQuotient units 1 = units := by
  have hRest : units % 2 ^ f.surplus units = 0 := hFits.2
  rw [roundQuotient_eq, Nat.div_one, Nat.one_mul]
  unfold divideToEven
  rw [hRest]
  have hPositive : 0 < 2 ^ f.surplus units :=
    Nat.two_pow_pos _
  simp only [Nat.mul_zero, hPositive, if_true]
  exact Nat.div_mul_cancel (Nat.dvd_of_mod_eq_zero hRest)

end FloatFormat

end Dashboard

------------------------------------------------------------
-- Equal Decimals
------------------------------------------------------------

namespace Dashboard

namespace Decimal

/- Two ways to write the same number. -/
def Same (d e : Decimal) : Prop :=
  d.ratio.1 * e.ratio.2 = e.ratio.1 * d.ratio.2

theorem ratio_natCast (n zeros : Nat) :
    ratio ⟨n, (zeros : Int)⟩ = (n * 10 ^ zeros, 1) :=
  rfl

theorem ratio_neg (n places : Nat) :
    ratio ⟨n, -(places : Int)⟩ = (n, 10 ^ places) := by
  cases places with
  | zero => exact congrArg (·, 1) (Nat.mul_one n)
  | succ places => rfl

/- Zeros may be written out in place of an exponent. -/
theorem same_of_zeros
    {n zeros more places : Nat}
    {exponent : Int}
    (hExponent : exponent + zeros = (more : Int) - places) :
    Same ⟨n * 10 ^ zeros, exponent⟩
      ⟨n * 10 ^ more, -(places : Int)⟩ := by
  unfold Same
  rw [ratio_neg]
  rcases Int.eq_nat_or_neg exponent with ⟨m, rfl | rfl⟩
  · have hMore : more = m + zeros + places := by omega
    rw [ratio_natCast, hMore]
    dsimp only
    ring
  · have hMore : more + m = zeros + places := by omega
    rw [ratio_neg]
    dsimp only
    calc
      n * 10 ^ zeros * 10 ^ places =
          n * 10 ^ (zeros + places) := by ring
      _ = n * 10 ^ more * 10 ^ m := by rw [← hMore]; ring

end Decimal

namespace FloatFormat

variable (f : FloatFormat)

theorem nearest_eq (d : Decimal) :
    f.nearest d =
      f.roundQuotient (d.ratio.1 * 2 ^ f.scale) d.ratio.2 :=
  rfl

/- The nearest number is that of the value of a decimal. -/
theorem nearest_of_same
    {d e : Decimal}
    (hSame : d.Same e) :
    f.nearest d = f.nearest e := by
  rw [nearest_eq, nearest_eq]
  apply f.roundQuotient_congr d.ratio_pos e.ratio_pos
  rw [Nat.mul_right_comm, hSame, Nat.mul_right_comm]

end FloatFormat

end Dashboard

------------------------------------------------------------
-- Shortest Decimals
------------------------------------------------------------

namespace Dashboard

namespace FloatFormat

variable (f : FloatFormat)
variable {units : Nat}

theorem nearest_of_onGrid?
    {tie : Tie}
    {exponent : Int}
    {d : Decimal}
    (hGrid : f.onGrid? tie units exponent = some d) :
    f.nearest d = units := by
  unfold onGrid? at hGrid
  split at hGrid
  · rename_i nearer other _
    split at hGrid
    · rename_i hNearer
      cases hGrid
      exact hNearer
    · split at hGrid
      · rename_i hOther
        cases hGrid
        exact hOther
      · cases hGrid

theorem nearest_exact (hFits : f.Fits units) :
    f.nearest (f.exact units) = units := by
  have hTen : (10 : Nat) ^ f.scale = 2 ^ f.scale * 5 ^ f.scale := by
    rw [← Nat.mul_pow]
  unfold nearest exact
  rw [Decimal.ratio_neg]
  dsimp only
  rw [Nat.pow_eq, Nat.pow_eq]
  calc
    f.roundQuotient (units * 5 ^ f.scale * 2 ^ f.scale)
          (10 ^ f.scale) =
        f.roundQuotient units 1 := by
      apply f.roundQuotient_congr (Nat.pow_pos (by decide))
        Nat.one_pos
      rw [hTen]
      ring
    _ = units := f.roundQuotient_one hFits

/- A shortest decimal reads back as what it was made for. -/
theorem nearest_shortest
    (tie : Tie)
    (hFits : f.Fits units) :
    f.nearest (f.shortest tie units) = units := by
  unfold shortest
  dsimp only
  split
  · rename_i d hFound
    rcases List.exists_of_findSome?_eq_some hFound with
      ⟨n, _, hGrid⟩
    exact f.nearest_of_onGrid? hGrid
  · exact f.nearest_exact hFits

end FloatFormat

end Dashboard

------------------------------------------------------------
-- Decimals Far Out Of Range
------------------------------------------------------------

namespace Dashboard

/- Enough zeros outweigh the units of a format. -/
theorem two_mul_lt_of_zeros
    {n m scale zeros : Nat}
    (hZeros : scale + 1 ≤ 3 * zeros)
    (hLess : n * 10 ^ zeros < m) :
    2 * (n * 2 ^ scale) < m := by
  calc
    2 * (n * 2 ^ scale) = n * 2 ^ (scale + 1) := by ring
    _ ≤ n * 2 ^ (3 * zeros) :=
      Nat.mul_le_mul_left _
        (Nat.pow_le_pow_right Nat.two_pos hZeros)
    _ = n * 8 ^ zeros := by rw [Nat.pow_mul]
    _ ≤ n * 10 ^ zeros :=
      Nat.mul_le_mul_left _
        (Nat.pow_le_pow_left (by decide) _)
    _ < m := hLess

namespace FloatFormat

variable (f : FloatFormat)

/- Less than half a unit is rounded to nothing. -/
theorem roundQuotient_eq_zero
    {dividend divisor : Nat}
    (hLess : 2 * dividend < divisor) :
    f.roundQuotient dividend divisor = 0 := by
  have hMore :
      2 * dividend <
        divisor * 2 ^ f.surplus (dividend / divisor) :=
    Nat.lt_of_lt_of_le hLess
      (Nat.le_mul_of_pos_right _ (Nat.two_pow_pos _))
  rw [roundQuotient_eq]
  generalize divisor * 2 ^ f.surplus (dividend / divisor) =
    step at *
  have hQuotient : dividend / step = 0 :=
    Nat.div_eq_of_lt (by omega)
  have hRest : dividend % step = dividend :=
    Nat.mod_eq_of_lt (by omega)
  unfold divideToEven
  simp only [hRest, hQuotient, hMore, if_true, Nat.zero_mul]

theorem nearest_of_eq_zero
    {d : Decimal}
    (hZero : d.significand = 0) :
    f.nearest d = 0 := by
  have hSome := d.ratio_pos
  rw [nearest_eq, d.ratio_of_eq_zero hZero]
  apply f.roundQuotient_eq_zero
  omega

end FloatFormat

/-
  The decimals that are settled by their magnitude are
  settled in the same way as the others.
-/
theorem Double.ofDecimal_eq_ofUnits
    (negative : Bool)
    (d : Decimal) :
    (.ofDecimal negative d : Double) =
      .ofUnits negative (FloatFormat.double.nearest d) := by
  unfold Binary.ofDecimal
  split
  · rename_i hSmall
    rw [Bool.or_eq_true, decide_eq_true_eq,
      decide_eq_true_eq] at hSmall
    congr 1
    symm
    rcases hSmall with hZero | hMagnitude
    · exact FloatFormat.nearest_of_eq_zero _ hZero
    · have hMany : d.magnitude ≤ -((1000 : Nat) : Int) := by
        omega
      rw [FloatFormat.nearest_eq]
      apply FloatFormat.roundQuotient_eq_zero
      exact
        two_mul_lt_of_zeros (by decide)
          (Decimal.ratio_mul_lt_of_magnitude hMany)
  · rename_i hSmall
    rw [Bool.or_eq_true, decide_eq_true_eq] at hSmall
    split
    · rename_i hGreat
      have hPositive : 0 < d.significand :=
        Nat.pos_of_ne_zero fun hZero => hSmall (.inl hZero)
      have hRange :
          ¬ d.InRange .double :=
        Decimal.not_inRange_of_ratio_le
          (FloatFormat.double.halfLimit_le_of_zeros
            (by decide) (by decide))
          (Decimal.ten_pow_le_ratio hPositive hGreat)
      have hFits :
          ¬ FloatFormat.double.Fits
              (FloatFormat.double.nearest d) := by
        rw [← Binary.isFinite_ofUnits_iff negative]
        exact
          mt
            (Binary.isFinite_ofQuotient_iff (by decide)
              (by decide) negative d.ratio_pos).mp
            hRange
      rw [Binary.ofUnits, dif_neg hFits]
    · rfl

end Dashboard
