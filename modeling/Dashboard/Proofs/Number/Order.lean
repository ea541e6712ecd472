import Dashboard.Number.Binary

/-
  Comparisons of floating point numbers are comparisons of
  the integers that stand for them.

  Main declarations:
    * `Binary.below_iff`
    * `Binary.atMost_iff`
    * `Binary.equals_iff`
    * `Binary.atMost_trans`
    * `Binary.compare?_getD_eq_lt_iff`
-/

------------------------------------------------------------
-- Ranks
------------------------------------------------------------

namespace Dashboard

namespace Binary

variable {f : FloatFormat}

/- Every number that is not undefined has a rank. -/
theorem exists_rank
    {x : Binary f}
    (hDefined : x ≠ .notANumber) :
    ∃ a, x.rank? = some a := by
  cases x with
  | finite negative units fits => exact ⟨_, rfl⟩
  | infinite negative => exact ⟨_, rfl⟩
  | notANumber => exact absurd rfl hDefined

theorem compare?_of_rank
    {x y : Binary f}
    {a b : Int}
    (hX : x.rank? = some a)
    (hY : y.rank? = some b) :
    x.compare? y = some (compare a b) := by
  rw [compare?, hX, hY]

theorem compare?_eq_some_iff
    (x y : Binary f)
    (order : Ordering) :
    x.compare? y = some order ↔
      ∃ a b,
        x.rank? = some a ∧ y.rank? = some b ∧
          compare a b = order := by
  unfold compare?
  cases x.rank? with
  | none => simp
  | some a =>
      cases y.rank? with
      | none => simp
      | some b => simp

theorem equals_iff (x y : Binary f) :
    x.equals y = true ↔
      ∃ a, x.rank? = some a ∧ y.rank? = some a := by
  unfold equals
  rw [beq_iff_eq, compare?_eq_some_iff]
  constructor
  · rintro ⟨a, b, hX, hY, hOrder⟩
    rw [Int.compare_eq_eq] at hOrder
    subst hOrder
    exact ⟨a, hX, hY⟩
  · rintro ⟨a, hX, hY⟩
    exact ⟨a, a, hX, hY, Int.compare_eq_eq.mpr rfl⟩

theorem below_iff (x y : Binary f) :
    x.below y = true ↔
      ∃ a b,
        x.rank? = some a ∧ y.rank? = some b ∧ a < b := by
  unfold below
  rw [beq_iff_eq, compare?_eq_some_iff]
  simp only [Int.compare_eq_lt]

theorem atMost_iff (x y : Binary f) :
    x.atMost y = true ↔
      ∃ a b,
        x.rank? = some a ∧ y.rank? = some b ∧ a ≤ b := by
  unfold atMost
  rw [Bool.or_eq_true, beq_iff_eq, beq_iff_eq,
    compare?_eq_some_iff, compare?_eq_some_iff]
  constructor
  · rintro (⟨a, b, hX, hY, hOrder⟩ | ⟨a, b, hX, hY, hOrder⟩)
    · exact ⟨a, b, hX, hY,
        Int.le_of_lt (Int.compare_eq_lt.mp hOrder)⟩
    · exact ⟨a, b, hX, hY,
        Int.le_of_eq (Int.compare_eq_eq.mp hOrder)⟩
  · rintro ⟨a, b, hX, hY, hOrder⟩
    rcases Int.lt_or_eq_of_le hOrder with hLess | hSame
    · exact .inl ⟨a, b, hX, hY, Int.compare_eq_lt.mpr hLess⟩
    · exact .inr ⟨a, b, hX, hY, Int.compare_eq_eq.mpr hSame⟩

end Binary

end Dashboard

------------------------------------------------------------
-- Order
------------------------------------------------------------

namespace Dashboard

namespace Binary

variable {f : FloatFormat}

theorem atMost_trans
    {x y z : Binary f}
    (hFirst : x.atMost y = true)
    (hSecond : y.atMost z = true) :
    x.atMost z = true := by
  rw [atMost_iff] at hFirst hSecond ⊢
  rcases hFirst with ⟨a, b, hX, hY, hLess⟩
  rcases hSecond with ⟨b', c, hY', hZ, hMore⟩
  rw [hY] at hY'
  cases hY'
  exact ⟨a, c, hX, hZ, Int.le_trans hLess hMore⟩

theorem atMost_total
    {x y : Binary f}
    (hX : x ≠ .notANumber)
    (hY : y ≠ .notANumber) :
    x.atMost y = true ∨ y.atMost x = true := by
  rcases exists_rank hX with ⟨a, hA⟩
  rcases exists_rank hY with ⟨b, hB⟩
  rw [atMost_iff, atMost_iff]
  rcases Int.le_total a b with hLess | hMore
  · exact .inl ⟨a, b, hA, hB, hLess⟩
  · exact .inr ⟨b, a, hB, hA, hMore⟩

/- A number that is undefined would count as equal to all. -/
theorem compare?_getD_eq_lt_iff
    {x y : Binary f}
    (hX : x ≠ .notANumber)
    (hY : y ≠ .notANumber) :
    (x.compare? y).getD .eq = .lt ↔ y.atMost x = false := by
  rcases exists_rank hX with ⟨a, hA⟩
  rcases exists_rank hY with ⟨b, hB⟩
  rw [compare?_of_rank hA hB, Option.getD_some,
    Int.compare_eq_lt, ← Bool.not_eq_true, atMost_iff]
  simp [hA, hB]

theorem compare?_getD_eq_gt_iff
    {x y : Binary f}
    (hX : x ≠ .notANumber)
    (hY : y ≠ .notANumber) :
    (x.compare? y).getD .eq = .gt ↔ x.atMost y = false := by
  rcases exists_rank hX with ⟨a, hA⟩
  rcases exists_rank hY with ⟨b, hB⟩
  rw [compare?_of_rank hA hB, Option.getD_some,
    Int.compare_eq_gt, ← Bool.not_eq_true, atMost_iff]
  simp [hA, hB]

theorem equals_comm (x y : Binary f) :
    x.equals y = y.equals x := by
  rw [Bool.eq_iff_iff, equals_iff, equals_iff]
  simp only [and_comm]

/- What equals two numbers shows that they are equal. -/
theorem equals_of_equals
    {x y z : Binary f}
    (hFirst : x.equals y = true)
    (hSecond : x.equals z = true) :
    y.equals z = true := by
  rw [equals_iff] at hFirst hSecond ⊢
  rcases hFirst with ⟨a, hX, hY⟩
  rcases hSecond with ⟨b, hX', hZ⟩
  rw [hX] at hX'
  cases hX'
  exact ⟨a, hY, hZ⟩

theorem equals_trans
    {x y z : Binary f}
    (hFirst : x.equals y = true)
    (hSecond : y.equals z = true) :
    x.equals z = true := by
  rw [equals_comm] at hFirst
  exact equals_of_equals hFirst hSecond

end Binary

end Dashboard
