import Dashboard.Error
import Dashboard.Interpretation.Caption

/-
  Validity of interpretations: the check finds no flaw
  exactly in the valid ones, and a repaired interpretation
  is valid.

  Main declarations:
    * `Interpretation.flaw?_eq_none_iff`
    * `Interpretation.validate_eq_ok_iff`
    * `Interpretation.valid_normalize`
-/

------------------------------------------------------------
-- The Check
------------------------------------------------------------

namespace Dashboard

namespace Interpretation

theorem chartFlaw?_eq_none_iff (i : Interpretation) :
    i.chartFlaw? = none ↔
      (i.chart.isSome ↔ i.component = .chart) := by
  unfold chartFlaw?
  cases i.component <;> cases i.chart <;> simp

theorem filtersFlaw?_eq_none_iff (i : Interpretation) :
    i.filtersFlaw? = none ↔ i.filters ≠ some [] := by
  unfold filtersFlaw?
  by_cases hEmpty : i.filters = some []
  · simp [hEmpty]
  · simp [hEmpty]

theorem limitFlaw?_eq_none_iff (i : Interpretation) :
    i.limitFlaw? = none ↔ i.limit ≠ some 0 := by
  unfold limitFlaw?
  by_cases hZero : i.limit = some 0
  · simp [hZero]
  · simp [hZero]

/- Exactly the valid interpretations have no flaw. -/
theorem flaw?_eq_none_iff (i : Interpretation) :
    i.flaw? = none ↔ i.Valid := by
  unfold flaw? Valid
  rw [Option.or_eq_none_iff, Option.or_eq_none_iff,
    chartFlaw?_eq_none_iff, filtersFlaw?_eq_none_iff,
    limitFlaw?_eq_none_iff]

/- Exactly the valid interpretations pass the check. -/
theorem validate_eq_ok_iff (i : Interpretation) :
    i.validate = .ok () ↔ i.Valid := by
  rw [← flaw?_eq_none_iff]
  unfold validate
  cases i.flaw? with
  | none => simp
  | some flaw => simp

end Interpretation

end Dashboard

------------------------------------------------------------
-- Repair And Captions
------------------------------------------------------------

namespace Dashboard

namespace Interpretation

/- A repaired interpretation has no flaw left. -/
theorem valid_normalize (i : Interpretation) :
    i.normalize.Valid := by
  refine ⟨?_, ?_, ?_⟩
  · by_cases hChart : i.component = .chart
    · simp [normalize, hChart]
    · simp [normalize, hChart]
  · by_cases hEmpty : i.filters = some []
    · simp [normalize, hEmpty]
    · simp [normalize, hEmpty]
  · by_cases hZero : i.limit = some 0
    · simp [normalize, hZero]
    · simp [normalize, hZero]

/- A title and a description do not touch validity. -/
theorem valid_caption_iff (i : Interpretation) :
    i.caption.Valid ↔ i.Valid :=
  Iff.rfl

end Interpretation

end Dashboard
