import Dashboard.Proofs.Interpretation.Validity

/-
  Repairing interpretations.  The repair and the check are two
  case analyses over the same parts; they agree on which parts
  are in order, so the repair changes exactly what the check
  objects to.

  Key definitions include:
    * `Interpretation.IsRepair`

  Main declarations:
    * `Interpretation.isRepair_normalize`
    * `Interpretation.IsRepair.eq_of_validate`
    * `Interpretation.normalize_repairs`
-/

------------------------------------------------------------
-- Repairs
------------------------------------------------------------

namespace Dashboard

namespace Interpretation

/-
  An interpretation that passes the check and differs from
  another one at most in parts that are out of order there.
-/
structure IsRepair (i repaired : Interpretation) : Prop where
  validate : repaired.validate = .ok ()
  component : repaired.component = i.component
  dataset : repaired.dataset = i.dataset
  chart :
    (i.chart.isSome ↔ i.component = .chart) →
      repaired.chart = i.chart
  filters :
    i.filters ≠ some [] → repaired.filters = i.filters
  sort : repaired.sort = i.sort
  limit : i.limit ≠ some 0 → repaired.limit = i.limit
  title : repaired.title = i.title
  description : repaired.description = i.description

/- A kind of chart that belongs there is kept. -/
theorem chart_normalize
    {i : Interpretation}
    (hChart : i.chart.isSome ↔ i.component = .chart) :
    i.normalize.chart = i.chart := by
  unfold normalize
  dsimp only
  split
  · rename_i hComponent
    rcases Option.isSome_iff_exists.mp
        (hChart.mpr hComponent) with
      ⟨kind, hKind⟩
    rw [hKind, Option.getD_some]
  · rename_i hComponent
    rw [← hChart, Option.not_isSome_iff_eq_none]
      at hComponent
    exact hComponent.symm

theorem isRepair_normalize (i : Interpretation) :
    i.IsRepair i.normalize where
  validate := (validate_eq_ok_iff _).mpr i.valid_normalize
  component := rfl
  dataset := rfl
  chart := chart_normalize
  filters := fun hSome => if_neg hSome
  sort := rfl
  limit := fun hPositive => if_neg hPositive
  title := rfl
  description := rfl

/- What passes the check needs no other repair. -/
theorem IsRepair.eq_of_validate
    {i repaired : Interpretation}
    (hRepair : i.IsRepair repaired)
    (hValid : i.validate = .ok ()) :
    repaired = i := by
  rcases (validate_eq_ok_iff i).mp hValid with
    ⟨hChart, hFilters, hLimit⟩
  have hChartKept := hRepair.chart hChart
  have hFiltersKept := hRepair.filters hFilters
  have hLimitKept := hRepair.limit hLimit
  rcases hRepair with
    ⟨-, hComponent, hDataset, -, -, hSort, -, hTitle,
      hDescription⟩
  cases i
  cases repaired
  simp_all

/-
  Normalizing is the repair that the check calls for: the
  result passes the check and keeps every part that is in
  order, so it is the interpretation itself exactly if that
  passes, and a second time nothing is left to be repaired.
-/
theorem normalize_repairs (i : Interpretation) :
    i.IsRepair i.normalize ∧
      (i.normalize = i ↔ i.validate = .ok ()) ∧
      i.normalize.normalize = i.normalize := by
  have hRepair := i.isRepair_normalize
  refine ⟨hRepair, ⟨?_, ?_⟩, ?_⟩
  · intro hSame
    rw [← hSame]
    exact hRepair.validate
  · exact hRepair.eq_of_validate
  · exact
      i.normalize.isRepair_normalize.eq_of_validate
        hRepair.validate

end Interpretation

end Dashboard
