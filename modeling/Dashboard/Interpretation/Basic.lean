import Dashboard.Component
import Dashboard.Dataset
import Dashboard.Filter.Basic
import Dashboard.Sorting

/-
  Interpretations: what a prompt asks to be shown.

  Key definitions include:
    * `Interpretation`
    * `Interpretation.Valid`
    * `Interpretation.flaw?`
    * `Interpretation.normalize`
-/

------------------------------------------------------------
-- Interpretations
------------------------------------------------------------

namespace Dashboard

/-
  The component to show, the dataset to read, and the
  criteria that select and order its records.
-/
structure Interpretation where
  component : Component
  dataset : Dataset
  chart : Option Chart
  filters : Option (List Filter)
  sort : Option Sorting
  limit : Option UInt64
  title : String
  description : String
deriving DecidableEq

namespace Interpretation

/- The filters as a list, which is empty without filters. -/
def filterList (i : Interpretation) : List Filter :=
  i.filters.getD []

end Interpretation

end Dashboard

------------------------------------------------------------
-- Validity
------------------------------------------------------------

namespace Dashboard

/- What can be wrong with an interpretation. -/
inductive Flaw where
  | chartMissing
  | chartMisplaced (component : Component)
  | filtersEmpty
  | limitZero
deriving DecidableEq, Repr

/- A flaw in words. -/
def Flaw.message : Flaw → String
  | chartMissing => "chart component requires a chartType"
  | chartMisplaced component =>
      "chartType is only valid for charts, got component '" ++
        component.name ++ "'"
  | filtersEmpty =>
      "filters must be omitted rather than empty"
  | limitZero => "limit must be strictly positive"

namespace Interpretation

/-
  An interpretation is valid when it has a kind of chart
  exactly if it is a chart, when its filters are not an empty
  list, and when its limit is not zero.
-/
def Valid (i : Interpretation) : Prop :=
  (i.chart.isSome ↔ i.component = .chart) ∧
    i.filters ≠ some [] ∧
    i.limit ≠ some 0

instance (i : Interpretation) : Decidable i.Valid := by
  unfold Valid
  infer_instance

/- What is wrong with the kind of chart. -/
def chartFlaw? (i : Interpretation) : Option Flaw :=
  match i.component, i.chart with
  | .chart, none => some .chartMissing
  | .chart, some _ => none
  | _, none => none
  | component, some _ => some (.chartMisplaced component)

/- What is wrong with the filters. -/
def filtersFlaw? (i : Interpretation) : Option Flaw :=
  if i.filters = some [] then some .filtersEmpty else none

/- What is wrong with the limit. -/
def limitFlaw? (i : Interpretation) : Option Flaw :=
  if i.limit = some 0 then some .limitZero else none

/- The first flaw of an interpretation. -/
def flaw? (i : Interpretation) : Option Flaw :=
  i.chartFlaw?.or (i.filtersFlaw?.or i.limitFlaw?)

end Interpretation

end Dashboard

------------------------------------------------------------
-- Repair
------------------------------------------------------------

namespace Dashboard

namespace Interpretation

/-
  The interpretation with its flaws repaired: a chart without
  a kind becomes a bar chart, and whatever else is out of
  place is left out.
-/
def normalize (i : Interpretation) : Interpretation :=
  { i with
    chart :=
      if i.component = .chart then
        some (i.chart.getD .bar)
      else
        none
    filters := if i.filters = some [] then none else i.filters
    limit := if i.limit = some 0 then none else i.limit }

end Interpretation

end Dashboard
