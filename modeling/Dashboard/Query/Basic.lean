import Dashboard.Interpretation.Basic
import Dashboard.Number.Literal

/-
  Queries: which records of a dataset, and in which order.

  Key definitions include:
    * `Query`
    * `Query.ofInterpretation`
-/

------------------------------------------------------------
-- Queries
------------------------------------------------------------

namespace Dashboard

/-
  The criteria that records are selected by.  Only a positive
  limit limits anything.
-/
structure Query where
  dataset : Dataset
  filters : List Filter
  sort : Option Sorting
  limit : Option Int
deriving DecidableEq

namespace Query

/- The query that an interpretation asks. -/
def ofInterpretation (i : Interpretation) : Query :=
  { dataset := i.dataset
    filters := i.filterList
    sort := i.sort
    limit := i.limit.map fun n => clampInteger n.toNat }

end Query

end Dashboard
