import Dashboard.Error
import Dashboard.Filter.Wire
import Dashboard.Json.RawShape
import Dashboard.Json.Reader
import Dashboard.Query.Basic

/-
  Queries written as the parameters of a request.

  Key definitions include:
    * `QueryParameters`
    * `Query.ofParameters`

  Only the dataset has to be right.  Filters, a sort or a
  limit that cannot be read are left out.
-/

------------------------------------------------------------
-- Parameters
------------------------------------------------------------

namespace Dashboard

/- The texts of the parameters that were given. -/
structure QueryParameters where
  dataset : Option String
  filters : Option String
  sort : Option String
  limit : Option String
deriving DecidableEq, Repr

namespace QueryParameters

/- The parameters in a JSON value. -/
def ofJson? (json : Json) : Option QueryParameters :=
  match json.slots? ["type", "filters", "sort", "limit"] with
  | some [dataset, filters, sort, limit] => do
      let text := Json.nullable Json.string?
      let dataset ← dataset.optional text
      let filters ← filters.optional text
      let sort ← sort.optional text
      let limit ← limit.optional text
      return ⟨dataset, filters, sort, limit⟩
  | _ => none

end QueryParameters

end Dashboard

------------------------------------------------------------
-- Reading
------------------------------------------------------------

namespace Dashboard

/- The filters in a JSON array that can be read. -/
def Filter.listOfText (text : String) : List Filter :=
  match Json.parse? text with
  | some (.array items) => items.filterMap Filter.ofJson?
  | _ => []

/-
  The sort in a JSON text.  It needs a field, and every
  direction but `asc` is descending.
-/
def Sorting.ofText? (text : String) : Option Sorting := do
  let raw ← RawJson.read? text.toList
  match raw.slots? ["field", "direction"] with
  | some [field, direction] => do
      let name := RawJson.nullable RawJson.string?
      let field? ← field.optional name
      let direction? ← direction.optional name
      let field ← field?
      if field = "" then
        none
      else if direction? = some "asc" then
        some ⟨field, .asc⟩
      else
        some ⟨field, .desc⟩
  | _ => none

namespace Query

/- The query that parameters ask. -/
def ofParameters
    (parameters : QueryParameters) :
    Except DataError Query :=
  let name := parameters.dataset.getD ""
  match Dataset.ofName? name with
  | none => .error (.unknownDataset name)
  | some dataset =>
      .ok
        { dataset := dataset
          filters :=
            (parameters.filters.map Filter.listOfText).getD []
          sort := parameters.sort.bind Sorting.ofText?
          limit := parameters.limit.bind integerPrefix? }

end Query

end Dashboard
