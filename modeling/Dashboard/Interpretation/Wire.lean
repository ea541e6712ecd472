import Dashboard.Filter.Wire
import Dashboard.Interpretation.Basic

/-
  Interpretations as JSON values.

  Key definitions include:
    * `Interpretation.toJson`
    * `Interpretation.ofJson?`

  An optional field that is absent is left out.
-/

------------------------------------------------------------
-- Writing
------------------------------------------------------------

namespace Dashboard

namespace Interpretation

/- A member for an optional field. -/
def optionalMember
    {α : Type}
    (name : String)
    (encode : α → Json) :
    Option α → List (String × Json)
  | none => []
  | some value => [(name, encode value)]

/- An interpretation as a JSON value. -/
def toJson (i : Interpretation) : Json :=
  .ofMembers
    ([("componentType", .string i.component.name),
      ("datasetType", .string i.dataset.name)] ++
      optionalMember "chartType" (fun c => .string c.name)
        i.chart ++
      optionalMember "filters" (.ofList Filter.toJson)
        i.filters ++
      optionalMember "sort" Sorting.toJson i.sort ++
      optionalMember "limit" (fun n => .ofNat n.toNat)
        i.limit ++
      [("title", .string i.title),
        ("description", .string i.description)])

end Interpretation

end Dashboard

------------------------------------------------------------
-- Reading
------------------------------------------------------------

namespace Dashboard

/- The component that a JSON value names. -/
def Component.ofJson? (json : Json) : Option Component :=
  json.name?.bind ofName?

/- The dataset that a JSON value names. -/
def Dataset.ofJson? (json : Json) : Option Dataset :=
  json.name?.bind ofName?

/- The kind of chart that a JSON value names. -/
def Chart.ofJson? (json : Json) : Option Chart :=
  json.name?.bind ofName?

namespace Interpretation

/- A count of rows. -/
def limitOfJson? (json : Json) : Option UInt64 :=
  (json.natural? 64).map Nat.toUInt64

/- The fields of an interpretation in their fixed order. -/
def fieldNames : List String :=
  ["componentType", "datasetType", "chartType", "filters",
    "sort", "limit", "title", "description"]

/- The interpretation of a JSON value. -/
def ofJson? (json : Json) : Option Interpretation :=
  match json.slots? fieldNames with
  | some
      [component, dataset, chart, filters, sort, limit,
        title, description] => do
      let component ← component.required Component.ofJson?
      let dataset ← dataset.required Dataset.ofJson?
      let chart ←
        chart.defaulted none (Json.nullable Chart.ofJson?)
      let filters ←
        filters.defaulted none
          (Json.nullable (Json.list? Filter.ofJson?))
      let sort ←
        sort.defaulted none (Json.nullable Sorting.ofJson?)
      let limit ←
        limit.defaulted none (Json.nullable limitOfJson?)
      let title ← title.required Json.string?
      let description ← description.required Json.string?
      return ⟨component, dataset, chart, filters, sort, limit,
        title, description⟩
  | _ => none

end Interpretation

end Dashboard
