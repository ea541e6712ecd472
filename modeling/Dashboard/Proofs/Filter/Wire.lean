import Dashboard.Filter.Wire
import Dashboard.Proofs.Json.Member
import Dashboard.Proofs.Json.RoundTrip
import Dashboard.Sorting

/-
  Filters and sorts as JSON documents: they are read back from
  their JSON values, and a document with their fields in the
  fixed order has the same value.

  Key definitions include:
    * `Filter.document`
    * `Sorting.document`

  Main declarations:
    * `Filter.ofJson?_toJson`
    * `Filter.sorted_document`
    * `Filter.document_keeps`
-/

------------------------------------------------------------
-- Operators And Operands
------------------------------------------------------------

namespace Dashboard

theorem Operator.ofJson?_name (operator : Operator) :
    ofJson? (.string operator.name) = some operator := by
  cases operator
  all_goals rfl

namespace Operand

theorem ofJson?_toJson (operand : Operand) :
    ofJson? operand.toJson = some operand := by
  cases operand with
  | number value => rfl
  | text value => rfl

theorem sorted_toJson (operand : Operand) :
    operand.toJson.sorted = operand.toJson := by
  cases operand with
  | number value => rfl
  | text value => rfl

/- An operand is kept when its number is, if it has one. -/
theorem toJson_keeps
    {operand : Operand}
    (hKept :
      ∀ x, operand.number? = some x →
        (JsonNumber.float x).Kept)
    (levels : Nat) :
    operand.toJson.Keeps levels := by
  cases operand with
  | number value =>
      exact Json.number_keeps (hKept value rfl) levels
  | text value => exact Json.string_keeps value levels

end Operand

end Dashboard

------------------------------------------------------------
-- Filters
------------------------------------------------------------

namespace Dashboard

namespace Filter

/- The fields of a filter in their fixed order. -/
def members (filter : Filter) : List (String × Json) :=
  [("field", .string filter.field),
    ("operator", .string filter.operator.name),
    ("value", filter.operand.toJson)]

theorem nodup_names_members (filter : Filter) :
    (filter.members.map Prod.fst).Nodup := by
  have hNames :
      (["field", "operator", "value"] : List String).Nodup :=
    by decide
  exact hNames

/- A filter as a document, with its fields in their order. -/
def document (filter : Filter) : Json :=
  .object filter.members

/- A filter is read back from its JSON value. -/
theorem ofJson?_toJson (filter : Filter) :
    ofJson? filter.toJson = some filter := by
  have hSlots :
      filter.toJson.slots? ["field", "operator", "value"] =
        some
          [.given (.string filter.field),
            .given (.string filter.operator.name),
            .given filter.operand.toJson] :=
    Json.slots?_ofMembers filter.members
      filter.nodup_names_members _
  have hOperator := filter.operator.ofJson?_name
  have hOperand := filter.operand.ofJson?_toJson
  rw [ofJson?, hSlots]
  simp only [Slot.required, Json.string?, hOperator,
    hOperand, Option.bind_eq_bind, Option.bind_some]
  rfl

theorem sorted_document (filter : Filter) :
    filter.document.sorted = filter.toJson := by
  rw [document, Json.sorted, Json.sortedMembers_eq_map]
  simp only [members, List.map_cons, List.map_nil, Json.sorted,
    filter.operand.sorted_toJson]
  rfl

theorem document_keeps
    {filter : Filter}
    (hKept :
      ∀ x, filter.operand.number? = some x →
        (JsonNumber.float x).Kept) :
    filter.document.Keeps 1 := by
  apply Json.object_keeps
  intro m hMem
  simp only [members, List.mem_cons, List.not_mem_nil,
    or_false] at hMem
  rcases hMem with rfl | rfl | rfl
  · exact Json.string_keeps _ 0
  · exact Json.string_keeps _ 0
  · exact Operand.toJson_keeps hKept 0

end Filter

end Dashboard

------------------------------------------------------------
-- Sorts
------------------------------------------------------------

namespace Dashboard

namespace Sorting

/- A sort as a document, with its fields in their order. -/
def document (sort : Sorting) : Json :=
  .object
    [("field", .string sort.field),
      ("direction", .string sort.direction.name)]

theorem sorted_document (sort : Sorting) :
    sort.document.sorted = sort.toJson := rfl

theorem document_keeps (sort : Sorting) :
    sort.document.Keeps 1 := by
  apply Json.object_keeps
  intro m hMem
  simp only [List.mem_cons, List.not_mem_nil, or_false]
    at hMem
  rcases hMem with rfl | rfl
  · exact Json.string_keeps _ 0
  · exact Json.string_keeps _ 0

end Sorting

end Dashboard
