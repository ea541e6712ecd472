import Dashboard.Filter.Basic
import Dashboard.Json.Shape

/-
  Filters as JSON values.

  Key definitions include:
    * `Filter.toJson`
    * `Filter.ofJson?`
-/

------------------------------------------------------------
-- Operators And Operands
------------------------------------------------------------

namespace Dashboard

/- The operator that a JSON value names. -/
def Operator.ofJson? (json : Json) : Option Operator :=
  json.name?.bind ofName?

namespace Operand

/- An operand as a JSON value. -/
def toJson : Operand → Json
  | number value => .ofDouble value
  | text value => .string value

/- The operand of a JSON number or string. -/
def ofJson? : Json → Option Operand
  | .number value => some (number value.toDouble)
  | .string value => some (text value)
  | _ => none

end Operand

end Dashboard

------------------------------------------------------------
-- Filters
------------------------------------------------------------

namespace Dashboard

namespace Filter

/- A filter as a JSON value. -/
def toJson (filter : Filter) : Json :=
  .ofMembers
    [("field", .string filter.field),
      ("operator", .string filter.operator.name),
      ("value", filter.operand.toJson)]

/- The filter of a JSON value. -/
def ofJson? (json : Json) : Option Filter :=
  match json.slots? ["field", "operator", "value"] with
  | some [field, operator, value] => do
      let field ← field.required Json.string?
      let operator ← operator.required Operator.ofJson?
      let operand ← value.required Operand.ofJson?
      return ⟨field, operator, operand⟩
  | _ => none

end Filter

end Dashboard
