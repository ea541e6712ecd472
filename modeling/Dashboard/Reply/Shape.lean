import Dashboard.Json.Printer

/-
  The shape that an object in a reply has to have.

  Key definitions include:
    * `Shape`
    * `Shape.issues`
    * `Shape.interpretation`

  Whatever does not conform is reported, with the offending
  value, in the order in which the shape lists its parts.
-/

------------------------------------------------------------
-- Shapes
------------------------------------------------------------

namespace Dashboard

/-
  A shape of JSON values: one of some names, a text, a number
  or a text, a list, or an object with some members, of which
  some are required.
-/
inductive Shape where
  | names (allowed : List String)
  | text
  | numberOrText
  | list (item : Shape)
  | object
      (required : List String)
      (members : List (String × Shape))

namespace Shape

/- A value that is none of the names. -/
def notAllowed
    (allowed : List String)
    (json : Json) : String :=
  json.print ++ " is not one of " ++
    (Json.ofList .string allowed).print

/- A value of another type. -/
def notOfType (type : String) (json : Json) : String :=
  json.print ++ " is not of type \"" ++ type ++ "\""

/- A value that is neither a number nor a text. -/
def notNumberOrText (json : Json) : String :=
  json.print ++ " is not of types \"number\", \"string\""

/- A member that is required and missing. -/
def missing (name : String) : String :=
  (Json.string name).print ++ " is a required property"

/- What is wrong about names. -/
def namesIssues
    (allowed : List String)
    (json : Json) : List String :=
  match json with
  | .string name =>
      if name ∈ allowed then
        []
      else
        [notAllowed allowed json]
  | _ => [notAllowed allowed json]

/- The required members that an object lacks. -/
def missingIssues
    (required : List String)
    (members : List (String × Json)) : List String :=
  (required.filter fun name =>
    (Json.memberIn? members name).isNone).map missing

mutual

/- What is wrong with a value. -/
def issues (shape : Shape) (json : Json) : List String :=
  match shape with
  | names allowed => namesIssues allowed json
  | text =>
      match json with
      | .string _ => []
      | _ => [notOfType "string" json]
  | numberOrText =>
      match json with
      | .string _ => []
      | .number _ => []
      | _ => [notNumberOrText json]
  | list item =>
      match json with
      | .array items => items.flatMap item.issues
      | _ => [notOfType "array" json]
  | object required members =>
      match json with
      | .object present =>
          memberIssues members present ++
            missingIssues required present
      | _ => [notOfType "object" json]

/- What is wrong with the members that are present. -/
def memberIssues
    (members : List (String × Shape))
    (present : List (String × Json)) : List String :=
  match members with
  | [] => []
  | (name, shape) :: rest =>
      (match Json.memberIn? present name with
        | some value => shape.issues value
        | none => []) ++
        memberIssues rest present

end

end Shape

end Dashboard

------------------------------------------------------------
-- Interpretations
------------------------------------------------------------

namespace Dashboard

namespace Shape

/- The shape of a filter in a reply. -/
def filter : Shape :=
  object ["field", "operator", "value"]
    [("field", text),
      ("operator",
        names ["gt", "gte", "lt", "lte", "eq", "contains"]),
      ("value", numberOrText)]

/-
  The shape of an interpretation in a reply.  A sort and a
  limit are not asked for and do not matter.
-/
def interpretation : Shape :=
  object
    ["componentType", "datasetType", "title", "description"]
    [("chartType", names ["bar", "line", "area"]),
      ("componentType", names ["chart", "table", "card"]),
      ("datasetType", names ["sales", "users", "products"]),
      ("description", text),
      ("filters", list filter),
      ("title", text)]

end Shape

end Dashboard
