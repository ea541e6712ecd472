import Dashboard.Json.Shape
import Dashboard.Text.Lowercase

/-
  Sorting by a field.

  Key definitions include:
    * `Direction`
    * `Direction.ofWord`
    * `Sorting`
-/

------------------------------------------------------------
-- Directions
------------------------------------------------------------

namespace Dashboard

/- The direction of a sort. -/
inductive Direction where
  | asc
  | desc
deriving DecidableEq, Repr

namespace Direction

/- The name of a direction. -/
def name : Direction → String
  | asc => "asc"
  | desc => "desc"

/- The direction of a name, which has to be exact. -/
def ofName? (name : String) : Option Direction :=
  [asc, desc].find? fun d => d.name == name

/-
  The direction that a word means: whatever starts with
  `asc`, in either case, is ascending, and every other word
  is descending.
-/
def ofWord (word : List Char) : Direction :=
  if "asc".toList.isPrefixOf (Text.lowercase word) then
    asc
  else
    desc

end Direction

end Dashboard

------------------------------------------------------------
-- Sorts
------------------------------------------------------------

namespace Dashboard

/- A field to sort by and the direction. -/
structure Sorting where
  field : String
  direction : Direction
deriving DecidableEq, Repr

namespace Sorting

/- A sort as a JSON value. -/
def toJson (sort : Sorting) : Json :=
  .ofMembers
    [("field", .string sort.field),
      ("direction", .string sort.direction.name)]

/- The sort of a JSON value. -/
def ofJson? (json : Json) : Option Sorting :=
  match json.slots? ["field", "direction"] with
  | some [field, direction] => do
      let field ← field.required Json.string?
      let direction ← direction.required fun value =>
        value.name?.bind Direction.ofName?
      return ⟨field, direction⟩
  | _ => none

end Sorting

end Dashboard
