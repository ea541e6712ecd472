import Dashboard.Json.Basic
import Dashboard.Settings.KeyPath
import Dashboard.Text.Lowercase

/-
  Layers of settings: values that are assigned to paths, one
  layer over another.

  Key definitions include:
    * `Layer`
    * `Layer.lay`
    * `Layer.assign?`
    * `Layer.merge?`
    * `Scalar.ofText`
    * `Layer.ofAssigned`

  A table is merged member by member, without regard to the
  case of names.  Every other value takes the place of what is
  below it.
-/

------------------------------------------------------------
-- Merging
------------------------------------------------------------

namespace Dashboard

/-
  A layer says which values are assigned to which paths, in
  the order of the assignments.
-/
abbrev Layer := List (String × Json)

namespace Layer

/- The members of a table; every other value has none. -/
def membersOf : Json → List (String × Json)
  | .object members => members
  | _ => []

/- The items of a list; every other value has none. -/
def itemsOf : Json → List Json
  | .array items => items
  | _ => []

mutual

/- A value laid over what is below it, if anything is. -/
def lay (below : Option Json) : Json → Json
  | .object members =>
      layMembers (below.getD (.object [])) members
  | .null => .null
  | .bool value => .bool value
  | .number value => .number value
  | .string value => .string value
  | .array items => .array items

/-
  Members laid one after another over a value.  Names are in
  lowercase below.
-/
def layMembers (below : Json) :
    List (String × Json) → Json
  | [] => below
  | (written, value) :: rest =>
      let members := membersOf below
      let name := Text.lower written
      layMembers
        (.object
          (Json.insertMember name
            (lay (Json.memberIn? members name) value)
            members))
        rest

end

end Layer

end Dashboard

------------------------------------------------------------
-- Assigning
------------------------------------------------------------

namespace Dashboard

namespace Layer

/-
  How many items stand before a place in a list of some
  length.  A negative place counts from the end, and one
  before the start is no place.
-/
def place? (place : Int) (length : Nat) : Option Nat :=
  if 0 ≤ place then
    some place.toNat
  else if place.natAbs ≤ length then
    some (length - place.natAbs)
  else
    none

/- A list that is long enough to have a place, with nulls. -/
def lengthen (items : List Json) (n : Nat) : List Json :=
  items ++ List.replicate (n + 1 - items.length) Json.null

/-
  A value put at the end of a path.  What the path leads
  through becomes a table or a list if it is none.  A member
  at the end is laid over what is there, and an item at the
  end takes its place.
-/
def put? (value : Json) : List KeyStep → Json → Option Json
  | [], _ => some value
  | [.member written], below =>
      some (layMembers below [(written, value)])
  | .member written :: rest, below => do
      let members := membersOf below
      let name := Text.lower written
      let inner ←
        put? value rest
          ((Json.memberIn? members name).getD .null)
      return .object (Json.insertMember name inner members)
  | .item place :: rest, below => do
      let items := itemsOf below
      let n ← place? place items.length
      let longer := lengthen items n
      let inner ← put? value rest (longer[n]?.getD .null)
      return .array (longer.set n inner)

/-
  A value assigned to a path.  A text that is no path is the
  name of a member.
-/
def assign?
    (below : Json)
    (path : String)
    (value : Json) : Option Json :=
  put? value
    ((KeyPath.parse? path).getD [.member path]) below

/- A layer over what is below it. -/
def over? (below : Json) (layer : Layer) : Option Json :=
  layer.foldlM (fun json a => assign? json a.1 a.2) below

/- Layers over each other, the lowest one first. -/
def merge? (layers : List Layer) : Option Json :=
  layers.foldlM over? (.object [])

end Layer

end Dashboard

------------------------------------------------------------
-- Scalars
------------------------------------------------------------

namespace Dashboard

namespace Scalar

/- An integer with an optional sign, and nothing else. -/
def integer? (text : List Char) : Option Int :=
  let (negative, digits) := NumberLiteral.scanSign text
  if digits.isEmpty || !digits.all Text.isDigit then
    none
  else
    some (Binary.signed negative (Decimal.valueOf digits))

/- An integer that 64 bits with a sign can hold. -/
def word? (text : List Char) : Option Int :=
  match integer? text with
  | some n =>
      if clampInteger n = n then some n else none
  | none => none

/- A natural number, with an optional plus sign. -/
def natural? (text : List Char) : Option Nat :=
  let digits :=
    match text with
    | '+' :: rest => rest
    | _ => text
  if digits.isEmpty || !digits.all Text.isDigit then
    none
  else
    some (Decimal.valueOf digits)

/- A number without its sign, and nothing else. -/
def magnitude?
    (negative : Bool)
    (text : List Char) : Option Double :=
  let name := String.ofList (text.map Char.toLower)
  if name = "inf" || name = "infinity" then
    some (.infinite negative)
  else if name = "nan" then
    some .notANumber
  else
    match NumberLiteral.scanPlaces text with
    | none => none
    | some (whole, fraction, after) =>
        let (exponent, rest) := NumberLiteral.scanExponent after
        if rest.isEmpty then
          some
            (NumberLiteral.value
              ⟨negative, .decimal whole fraction exponent⟩)
        else
          none

/- A number with an optional sign, and nothing else. -/
def double? (text : List Char) : Option Double :=
  let (negative, unsigned) := NumberLiteral.scanSign text
  magnitude? negative unsigned

/- A truth value in either case. -/
def truth? (text : String) : Option Bool :=
  let name := Text.lower text
  if name = "true" then
    some true
  else if name = "false" then
    some false
  else
    none

/-
  What a text means on its own: a truth value, an integer, a
  number, or else itself.
-/
def ofText (text : String) : Json :=
  match truth? text with
  | some value => .bool value
  | none =>
      match word? text.toList with
      | some n => .ofInt n
      | none =>
          match double? text.toList with
          | some x => .ofDouble x
          | none => .string text

end Scalar

end Dashboard

------------------------------------------------------------
-- Variables
------------------------------------------------------------

namespace Dashboard

namespace Layer

/- What the names of variables for settings begin with. -/
def variableMark : List Char :=
  "dashboard__".toList

/- A text with a point for each double underscore. -/
def pointed : List Char → List Char
  | [] => []
  | '_' :: '_' :: rest => '.' :: pointed rest
  | c :: rest => c :: pointed rest

/- The path that a variable assigns to, if it does. -/
def pathOf? (name : String) : Option String :=
  let lower := Text.lowercase name.toList
  if variableMark.isPrefixOf lower then
    some
      (String.ofList
        (pointed (lower.drop variableMark.length)))
  else
    none

/- The layer of the variables that are assigned. -/
def ofAssigned (assigned : List (String × String)) : Layer :=
  assigned.filterMap fun v =>
    (pathOf? v.1).map fun path => (path, Scalar.ofText v.2)

end Layer

end Dashboard
