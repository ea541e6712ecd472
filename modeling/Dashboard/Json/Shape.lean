import Dashboard.Json.Basic
import Dashboard.Number.Rounding

/-
  Reading domain values out of JSON values.

  Key definitions include:
    * `Json.slots?`
    * `Slot.required`
    * `Slot.optional`
    * `Slot.defaulted`
    * `Json.name?`

  A structure is written as an object, or as an array that
  lists its fields in their fixed order.
-/

------------------------------------------------------------
-- Fields Of Structures
------------------------------------------------------------

namespace Dashboard

/-
  What a structure says about one of its fields: an object
  may have no such member, and an array may end before it.
-/
inductive Slot (α : Type) where
  | missing
  | cut
  | given (value : α)

namespace Slot

variable {α β : Type}

/- The fields that an array lists, if it is not too long. -/
def ofItems? :
    List String → List α → Option (List (Slot α))
  | [], [] => some []
  | [], _ :: _ => none
  | _ :: names, [] => (ofItems? names []).map (cut :: ·)
  | _ :: names, item :: items =>
      (ofItems? names items).map (given item :: ·)

/- What an object says about a field. -/
def ofMember
    (members : List (String × α))
    (name : String) : Slot α :=
  match members.lookup name with
  | some value => given value
  | none => missing

/- A field that has to be there. -/
def required
    (read : α → Option β) : Slot α → Option β
  | given value => read value
  | _ => none

/- A field that an object may leave out. -/
def optional
    (read : α → Option (Option β)) :
    Slot α → Option (Option β)
  | given value => read value
  | missing => some none
  | cut => none

/- A field that has a value when it is left out. -/
def defaulted
    (default : β)
    (read : α → Option β) : Slot α → Option β
  | given value => read value
  | _ => some default

end Slot

namespace Json

/- The fields of a structure, in their fixed order. -/
def slots?
    (names : List String) :
    Json → Option (List (Slot Json))
  | object members => some (names.map (Slot.ofMember members))
  | array items => Slot.ofItems? names items
  | _ => none

end Json

end Dashboard

------------------------------------------------------------
-- Plain Values
------------------------------------------------------------

namespace Dashboard

namespace Json

/- Nothing, written as `null`, or a value. -/
def nullable
    {α : Type}
    (read : Json → Option α) : Json → Option (Option α)
  | null => some none
  | json => (read json).map some

/- A truth value. -/
def bool? : Json → Option Bool
  | bool value => some value
  | _ => none

/- A natural number of at most so many bits. -/
def natural? (bits : Nat) : Json → Option Nat
  | number (.integer n) =>
      if 0 ≤ n && n < Nat.pow 2 bits then
        some n.toNat
      else
        none
  | _ => none

/- A number of double precision. -/
def double? : Json → Option Double
  | number n => some n.toDouble
  | _ => none

/- A number rounded to single precision. -/
def single? : Json → Option Single
  | number (.integer n) => some (.ofInt n)
  | number (.float x) => some x.convert
  | _ => none

/- A list of values. -/
def list?
    {α : Type}
    (read : Json → Option α) : Json → Option (List α)
  | array items => items.mapM read
  | _ => none

/-
  The name of a case: a string, or an object with that name
  alone and `null` as its value.
-/
def name? : Json → Option String
  | string name => some name
  | object [(name, null)] => some name
  | _ => none

end Json

end Dashboard
