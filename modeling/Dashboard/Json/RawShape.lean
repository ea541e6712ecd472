import Dashboard.Json.Raw
import Dashboard.Json.Shape

/-
  Reading domain values straight out of JSON texts.

  Key definitions include:
    * `RawJson.slots?`

  A structure refuses to be told about a field twice.  What
  it does not know is skipped, whatever it is.
-/

------------------------------------------------------------
-- Fields Of Structures
------------------------------------------------------------

namespace Dashboard

namespace RawJson

/- The members, if all their names are texts. -/
def named? :
    List (Option String × RawJson) →
      Option (List (String × RawJson))
  | [] => some []
  | (none, _) :: _ => none
  | (some name, value) :: rest =>
      (named? rest).map ((name, value) :: ·)

/- Whether a name occurs more than once. -/
def isRepeated
    (members : List (String × RawJson))
    (name : String) : Bool :=
  1 < (members.filter fun m => m.1 == name).length

/- The fields of a structure, in their fixed order. -/
def slots?
    (names : List String) :
    RawJson → Option (List (Slot RawJson))
  | object members =>
      match named? members with
      | none => none
      | some known =>
          if names.any (isRepeated known) then
            none
          else
            some (names.map (Slot.ofMember known))
  | array items => Slot.ofItems? names items
  | _ => none

end RawJson

end Dashboard

------------------------------------------------------------
-- Plain Values
------------------------------------------------------------

namespace Dashboard

namespace RawJson

/- Nothing, written as `null`, or a value. -/
def nullable
    {α : Type}
    (read : RawJson → Option α) :
    RawJson → Option (Option α)
  | null => some none
  | raw => (read raw).map some

/- The text of a string. -/
def string? : RawJson → Option String
  | string value => value
  | _ => none

/- A truth value. -/
def bool? : RawJson → Option Bool
  | bool value => some value
  | _ => none

/- A natural number of at most so many bits. -/
def natural? (bits : Nat) : RawJson → Option Nat
  | number numeral =>
      match JsonNumber.ofNumeral? numeral with
      | some (.integer n) =>
          if 0 ≤ n && n < Nat.pow 2 bits then
            some n.toNat
          else
            none
      | _ => none
  | _ => none

/- A list of values. -/
def list?
    {α : Type}
    (read : RawJson → Option α) :
    RawJson → Option (List α)
  | array items => items.mapM read
  | _ => none

end RawJson

end Dashboard
