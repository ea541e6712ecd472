import Dashboard.Json.Basic
import Dashboard.Json.Raw

/-
  Reading JSON texts.

  Key definitions include:
    * `RawJson.valueBy?`
    * `RawJson.toJson?`
    * `Json.parse?`

  A value is refused when it is nested too deeply, when it
  holds a number that is too large, or when it holds a string
  that is no text.
-/

------------------------------------------------------------
-- Values
------------------------------------------------------------

namespace Dashboard

namespace RawJson

/- How many arrays and objects may stand in each other. -/
def deepestNesting : Nat := 127

mutual

/-
  The value of a raw one that is nested at most so deeply,
  when its numbers are read in some way.
-/
def valueBy?
    (readNumber : Numeral → Option JsonNumber) :
    Nat → RawJson → Option Json
  | _, null => some .null
  | _, bool value => some (.bool value)
  | _, number value => (readNumber value).map Json.number
  | _, string value => value.map Json.string
  | 0, array _ => none
  | 0, object _ => none
  | depth + 1, array items =>
      (itemsBy? readNumber depth items).map Json.array
  | depth + 1, object members =>
      (membersBy? readNumber depth members).map Json.ofMembers

/- The values of items. -/
def itemsBy?
    (readNumber : Numeral → Option JsonNumber) :
    Nat → List RawJson → Option (List Json)
  | _, [] => some []
  | depth, item :: rest =>
      match valueBy? readNumber depth item with
      | none => none
      | some value =>
          (itemsBy? readNumber depth rest).map (value :: ·)

/- The values of members. -/
def membersBy?
    (readNumber : Numeral → Option JsonNumber) :
    Nat → List (Option String × RawJson) →
      Option (List (String × Json))
  | _, [] => some []
  | _, (none, _) :: _ => none
  | depth, (some name, member) :: rest =>
      match valueBy? readNumber depth member with
      | none => none
      | some value =>
          (membersBy? readNumber depth rest).map
            ((name, value) :: ·)

end

/- The value of a raw one that is not nested too deeply. -/
def toJson? (raw : RawJson) : Option Json :=
  valueBy? JsonNumber.ofNumeral? deepestNesting raw

end RawJson

end Dashboard

------------------------------------------------------------
-- Texts
------------------------------------------------------------

namespace Dashboard

namespace Json

/- The value that a text is. -/
def parse? (text : String) : Option Json :=
  match RawJson.read? text.toList with
  | none => none
  | some raw => raw.toJson?

/-
  The value at the beginning of a text.  What follows it does
  not count.
-/
def parseFirst? (text : String) : Option Json :=
  match RawJson.scan text.toList with
  | none => none
  | some (raw, _) => raw.toJson?

end Json

end Dashboard
