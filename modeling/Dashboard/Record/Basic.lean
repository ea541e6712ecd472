import Dashboard.Json.Printer
import Dashboard.Number.Literal

/-
  Records, and how their values are read.

  Key definitions include:
    * `Record`
    * `Record.value?`
    * `Json.asNumber?`
    * `Json.asText`
-/

------------------------------------------------------------
-- Records
------------------------------------------------------------

namespace Dashboard

/- The values of a record by field. -/
abbrev Record :=
  List (String × Json)

namespace Record

/- The record with these values. -/
def ofMembers (members : List (String × Json)) : Record :=
  Json.sortMembers members

/- A record as a JSON value. -/
def toJson (record : Record) : Json :=
  .object record

/- The record that a JSON value is. -/
def ofJson? : Json → Option Record
  | .object members => some members
  | _ => none

/- The value of a field; `null` counts as no value. -/
def value?
    (record : Record)
    (field : String) : Option Json :=
  (Json.memberIn? record field).filter (!·.isNull)

end Record

end Dashboard

------------------------------------------------------------
-- Readings
------------------------------------------------------------

namespace Dashboard

namespace Json

/-
  The number that a value reads as: a number itself, or the
  number at the start of a text.
-/
def asNumber? : Json → Option Double
  | number n => some n.toDouble
  | string text => floatPrefix? text
  | _ => none

/- Below this magnitude whole numbers are plain in texts. -/
def plainBound : Int := 1000000000000000

/- A floating point number in a text. -/
def floatText (x : Double) : String :=
  match x.toInt? with
  | some n =>
      if -plainBound < n && n < plainBound then
        String.ofList (writeInteger n)
      else
        (number (.float x)).print
  | none => (number (.float x)).print

/-
  The text that a value reads as.  A whole number has no
  decimal places, and what is no plain value is JSON.
-/
def asText : Json → String
  | string text => text
  | number (.float x) => floatText x
  | json => json.print

end Json

end Dashboard
