import Dashboard.Number.Notation
import Dashboard.Number.Numeral

/-
  JSON values.

  Key definitions include:
    * `JsonNumber`
    * `Json`
    * `Json.ofMembers`
    * `Json.member?`

  The members of an object are kept in the order of their
  names, and each name occurs once.
-/

------------------------------------------------------------
-- Values
------------------------------------------------------------

namespace Dashboard

/-
  A number is an integer of 64 bits, with or without a sign,
  or a floating point number.
-/
inductive JsonNumber where
  | integer (n : Int)
  | float (x : Double)
deriving DecidableEq

/- A JSON value. -/
inductive Json where
  | null
  | bool (value : Bool)
  | number (value : JsonNumber)
  | string (value : String)
  | array (items : List Json)
  | object (members : List (String × Json))

namespace JsonNumber

/- The floating point number nearest to a JSON number. -/
def toDouble : JsonNumber → Double
  | integer n => .ofInt n
  | float x => x

/-
  Whether 64 bits hold the integer that a numeral is, with or
  without a sign.  A zero with a minus sign is no integer.
-/
def holdsInteger (numeral : Numeral) : Bool :=
  if numeral.negative then
    numeral.integer != 0 && -0x8000000000000000 ≤ numeral.integer
  else
    numeral.integer < 0x10000000000000000

/-
  The number that a numeral is.  What is no integer of 64 bits
  is read in steps as a floating point number, and one that is
  too large for that is no number.
-/
def ofNumeral? (numeral : Numeral) : Option JsonNumber :=
  if numeral.isInteger && holdsInteger numeral then
    some (integer numeral.integer)
  else
    numeral.stepwise?.map float

end JsonNumber

namespace Json

/- A natural number as a JSON value. -/
def ofNat (n : Nat) : Json :=
  number (.integer n)

/- An integer as a JSON value. -/
def ofInt (n : Int) : Json :=
  number (.integer n)

/- A floating point number as a JSON value. -/
def ofDouble (x : Double) : Json :=
  number (.float x)

/- Nothing becomes `null`. -/
def ofOption
    {α : Type}
    (encode : α → Json) :
    Option α → Json
  | none => null
  | some value => encode value

/- A list of values. -/
def ofList
    {α : Type}
    (encode : α → Json)
    (values : List α) : Json :=
  array (values.map encode)

end Json

end Dashboard

------------------------------------------------------------
-- Members
------------------------------------------------------------

namespace Dashboard

namespace Json

/- Add a member in its place, or replace its value. -/
def insertMember
    (name : String)
    (value : Json) :
    List (String × Json) → List (String × Json)
  | [] => [(name, value)]
  | (other, old) :: rest =>
      if name < other then
        (name, value) :: (other, old) :: rest
      else if name = other then
        (name, value) :: rest
      else
        (other, old) :: insertMember name value rest

/-
  Members in the order of their names.  Of two members with
  one name the later one counts.
-/
def sortMembers
    (members : List (String × Json)) :
    List (String × Json) :=
  members.foldl
    (fun sorted m => insertMember m.1 m.2 sorted)
    []

/- The object with these members. -/
def ofMembers (members : List (String × Json)) : Json :=
  object (sortMembers members)

/- The value of a member, if there is such a member. -/
def memberIn?
    (members : List (String × Json))
    (name : String) : Option Json :=
  members.lookup name

/- The value of a member of an object. -/
def member? (json : Json) (name : String) : Option Json :=
  match json with
  | object members => memberIn? members name
  | _ => none

/- The text of a string. -/
def string? : Json → Option String
  | string value => some value
  | _ => none

/- Whether a value is `null`. -/
def isNull : Json → Bool
  | null => true
  | _ => false

end Json

end Dashboard
