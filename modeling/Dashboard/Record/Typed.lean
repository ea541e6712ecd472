import Dashboard.Json.Shape
import Dashboard.Record.Basic

/-
  The records that each dataset holds.

  Key definitions include:
    * `Sale`
    * `User`
    * `Product`

  Counts are natural numbers of 64 bits.
-/

------------------------------------------------------------
-- Sales
------------------------------------------------------------

namespace Dashboard

/- The sales of a month. -/
structure Sale where
  month : String
  revenue : Double
  unitsSold : UInt64
  profit : Double
  category : String
deriving DecidableEq

/- A count of 64 bits. -/
def Json.count? (json : Json) : Option UInt64 :=
  (json.natural? 64).map Nat.toUInt64

/- The sales that a record holds. -/
def Sale.ofRecord? (record : Record) : Option Sale :=
  let field := Slot.ofMember record
  do
    let month ← (field "month").required Json.string?
    let revenue ← (field "revenue").required Json.double?
    let unitsSold ← (field "unitsSold").required Json.count?
    let profit ← (field "profit").required Json.double?
    let category ← (field "category").required Json.string?
    return ⟨month, revenue, unitsSold, profit, category⟩

end Dashboard

------------------------------------------------------------
-- Users
------------------------------------------------------------

namespace Dashboard

/- A user of the product. -/
structure User where
  id : UInt64
  name : String
  email : String
  role : String
  status : String
  lastActive : String
  sessionsThisMonth : UInt64
  joinedDate : String
deriving DecidableEq

/- The user that a record describes. -/
def User.ofRecord? (record : Record) : Option User :=
  let field := Slot.ofMember record
  do
    let id ← (field "id").required Json.count?
    let name ← (field "name").required Json.string?
    let email ← (field "email").required Json.string?
    let role ← (field "role").required Json.string?
    let status ← (field "status").required Json.string?
    let lastActive ←
      (field "lastActive").required Json.string?
    let sessionsThisMonth ←
      (field "sessionsThisMonth").required Json.count?
    let joinedDate ←
      (field "joinedDate").required Json.string?
    return ⟨id, name, email, role, status, lastActive,
      sessionsThisMonth, joinedDate⟩

end Dashboard

------------------------------------------------------------
-- Products
------------------------------------------------------------

namespace Dashboard

/- A product on sale. -/
structure Product where
  id : UInt64
  name : String
  category : String
  price : Double
  stock : UInt64
  status : String
  rating : Double
  totalSold : UInt64
deriving DecidableEq

/- The product that a record describes. -/
def Product.ofRecord? (record : Record) : Option Product :=
  let field := Slot.ofMember record
  do
    let id ← (field "id").required Json.count?
    let name ← (field "name").required Json.string?
    let category ← (field "category").required Json.string?
    let price ← (field "price").required Json.double?
    let stock ← (field "stock").required Json.count?
    let status ← (field "status").required Json.string?
    let rating ← (field "rating").required Json.double?
    let totalSold ← (field "totalSold").required Json.count?
    return ⟨id, name, category, price, stock, status, rating,
      totalSold⟩

end Dashboard
