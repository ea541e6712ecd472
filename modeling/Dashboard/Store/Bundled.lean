import Dashboard.Store.Basic

/-
  The datasets that come with the program.

  Key definitions include:
    * `Store.bundled`
-/

------------------------------------------------------------
-- Sales
------------------------------------------------------------

namespace Dashboard

namespace Bundled

/- The sales of a month as a record. -/
def sale
    (month : String)
    (revenue unitsSold profit : Nat)
    (category : String) : Record :=
  .ofMembers
    [("month", .string month),
      ("revenue", .ofNat revenue),
      ("unitsSold", .ofNat unitsSold),
      ("profit", .ofNat profit),
      ("category", .string category)]

/- The sales of a year. -/
def sales : List Record :=
  [sale "Jan" 45000 320 12500 "Electronics",
    sale "Feb" 52000 380 14800 "Electronics",
    sale "Mar" 48500 345 13200 "Accessories",
    sale "Apr" 61000 420 17900 "Electronics",
    sale "May" 55500 398 15600 "Accessories",
    sale "Jun" 67000 475 19800 "Electronics",
    sale "Jul" 72500 510 21400 "Electronics",
    sale "Aug" 69000 488 20100 "Accessories",
    sale "Sep" 58000 412 16300 "Accessories",
    sale "Oct" 63500 450 18200 "Electronics",
    sale "Nov" 78000 560 23500 "Electronics",
    sale "Dec" 89000 640 27800 "Electronics"]

end Bundled

end Dashboard

------------------------------------------------------------
-- Users
------------------------------------------------------------

namespace Dashboard

namespace Bundled

/- A user as a record. -/
def user
    (id : Nat)
    (name email role status lastActive : String)
    (sessionsThisMonth : Nat)
    (joinedDate : String) : Record :=
  .ofMembers
    [("id", .ofNat id),
      ("name", .string name),
      ("email", .string email),
      ("role", .string role),
      ("status", .string status),
      ("lastActive", .string lastActive),
      ("sessionsThisMonth", .ofNat sessionsThisMonth),
      ("joinedDate", .string joinedDate)]

/- The user directory. -/
def users : List Record :=
  [user 1 "John Smith" "john@example.com" "Admin" "active"
      "2024-12-18T09:24:00Z" 45 "2023-01-15",
    user 2 "Sarah Johnson" "sarah.j@gmail.com" "Editor" "active"
      "2024-12-18T14:02:00Z" 38 "2023-03-22",
    user 3 "Michael Chen" "m.chen@example.com" "Viewer" "inactive"
      "2024-10-02T17:45:00Z" 2 "2023-05-10",
    user 4 "Emily Davis" "emily.davis@gmail.com" "Editor" "active"
      "2024-12-17T11:30:00Z" 27 "2023-07-01",
    user 5 "Robert Wilson" "rwilson@example.com" "Admin" "pending"
      "2024-12-01T08:00:00Z" 0 "2024-11-28",
    user 6 "Jessica Brown" "jess.brown@example.com" "Viewer" "active"
      "2024-12-16T19:12:00Z" 15 "2023-09-14",
    user 7 "David Martinez" "d.martinez@gmail.com" "Viewer" "inactive"
      "2024-08-21T10:05:00Z" 0 "2023-02-08",
    user 8 "Amanda Taylor" "amanda.t@example.com" "Editor" "active"
      "2024-12-18T07:48:00Z" 52 "2022-11-30",
    user 9 "Johnny Walker" "jwalker@example.com" "Viewer" "pending"
      "2024-12-10T13:20:00Z" 4 "2024-12-09",
    user 10 "Lisa Anderson" "lisa.anderson@gmail.com" "Admin" "active"
      "2024-12-18T16:35:00Z" 33 "2022-08-19"]

end Bundled

end Dashboard

------------------------------------------------------------
-- Products
------------------------------------------------------------

namespace Dashboard

namespace Bundled

/- A number with decimal places. -/
def decimal (significand places : Nat) : Json :=
  .ofDouble (.ofDecimal false ⟨significand, -(places : Int)⟩)

/- A product as a record. -/
def product
    (id : Nat)
    (name category : String)
    (price : Json)
    (stock : Nat)
    (status : String)
    (rating : Json)
    (totalSold : Nat) : Record :=
  .ofMembers
    [("id", .ofNat id),
      ("name", .string name),
      ("category", .string category),
      ("price", price),
      ("stock", .ofNat stock),
      ("status", .string status),
      ("rating", rating),
      ("totalSold", .ofNat totalSold)]

/- The product inventory. -/
def products : List Record :=
  [product 1 "Wireless Headphones" "Electronics" (decimal 14999 2) 245
      "in_stock" (decimal 47 1) 1250,
    product 2 "USB-C Cable" "Accessories" (decimal 1299 2) 1200
      "in_stock" (decimal 43 1) 5400,
    product 3 "Mechanical Keyboard" "Electronics" (decimal 895 1) 18
      "low_stock" (decimal 48 1) 860,
    product 4 "Laptop Stand" "Accessories" (decimal 3999 2) 0
      "out_of_stock" (decimal 44 1) 730,
    product 5 "4K Monitor" "Electronics" (.ofNat 399) 56
      "in_stock" (decimal 46 1) 410,
    product 6 "Wireless Mouse" "Electronics" (decimal 2999 2) 8
      "low_stock" (decimal 42 1) 2100,
    product 7 "Phone Case" "Accessories" (decimal 1999 2) 640
      "in_stock" (decimal 39 1) 3300,
    product 8 "Bluetooth Speaker" "Electronics" (decimal 7999 2) 0
      "out_of_stock" (decimal 45 1) 980,
    product 9 "Webcam HD" "Electronics" (decimal 5999 2) 130
      "in_stock" (decimal 41 1) 640,
    product 10 "Screen Protector" "Accessories" (decimal 999 2) 12
      "low_stock" (decimal 37 1) 4200]

end Bundled

end Dashboard

------------------------------------------------------------
-- The Store
------------------------------------------------------------

namespace Dashboard

/- The store with the datasets of the program. -/
def Store.bundled : Store :=
  ⟨Bundled.sales, Bundled.users, Bundled.products⟩

end Dashboard
