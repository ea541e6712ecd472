import Dashboard.Store.Basic

/-
  Summaries of the datasets.

  Key definitions include:
    * `Summary`
    * `SummaryFailure`
    * `Store.summary`
    * `Summary.toJson`
-/

------------------------------------------------------------
-- Arithmetic
------------------------------------------------------------

namespace Dashboard

/- A count as a number of double precision. -/
def ofCount (n : UInt64) : Double :=
  .ofNat n.toNat

/- The sum of two counts, if 64 bits can hold it. -/
def addCount? (first second : UInt64) : Option UInt64 :=
  if first.toNat + second.toNat < UInt64.size then
    some (first + second)
  else
    none

/- The total of counts, if 64 bits can hold it. -/
def totalCount? (counts : List UInt64) : Option UInt64 :=
  counts.foldlM addCount? 0

/- A quotient; one without a divisor is zero. -/
def ratio (dividend divisor : Double) : Double :=
  if divisor.equals .zero then
    .zero
  else
    dividend.div divisor

/- A number rounded to one decimal place. -/
def oneDecimal (x : Double) : Double :=
  (x.mul (.ofNat 10)).roundToWhole.div (.ofNat 10)

end Dashboard

------------------------------------------------------------
-- Summaries
------------------------------------------------------------

namespace Dashboard

/- The totals and averages of the sales. -/
structure SalesSummary where
  totalRevenue : Double
  totalUnits : UInt64
  totalProfit : Double
  avgMonthlyRevenue : Double
  profitMargin : Double
deriving DecidableEq

/- The counts of the users by status. -/
structure UsersSummary where
  totalUsers : Nat
  activeUsers : Nat
  inactiveUsers : Nat
  pendingUsers : Nat
  avgSessionsPerUser : Double
deriving DecidableEq

/- The counts of the products by status. -/
structure ProductsSummary where
  totalProducts : Nat
  inStock : Nat
  lowStock : Nat
  outOfStock : Nat
  totalInventoryValue : Double
  totalUnitsSold : UInt64
deriving DecidableEq

/- The summary of a dataset. -/
inductive Summary where
  | sales (summary : SalesSummary)
  | users (summary : UsersSummary)
  | products (summary : ProductsSummary)
deriving DecidableEq

/- The summary of sales with so many units. -/
def SalesSummary.ofSales
    (sales : List Sale)
    (units : UInt64) : SalesSummary :=
  let revenue := Binary.sum (sales.map Sale.revenue)
  let profit := Binary.sum (sales.map Sale.profit)
  { totalRevenue := revenue
    totalUnits := units
    totalProfit := profit
    avgMonthlyRevenue := ratio revenue (.ofNat sales.length)
    profitMargin :=
      oneDecimal ((ratio profit revenue).mul (.ofNat 100)) }

/- The summary of users with so many sessions. -/
def UsersSummary.ofUsers
    (users : List User)
    (sessions : UInt64) : UsersSummary :=
  let count := fun status =>
    (users.filter fun u => u.status == status).length
  { totalUsers := users.length
    activeUsers := count "active"
    inactiveUsers := count "inactive"
    pendingUsers := count "pending"
    avgSessionsPerUser :=
      oneDecimal
        (ratio (ofCount sessions) (.ofNat users.length)) }

/- The summary of products of which so many were sold. -/
def ProductsSummary.ofProducts
    (products : List Product)
    (sold : UInt64) : ProductsSummary :=
  let count := fun status =>
    (products.filter fun p => p.status == status).length
  { totalProducts := products.length
    inStock := count "in_stock"
    lowStock := count "low_stock"
    outOfStock := count "out_of_stock"
    totalInventoryValue :=
      Binary.sum
        (products.map fun p => p.price.mul (ofCount p.stock))
    totalUnitsSold := sold }

/-
  Why there is no summary: the records are not of the shape
  that they should have, or a total of counts overflows, and
  the summary is aborted.
-/
inductive SummaryFailure where
  | data (cause : DataError)
  | overflow
deriving DecidableEq

/- The summary of typed records with the total of a field. -/
def Summary.ofTyped
    {α : Type}
    (typed : Except DataError (List α))
    (field : α → UInt64)
    (make : List α → UInt64 → Summary) :
    Except SummaryFailure Summary :=
  match typed with
  | .error e => .error (.data e)
  | .ok values =>
      match totalCount? (values.map field) with
      | none => .error .overflow
      | some total => .ok (make values total)

/- The summary of a dataset of a store. -/
def Store.summary
    (store : Store) :
    Dataset → Except SummaryFailure Summary
  | .sales =>
      Summary.ofTyped store.typedSales Sale.unitsSold
        fun sales units => .sales (.ofSales sales units)
  | .users =>
      Summary.ofTyped store.typedUsers User.sessionsThisMonth
        fun users sessions =>
          .users (.ofUsers users sessions)
  | .products =>
      Summary.ofTyped store.typedProducts Product.totalSold
        fun products sold =>
          .products (.ofProducts products sold)

end Dashboard

------------------------------------------------------------
-- Wire Form
------------------------------------------------------------

namespace Dashboard

/- A count as a JSON value. -/
def Json.ofCount (n : UInt64) : Json :=
  .ofNat n.toNat

/- A summary as a JSON value. -/
def Summary.toJson : Summary → Json
  | sales s =>
      .ofMembers
        [("totalRevenue", .ofDouble s.totalRevenue),
          ("totalUnits", .ofCount s.totalUnits),
          ("totalProfit", .ofDouble s.totalProfit),
          ("avgMonthlyRevenue",
            .ofDouble s.avgMonthlyRevenue),
          ("profitMargin", .ofDouble s.profitMargin)]
  | users s =>
      .ofMembers
        [("totalUsers", .ofNat s.totalUsers),
          ("activeUsers", .ofNat s.activeUsers),
          ("inactiveUsers", .ofNat s.inactiveUsers),
          ("pendingUsers", .ofNat s.pendingUsers),
          ("avgSessionsPerUser",
            .ofDouble s.avgSessionsPerUser)]
  | products s =>
      .ofMembers
        [("totalProducts", .ofNat s.totalProducts),
          ("inStock", .ofNat s.inStock),
          ("lowStock", .ofNat s.lowStock),
          ("outOfStock", .ofNat s.outOfStock),
          ("totalInventoryValue",
            .ofDouble s.totalInventoryValue),
          ("totalUnitsSold", .ofCount s.totalUnitsSold)]

end Dashboard
