/-
  The three datasets.

  Key definitions include:
    * `Dataset`
    * `Dataset.all`
    * `Dataset.ofName?`
-/

------------------------------------------------------------
-- Datasets
------------------------------------------------------------

namespace Dashboard

/- A fixed collection of records. -/
inductive Dataset where
  | sales
  | users
  | products
deriving DecidableEq, Repr

namespace Dataset

/- All datasets in their fixed order. -/
def all : List Dataset :=
  [sales, users, products]

/- The name of a dataset. -/
def name : Dataset → String
  | sales => "sales"
  | users => "users"
  | products => "products"

/- The name of a dataset in a title. -/
def titleName : Dataset → String
  | sales => "Sales"
  | users => "Users"
  | products => "Products"

/- The dataset of a name, which has to be exact. -/
def ofName? (name : String) : Option Dataset :=
  all.find? fun d => d.name == name

end Dataset

end Dashboard
