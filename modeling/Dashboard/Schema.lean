import Dashboard.Dataset
import Dashboard.Json.Printer

/-
  The fields of the datasets.

  Key definitions include:
    * `FieldSchema`
    * `DatasetSchema`
    * `Dataset.schema`
    * `DatasetSchema.describe`
    * `schemaText`
-/

------------------------------------------------------------
-- Fields
------------------------------------------------------------

namespace Dashboard

/- What kind of value a field holds. -/
inductive FieldKind where
  | string
  | number
  | boolean
  | date
deriving DecidableEq, Repr

/- The name of a kind of value. -/
def FieldKind.name : FieldKind → String
  | string => "string"
  | number => "number"
  | boolean => "boolean"
  | date => "date"

/- A field, and its possible values if they are fixed. -/
structure FieldSchema where
  name : String
  kind : FieldKind
  description : String
  values : List String
deriving DecidableEq, Repr

namespace FieldSchema

/- A field whose values are not fixed. -/
def free
    (name : String)
    (kind : FieldKind)
    (description : String) : FieldSchema :=
  ⟨name, kind, description, []⟩

/- A field as a JSON value. -/
def toJson (field : FieldSchema) : Json :=
  .ofMembers
    ([("name", .string field.name),
      ("type", .string field.kind.name),
      ("description", .string field.description)] ++
      (if field.values.isEmpty then
        []
      else
        [("possibleValues", .ofList .string field.values)]))

/- A field as a line of a description. -/
def describe (field : FieldSchema) : String :=
  "  - " ++ field.name ++ " (" ++ field.kind.name ++ "): " ++
    field.description ++
    (if field.values.isEmpty then
      ""
    else
      " [Values: " ++ ", ".intercalate field.values ++ "]") ++
    "\n"

end FieldSchema

end Dashboard

------------------------------------------------------------
-- Datasets
------------------------------------------------------------

namespace Dashboard

/- The fields of a dataset and a sample record. -/
structure DatasetSchema where
  dataset : Dataset
  description : String
  fields : List FieldSchema
  sample : Json

namespace DatasetSchema

/- The names of the months. -/
def months : List String :=
  ["Jan", "Feb", "Mar", "Apr", "May", "Jun", "Jul", "Aug",
    "Sep", "Oct", "Nov", "Dec"]

/- A number with decimal places. -/
def decimal (significand places : Nat) : Json :=
  .ofDouble (.ofDecimal false ⟨significand, -(places : Int)⟩)

/- The fields of the sales. -/
def sales : DatasetSchema where
  dataset := .sales
  description :=
    "Monthly sales data with revenue, units sold, and " ++
      "profit information"
  fields :=
    [⟨"month", .string, "Month name (Jan, Feb, Mar, etc.)",
        months⟩,
      .free "revenue" .number "Total revenue in dollars",
      .free "unitsSold" .number "Number of units sold",
      .free "profit" .number "Profit amount in dollars",
      .free "category" .string "Product category"]
  sample :=
    .ofMembers
      [("month", .string "Jan"),
        ("revenue", .ofNat 45000),
        ("unitsSold", .ofNat 320),
        ("profit", .ofNat 12500),
        ("category", .string "Electronics")]

/- The fields of the users. -/
def users : DatasetSchema where
  dataset := .users
  description :=
    "User directory with activity status and engagement " ++
      "metrics"
  fields :=
    [.free "id" .number "User ID",
      .free "name" .string "Full name of the user",
      .free "email" .string "Email address",
      ⟨"role", .string, "User role",
        ["Admin", "Editor", "Viewer"]⟩,
      ⟨"status", .string, "Account status",
        ["active", "inactive", "pending"]⟩,
      .free "lastActive" .date "Last activity timestamp",
      .free "sessionsThisMonth" .number
        "Number of sessions this month",
      .free "joinedDate" .date "Date when user joined"]
  sample :=
    .ofMembers
      [("id", .ofNat 1),
        ("name", .string "John Smith"),
        ("email", .string "john@example.com"),
        ("role", .string "Admin"),
        ("status", .string "active"),
        ("sessionsThisMonth", .ofNat 45)]

/- The fields of the products. -/
def products : DatasetSchema where
  dataset := .products
  description :=
    "Product inventory with stock levels and pricing"
  fields :=
    [.free "id" .number "Product ID",
      .free "name" .string "Product name",
      ⟨"category", .string, "Product category",
        ["Electronics", "Accessories"]⟩,
      .free "price" .number "Product price in dollars",
      .free "stock" .number "Current stock quantity",
      ⟨"status", .string, "Stock status",
        ["in_stock", "low_stock", "out_of_stock"]⟩,
      .free "rating" .number "Product rating (1-5)",
      .free "totalSold" .number "Total units sold"]
  sample :=
    .ofMembers
      [("id", .ofNat 1),
        ("name", .string "Wireless Headphones"),
        ("category", .string "Electronics"),
        ("price", decimal 14999 2),
        ("stock", .ofNat 245),
        ("status", .string "in_stock"),
        ("rating", decimal 47 1),
        ("totalSold", .ofNat 1250)]

/- The field of a name. -/
def field?
    (schema : DatasetSchema)
    (name : String) : Option FieldSchema :=
  schema.fields.find? fun f => f.name == name

/- The fields of a dataset as a JSON value. -/
def toJson (schema : DatasetSchema) : Json :=
  .ofMembers
    [("dataset", .string schema.dataset.name),
      ("description", .string schema.description),
      ("fields", .ofList FieldSchema.toJson schema.fields),
      ("sample", schema.sample)]

end DatasetSchema

/- The fields of a dataset. -/
def Dataset.schema : Dataset → DatasetSchema
  | sales => DatasetSchema.sales
  | users => DatasetSchema.users
  | products => DatasetSchema.products

end Dashboard

------------------------------------------------------------
-- Descriptions
------------------------------------------------------------

namespace Dashboard

namespace DatasetSchema

/- The heading of a dataset in a description. -/
def heading : Dataset → String
  | .sales => "SALES"
  | .users => "USERS"
  | .products => "PRODUCTS"

/- A dataset as a section of a description. -/
def describe (schema : DatasetSchema) : String :=
  "## " ++ heading schema.dataset ++ " Dataset\n" ++
    "Description: " ++ schema.description ++ "\nFields:\n" ++
    String.join (schema.fields.map FieldSchema.describe) ++
    "Sample record: " ++ schema.sample.print ++ "\n"

end DatasetSchema

/- All datasets in a description. -/
def schemaText : String :=
  "Available datasets and their fields:\n\n" ++
    String.join
      (Dataset.all.map fun d => d.schema.describe ++ "\n")

end Dashboard
