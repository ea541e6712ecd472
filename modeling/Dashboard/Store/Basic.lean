import Dashboard.Error
import Dashboard.Json.Reader
import Dashboard.Record.Typed

/-
  The store of the three datasets.

  Key definitions include:
    * `Store`
    * `Store.records`
    * `Store.ofTexts`
    * `Store.ofFiles`

  Records are kept as they were read, so that a filter can
  refer to any field, but a store is only built from records
  that each dataset may hold.
-/

------------------------------------------------------------
-- Stores
------------------------------------------------------------

namespace Dashboard

/- The records of the datasets. -/
structure Store where
  sales : List Record
  users : List Record
  products : List Record

namespace Store

/- The records of a dataset. -/
def records (store : Store) : Dataset → List Record
  | .sales => store.sales
  | .users => store.users
  | .products => store.products

/- The number of records of a dataset. -/
def size (store : Store) (dataset : Dataset) : Nat :=
  (store.records dataset).length

/- Records in the form that a dataset holds. -/
def typed
    {α : Type}
    (read : Record → Option α)
    (dataset : Dataset)
    (records : List Record) : Except DataError (List α) :=
  match records.mapM read with
  | some values => .ok values
  | none => .error (.unparsable dataset)

/- The sales of a store. -/
def typedSales (store : Store) :
    Except DataError (List Sale) :=
  typed Sale.ofRecord? .sales store.sales

/- The users of a store. -/
def typedUsers (store : Store) :
    Except DataError (List User) :=
  typed User.ofRecord? .users store.users

/- The products of a store. -/
def typedProducts (store : Store) :
    Except DataError (List Product) :=
  typed Product.ofRecord? .products store.products

end Store

end Dashboard

------------------------------------------------------------
-- Reading
------------------------------------------------------------

namespace Dashboard

namespace Store

/- The records in a list of values, counted from `index`. -/
def recordsOfItems
    (dataset : Dataset)
    (index : Nat) :
    List Json → Except DataError (List Record)
  | [] => .ok []
  | item :: rest =>
      match Record.ofJson? item with
      | none =>
          .error
            (.invalid dataset.name
              ("record " ++ toString index ++
                " is not an object"))
      | some record =>
          (recordsOfItems dataset (index + 1) rest).map
            (record :: ·)

/- The records in the text of a dataset. -/
def recordsOfText
    (dataset : Dataset)
    (text : String) : Except DataError (List Record) :=
  match Json.parse? text with
  | none => .error (.unparsable dataset)
  | some (.array items) => recordsOfItems dataset 0 items
  | some _ =>
      .error
        (.invalid dataset.name
          "expected a JSON array of records")

/- The check that a store holds what it should. -/
def check (store : Store) : Except DataError Unit := do
  let _ ← store.typedSales
  let _ ← store.typedUsers
  let _ ← store.typedProducts

/-
  The store with the datasets of three texts.  All texts are
  read before any record is looked at more closely.
-/
def ofTexts
    (sales users products : String) :
    Except DataError Store := do
  let sales ← recordsOfText .sales sales
  let users ← recordsOfText .users users
  let products ← recordsOfText .products products
  let store : Store := ⟨sales, users, products⟩
  store.check
  return store

/- The text of the file of a dataset, if there is one. -/
def fileText
    (files : Dataset → Option String)
    (dataset : Dataset) : Except DataError String :=
  match files dataset with
  | some text => .ok text
  | none => .error (.unreadable dataset)

/- The store with the datasets of a directory. -/
def ofFiles
    (files : Dataset → Option String) :
    Except DataError Store := do
  let sales ← fileText files .sales
  let users ← fileText files .users
  let products ← fileText files .products
  ofTexts sales users products

end Store

end Dashboard
