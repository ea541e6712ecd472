import Dashboard.Proofs.Json.Value
import Dashboard.Schema
import Dashboard.Store.Basic

/-
  What a store holds that was built from texts: every record
  has a value of the right kind for each field of its dataset,
  and no number in it is undefined.

  Key definitions include:
    * `FieldKind.describes`
    * `Record.Holds`
    * `Store.Accepted`

  Main declarations:
    * `Store.accepted_of_ofTexts`
-/

------------------------------------------------------------
-- Values Of Fields
------------------------------------------------------------

namespace Dashboard

/- Whether a value is of a kind; dates are strings. -/
def FieldKind.describes : FieldKind → Json → Bool
  | .string, .string _ => true
  | .number, .number _ => true
  | .boolean, .bool _ => true
  | .date, .string _ => true
  | _, _ => false

namespace Record

/- The record has a value of the right kind for a field. -/
def Holds (record : Record) (field : FieldSchema) : Prop :=
  ∃ json,
    record.value? field.name = some json ∧
      field.kind.describes json = true

theorem value?_of_lookup
    {record : Record}
    {name : String}
    {json : Json}
    (hLookup : record.lookup name = some json)
    (hNull : json.isNull = false) :
    record.value? name = some json := by
  unfold value? Json.memberIn?
  rw [hLookup]
  simp [hNull]

/- A value that is read stands in the record. -/
theorem mem_of_value?_eq_some
    {record : Record}
    {name : String}
    {json : Json}
    (hValue : record.value? name = some json) :
    (name, json) ∈ record := by
  unfold value? Json.memberIn? at hValue
  rw [Option.filter_eq_some_iff] at hValue
  rcases hValue with ⟨hLookup, _⟩
  rw [List.lookup_eq_some_iff] at hLookup
  rcases hLookup with ⟨before, after, rfl, _⟩
  simp

theorem lookup_of_required
    {α : Type}
    {record : Record}
    {name : String}
    {read : Json → Option α}
    {value : α}
    (hRequired :
      (Slot.ofMember record name).required read =
        some value) :
    ∃ json,
      record.lookup name = some json ∧
        read json = some value := by
  unfold Slot.ofMember at hRequired
  cases hLookup : record.lookup name with
  | none =>
      rw [hLookup] at hRequired
      cases hRequired
  | some json =>
      rw [hLookup] at hRequired
      exact ⟨json, rfl, hRequired⟩

variable {record : Record} {name : String}

theorem holds_string
    {text description : String}
    {values : List String}
    (hRequired :
      (Slot.ofMember record name).required Json.string? =
        some text) :
    record.Holds ⟨name, .string, description, values⟩ := by
  rcases lookup_of_required hRequired with
    ⟨json, hLookup, hRead⟩
  cases json with
  | string value =>
      exact ⟨_, value?_of_lookup hLookup rfl, rfl⟩
  | _ => cases hRead

theorem holds_date
    {text description : String}
    {values : List String}
    (hRequired :
      (Slot.ofMember record name).required Json.string? =
        some text) :
    record.Holds ⟨name, .date, description, values⟩ := by
  rcases lookup_of_required hRequired with
    ⟨json, hLookup, hRead⟩
  cases json with
  | string value =>
      exact ⟨_, value?_of_lookup hLookup rfl, rfl⟩
  | _ => cases hRead

theorem holds_double
    {value : Double}
    {description : String}
    {values : List String}
    (hRequired :
      (Slot.ofMember record name).required Json.double? =
        some value) :
    record.Holds ⟨name, .number, description, values⟩ := by
  rcases lookup_of_required hRequired with
    ⟨json, hLookup, hRead⟩
  cases json with
  | number n =>
      exact ⟨_, value?_of_lookup hLookup rfl, rfl⟩
  | _ => cases hRead

theorem holds_count
    {value : UInt64}
    {description : String}
    {values : List String}
    (hRequired :
      (Slot.ofMember record name).required Json.count? =
        some value) :
    record.Holds ⟨name, .number, description, values⟩ := by
  rcases lookup_of_required hRequired with
    ⟨json, hLookup, hRead⟩
  cases json with
  | number n =>
      exact ⟨_, value?_of_lookup hLookup rfl, rfl⟩
  | _ => cases hRead

end Record

end Dashboard

------------------------------------------------------------
-- Typed Records
------------------------------------------------------------

namespace Dashboard

theorem Sale.holds_of_ofRecord?
    {record : Record}
    {sale : Sale}
    (hRead : ofRecord? record = some sale) :
    ∀ field ∈ DatasetSchema.sales.fields,
      record.Holds field := by
  simp only [ofRecord?, Option.bind_eq_bind,
    Option.bind_eq_some_iff] at hRead
  rcases hRead with
    ⟨month, hMonth, revenue, hRevenue, unitsSold, hUnitsSold,
      profit, hProfit, category, hCategory, _⟩
  intro field hMem
  simp only [DatasetSchema.sales, List.mem_cons,
    List.not_mem_nil, or_false] at hMem
  rcases hMem with rfl | rfl | rfl | rfl | rfl
  · exact Record.holds_string hMonth
  · exact Record.holds_double hRevenue
  · exact Record.holds_count hUnitsSold
  · exact Record.holds_double hProfit
  · exact Record.holds_string hCategory

theorem User.holds_of_ofRecord?
    {record : Record}
    {user : User}
    (hRead : ofRecord? record = some user) :
    ∀ field ∈ DatasetSchema.users.fields,
      record.Holds field := by
  simp only [ofRecord?, Option.bind_eq_bind,
    Option.bind_eq_some_iff] at hRead
  rcases hRead with
    ⟨id, hId, name, hName, email, hEmail, role, hRole,
      status, hStatus, lastActive, hLastActive, sessions,
      hSessions, joined, hJoined, _⟩
  intro field hMem
  simp only [DatasetSchema.users, List.mem_cons,
    List.not_mem_nil, or_false] at hMem
  rcases hMem with
    rfl | rfl | rfl | rfl | rfl | rfl | rfl | rfl
  · exact Record.holds_count hId
  · exact Record.holds_string hName
  · exact Record.holds_string hEmail
  · exact Record.holds_string hRole
  · exact Record.holds_string hStatus
  · exact Record.holds_date hLastActive
  · exact Record.holds_count hSessions
  · exact Record.holds_date hJoined

theorem Product.holds_of_ofRecord?
    {record : Record}
    {product : Product}
    (hRead : ofRecord? record = some product) :
    ∀ field ∈ DatasetSchema.products.fields,
      record.Holds field := by
  simp only [ofRecord?, Option.bind_eq_bind,
    Option.bind_eq_some_iff] at hRead
  rcases hRead with
    ⟨id, hId, name, hName, category, hCategory, price,
      hPrice, stock, hStock, status, hStatus, rating,
      hRating, totalSold, hTotalSold, _⟩
  intro field hMem
  simp only [DatasetSchema.products, List.mem_cons,
    List.not_mem_nil, or_false] at hMem
  rcases hMem with
    rfl | rfl | rfl | rfl | rfl | rfl | rfl | rfl
  · exact Record.holds_count hId
  · exact Record.holds_string hName
  · exact Record.holds_string hCategory
  · exact Record.holds_double hPrice
  · exact Record.holds_count hStock
  · exact Record.holds_string hStatus
  · exact Record.holds_double hRating
  · exact Record.holds_count hTotalSold

end Dashboard

------------------------------------------------------------
-- Checked Stores
------------------------------------------------------------

namespace Dashboard

namespace Store

theorem mapM_of_typed_eq_ok
    {α : Type}
    {read : Record → Option α}
    {dataset : Dataset}
    {records : List Record}
    {values : List α}
    (hTyped : typed read dataset records = .ok values) :
    records.mapM read = some values := by
  unfold typed at hTyped
  split at hTyped
  · rename_i found hFound
    cases hTyped
    exact hFound
  · cases hTyped

theorem exists_of_typed_eq_ok
    {α : Type}
    {read : Record → Option α}
    {dataset : Dataset}
    {records : List Record}
    {values : List α}
    (hTyped : typed read dataset records = .ok values) :
    ∀ record ∈ records,
      ∃ value, read record = some value := by
  have hRead := mapM_of_typed_eq_ok hTyped
  clear hTyped
  induction records generalizing values with
  | nil => rintro record ⟨⟩
  | cons first rest ih =>
      simp only [List.mapM_cons, Option.bind_eq_bind,
        Option.bind_eq_some_iff] at hRead
      rcases hRead with ⟨value, hFirst, others, hRest, _⟩
      exact
        List.forall_mem_cons.mpr ⟨⟨value, hFirst⟩, ih hRest⟩

theorem typed_of_check_eq_ok
    {store : Store}
    (hCheck : store.check = .ok ()) :
    (∃ sales, store.typedSales = .ok sales) ∧
      (∃ users, store.typedUsers = .ok users) ∧
      (∃ products, store.typedProducts = .ok products) := by
  unfold check at hCheck
  cases hSales : store.typedSales with
  | error e =>
      rw [hSales] at hCheck
      cases hCheck
  | ok sales =>
      cases hUsers : store.typedUsers with
      | error e =>
          rw [hSales, hUsers] at hCheck
          cases hCheck
      | ok users =>
          cases hProducts : store.typedProducts with
          | error e =>
              rw [hSales, hUsers, hProducts] at hCheck
              cases hCheck
          | ok products =>
              exact ⟨⟨_, rfl⟩, ⟨_, rfl⟩, ⟨_, rfl⟩⟩

/- A checked store holds what the fields say. -/
theorem holds_of_check_eq_ok
    {store : Store}
    (hCheck : store.check = .ok ())
    (dataset : Dataset) :
    ∀ record ∈ store.records dataset,
      ∀ field ∈ dataset.schema.fields,
        record.Holds field := by
  rcases typed_of_check_eq_ok hCheck with
    ⟨⟨sales, hSales⟩, ⟨users, hUsers⟩,
      products, hProducts⟩
  intro record hMem
  cases dataset with
  | sales =>
      rcases exists_of_typed_eq_ok hSales record hMem with
        ⟨sale, hRead⟩
      exact Sale.holds_of_ofRecord? hRead
  | users =>
      rcases exists_of_typed_eq_ok hUsers record hMem with
        ⟨user, hRead⟩
      exact User.holds_of_ofRecord? hRead
  | products =>
      rcases exists_of_typed_eq_ok hProducts record hMem with
        ⟨product, hRead⟩
      exact Product.holds_of_ofRecord? hRead

end Store

end Dashboard

------------------------------------------------------------
-- Stores Of Texts
------------------------------------------------------------

namespace Dashboard

namespace Store

/- No number in any value of the record is undefined. -/
def Defined (record : Record) : Prop :=
  ∀ n ∈ Json.memberNumbers record,
    n.toDouble ≠ .notANumber

/-
  Every record of the store has what the fields of its dataset
  say, and no undefined numbers.
-/
structure Accepted (store : Store) : Prop where
  holds :
    ∀ dataset, ∀ record ∈ store.records dataset,
      ∀ field ∈ dataset.schema.fields, record.Holds field
  defined :
    ∀ dataset, ∀ record ∈ store.records dataset,
      Defined record

theorem defined_of_recordsOfItems
    {dataset : Dataset}
    {index : Nat}
    {items : List Json}
    {records : List Record}
    (hItems :
      ∀ n ∈ Json.itemNumbers items,
        n.toDouble ≠ .notANumber)
    (hRecords :
      recordsOfItems dataset index items = .ok records) :
    ∀ record ∈ records, Defined record := by
  induction items generalizing index records with
  | nil =>
      cases hRecords
      rintro record ⟨⟩
  | cons item rest ih =>
      rcases List.forall_mem_append.mp hItems with
        ⟨hFirst, hRest⟩
      cases item with
      | object members =>
          cases hMore :
              recordsOfItems dataset (index + 1) rest with
          | error e =>
              rw [recordsOfItems, Record.ofJson?, hMore]
                at hRecords
              cases hRecords
          | ok more =>
              rw [recordsOfItems, Record.ofJson?, hMore]
                at hRecords
              cases hRecords
              exact
                List.forall_mem_cons.mpr
                  ⟨hFirst, ih hRest hMore⟩
      | _ => cases hRecords

theorem defined_of_recordsOfText
    {dataset : Dataset}
    {text : String}
    {records : List Record}
    (hRecords : recordsOfText dataset text = .ok records) :
    ∀ record ∈ records, Defined record := by
  unfold recordsOfText at hRecords
  split at hRecords
  · cases hRecords
  · rename_i items hParse
    apply defined_of_recordsOfItems _ hRecords
    exact fun n hMem =>
      Json.toDouble_ne_notANumber_of_parse? hParse hMem
  · cases hRecords

theorem parts_of_ofTexts
    {sales users products : String}
    {store : Store}
    (hStore : ofTexts sales users products = .ok store) :
    recordsOfText .sales sales = .ok store.sales ∧
      recordsOfText .users users = .ok store.users ∧
      recordsOfText .products products =
        .ok store.products ∧
      store.check = .ok () := by
  unfold ofTexts at hStore
  cases hSales : recordsOfText .sales sales with
  | error e =>
      rw [hSales] at hStore
      cases hStore
  | ok saleRecords =>
      cases hUsers : recordsOfText .users users with
      | error e =>
          rw [hSales, hUsers] at hStore
          cases hStore
      | ok userRecords =>
          cases hProducts : recordsOfText .products products with
          | error e =>
              rw [hSales, hUsers, hProducts] at hStore
              cases hStore
          | ok productRecords =>
              rw [hSales, hUsers, hProducts] at hStore
              cases hCheck :
                  check
                    ⟨saleRecords, userRecords,
                      productRecords⟩ with
              | error e =>
                  simp only [bind, Except.bind, hCheck]
                    at hStore
                  cases hStore
              | ok _ =>
                  simp only [bind, Except.bind, hCheck]
                    at hStore
                  cases hStore
                  exact ⟨rfl, rfl, rfl, hCheck⟩

/- What is built from texts is as it should be. -/
theorem accepted_of_ofTexts
    {sales users products : String}
    {store : Store}
    (hStore : ofTexts sales users products = .ok store) :
    store.Accepted := by
  rcases parts_of_ofTexts hStore with
    ⟨hSales, hUsers, hProducts, hCheck⟩
  refine ⟨holds_of_check_eq_ok hCheck, ?_⟩
  intro dataset
  cases dataset with
  | sales => exact defined_of_recordsOfText hSales
  | users => exact defined_of_recordsOfText hUsers
  | products => exact defined_of_recordsOfText hProducts

end Store

end Dashboard
