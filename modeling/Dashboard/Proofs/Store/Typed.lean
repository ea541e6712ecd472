import Dashboard.Proofs.Store.Column

/-
  The typed records of a store beside the records that they
  were read from: a typed value is what its record has in the
  field of its name.

  Key definitions include:
    * `Record.quantity`
    * `Record.text?`
    * `Store.IsLoaded`

  Main declarations:
    * `Store.map_of_typed_eq_ok`
    * `Store.IsLoaded.typed`
-/

------------------------------------------------------------
-- Values Of Fields
------------------------------------------------------------

namespace Dashboard

namespace Record

/- The natural number that a record has in a field, or zero. -/
def quantity (record : Record) (field : String) : Nat :=
  match record.value? field with
  | some (.number (.integer n)) => n.toNat
  | _ => 0

/- The text that a record has in a field. -/
def text? (record : Record) (field : String) : Option String :=
  (record.value? field).bind Json.string?

variable {record : Record} {name : String}

theorem text?_of_required
    {text : String}
    (hRequired :
      (Slot.ofMember record name).required Json.string? =
        some text) :
    record.text? name = some text := by
  rcases lookup_of_required hRequired with
    ⟨json, hLookup, hRead⟩
  cases json with
  | string value =>
      rw [text?, value?_of_lookup hLookup rfl]
      exact hRead
  | _ => cases hRead

/- A count of 64 bits is the number in the record. -/
theorem quantity_of_required
    {n : UInt64}
    (hRequired :
      (Slot.ofMember record name).required Json.count? =
        some n) :
    record.quantity name = n.toNat := by
  rcases lookup_of_required hRequired with
    ⟨json, hLookup, hRead⟩
  unfold Json.count? Json.natural? at hRead
  split at hRead
  · rename_i k
    rw [quantity, value?_of_lookup hLookup rfl]
    split at hRead
    · rename_i hRange
      rw [Bool.and_eq_true, decide_eq_true_eq,
        decide_eq_true_eq] at hRange
      cases hRead
      have hFits : k.toNat < 2 ^ 64 := by
        have hPower : Nat.pow 2 64 = 2 ^ 64 := rfl
        omega
      exact (Nat.mod_eq_of_lt hFits).symm
    · cases hRead
  · cases hRead

end Record

end Dashboard

------------------------------------------------------------
-- Typed Records
------------------------------------------------------------

namespace Dashboard

variable {record : Record}

theorem Sale.quantity_of_ofRecord?
    {sale : Sale}
    (hRead : ofRecord? record = some sale) :
    record.quantity "unitsSold" = sale.unitsSold.toNat := by
  simp only [ofRecord?, Option.bind_eq_bind,
    Option.bind_eq_some_iff] at hRead
  rcases hRead with
    ⟨_, _, _, _, unitsSold, hUnitsSold, _, _, _, _, hSale⟩
  cases hSale
  exact Record.quantity_of_required hUnitsSold

theorem User.fields_of_ofRecord?
    {user : User}
    (hRead : ofRecord? record = some user) :
    record.text? "status" = some user.status ∧
      record.quantity "sessionsThisMonth" =
        user.sessionsThisMonth.toNat := by
  simp only [ofRecord?, Option.bind_eq_bind,
    Option.bind_eq_some_iff] at hRead
  rcases hRead with
    ⟨_, _, _, _, _, _, _, _, status, hStatus, _, _, sessions,
      hSessions, _, _, hUser⟩
  cases hUser
  exact
    ⟨Record.text?_of_required hStatus,
      Record.quantity_of_required hSessions⟩

theorem Product.fields_of_ofRecord?
    {product : Product}
    (hRead : ofRecord? record = some product) :
    record.text? "status" = some product.status ∧
      record.quantity "totalSold" =
        product.totalSold.toNat := by
  simp only [ofRecord?, Option.bind_eq_bind,
    Option.bind_eq_some_iff] at hRead
  rcases hRead with
    ⟨_, _, _, _, _, _, _, _, _, _, status, hStatus, _, _,
      totalSold, hTotalSold, hProduct⟩
  cases hProduct
  exact
    ⟨Record.text?_of_required hStatus,
      Record.quantity_of_required hTotalSold⟩

end Dashboard

------------------------------------------------------------
-- Lists Of Typed Records
------------------------------------------------------------

namespace Dashboard

namespace Store

/-
  What the typed records have in a field is what the records
  have in it, one by one.
-/
theorem map_of_typed_eq_ok
    {α β : Type}
    {read : Record → Option α}
    {dataset : Dataset}
    {records : List Record}
    {values : List α}
    (hTyped : typed read dataset records = .ok values)
    {ofValue : α → β}
    {ofRecord : Record → β}
    (hField :
      ∀ record value,
        read record = some value →
          ofRecord record = ofValue value) :
    values.map ofValue = records.map ofRecord := by
  have hRead := mapM_of_typed_eq_ok hTyped
  clear hTyped
  induction records generalizing values with
  | nil =>
      cases hRead
      rfl
  | cons record rest ih =>
      simp only [List.mapM_cons, Option.bind_eq_bind,
        Option.bind_eq_some_iff] at hRead
      rcases hRead with ⟨value, hFirst, others, hRest, hAll⟩
      cases hAll
      rw [List.map_cons, List.map_cons, ih hRest,
        hField record value hFirst]

/-
  A store that was loaded, from three texts or from the files
  of a directory.
-/
def IsLoaded (store : Store) : Prop :=
  (∃ sales users products,
      ofTexts sales users products = .ok store) ∨
    ∃ files, ofFiles files = .ok store

/- Files are read as the texts in them. -/
theorem IsLoaded.exists_texts
    {store : Store}
    (hLoaded : store.IsLoaded) :
    ∃ sales users products,
      ofTexts sales users products = .ok store := by
  rcases hLoaded with hTexts | ⟨files, hFiles⟩
  · exact hTexts
  · unfold ofFiles fileText at hFiles
    cases hSales : files .sales with
    | none =>
        rw [hSales] at hFiles
        cases hFiles
    | some sales =>
        cases hUsers : files .users with
        | none =>
            rw [hSales, hUsers] at hFiles
            cases hFiles
        | some users =>
            cases hProducts : files .products with
            | none =>
                rw [hSales, hUsers, hProducts] at hFiles
                cases hFiles
            | some products =>
                rw [hSales, hUsers, hProducts] at hFiles
                exact ⟨sales, users, products, hFiles⟩

/- A loaded store has typed records of all datasets. -/
theorem IsLoaded.typed
    {store : Store}
    (hLoaded : store.IsLoaded) :
    (∃ sales, store.typedSales = .ok sales) ∧
      (∃ users, store.typedUsers = .ok users) ∧
      ∃ products, store.typedProducts = .ok products := by
  rcases hLoaded.exists_texts with
    ⟨sales, users, products, hTexts⟩
  exact typed_of_check_eq_ok (parts_of_ofTexts hTexts).2.2.2

/- What is evaluated of a store that loads, it has. -/
theorem exists_of_map_toOption
    {loaded : Except DataError Store}
    {α : Type}
    {read : Store → α}
    {value : α}
    (hRead : loaded.toOption.map read = some value) :
    ∃ store, loaded = .ok store ∧ read store = value := by
  cases loaded with
  | error e => cases hRead
  | ok store => exact ⟨store, rfl, Option.some.inj hRead⟩

end Store

end Dashboard
