import Dashboard.Proofs.Number.Order
import Dashboard.Proofs.Query.Arrangement
import Dashboard.Proofs.Store.Column
import Dashboard.Proofs.Text.Order

/-
  What a sort reads of records: the number of a number, the
  lowercase text of everything else, and nothing of a record
  that lacks the field.  Readings of one kind can be ordered,
  and each field of a dataset has readings of one kind.

  Key definitions include:
    * `Record.Reading`
    * `Record.Reading.atMost`
    * `Query.before`

  Main declarations:
    * `Query.follows_before`
    * `Store.alike_of_field`
-/

------------------------------------------------------------
-- Readings
------------------------------------------------------------

namespace Dashboard

/- What a sort reads of a value. -/
inductive Record.Reading where
  | missing
  | number (value : Double)
  | text (written : List Char)

namespace Record.Reading

/- The reading of the value of a field, if there is one. -/
def ofValue : Option Json → Reading
  | none => missing
  | some (.number n) => number n.toDouble
  | some json => text (Text.lowercase json.asText.toList)

/-
  Numbers are ordered by value and texts by code points.
  Readings of two kinds are in no order.
-/
def atMost : Reading → Reading → Bool
  | missing, missing => true
  | number x, number y => x.atMost y
  | text s, text t => (Text.order s t).isLE
  | _, _ => false

/- Readings of one kind; undefined numbers are of none. -/
def Alike : Reading → Reading → Prop
  | missing, missing => True
  | number x, number y => x ≠ .notANumber ∧ y ≠ .notANumber
  | text _, text _ => True
  | _, _ => False

theorem atMost_trans
    {r s t : Reading}
    (hFirst : r.atMost s = true)
    (hSecond : s.atMost t = true) :
    r.atMost t = true := by
  cases s with
  | missing =>
      cases r with
      | missing => exact hSecond
      | _ => cases hFirst
  | number y =>
      cases r with
      | number x =>
          cases t with
          | number z => exact Binary.atMost_trans hFirst hSecond
          | _ => cases hSecond
      | _ => cases hFirst
  | text b =>
      cases r with
      | text a =>
          cases t with
          | text c => exact Text.order_isLE_trans hFirst hSecond
          | _ => cases hSecond
      | _ => cases hFirst

theorem atMost_total
    {r s : Reading}
    (hAlike : r.Alike s) :
    r.atMost s = true ∨ s.atMost r = true := by
  cases r with
  | missing =>
      cases s with
      | missing => exact .inl rfl
      | _ => cases hAlike
  | number x =>
      cases s with
      | number y => exact Binary.atMost_total hAlike.1 hAlike.2
      | _ => cases hAlike
  | text a =>
      cases s with
      | text b => exact Text.order_isLE_total a b
      | _ => cases hAlike

theorem ofValue_of_ne_number
    {json : Json}
    (hText : ∀ n, json ≠ .number n) :
    ofValue (some json) =
      text (Text.lowercase json.asText.toList) := by
  cases json with
  | number n => exact absurd rfl (hText n)
  | _ => rfl

/- The values of readings of one kind. -/
theorem Alike.values
    {x y : Option Json}
    (hAlike : (ofValue x).Alike (ofValue y)) :
    (x = none ∧ y = none) ∨
      (∃ a b, x = some (.number a) ∧ y = some (.number b)) ∨
      ∃ a b,
        x = some a ∧ y = some b ∧
          (∀ n, a ≠ .number n) ∧ ∀ n, b ≠ .number n := by
  cases x with
  | none =>
      cases y with
      | none => exact .inl ⟨rfl, rfl⟩
      | some b => cases b <;> cases hAlike
  | some a =>
      cases y with
      | none => cases a <;> cases hAlike
      | some b =>
          right
          cases a with
          | number n =>
              cases b with
              | number m => exact .inl ⟨n, m, rfl, rfl⟩
              | _ => cases hAlike
          | _ =>
              cases b with
              | number m => cases hAlike
              | _ =>
                  exact
                    .inr
                      ⟨_, _, rfl, rfl, fun n => nofun,
                        fun n => nofun⟩

/- Values of one kind are compared by their readings. -/
theorem ascending_eq_iff
    {x y : Option Json}
    (hAlike : (ofValue x).Alike (ofValue y)) :
    (Sorting.ascending x y = .lt ↔
        (ofValue y).atMost (ofValue x) = false) ∧
      (Sorting.ascending x y = .gt ↔
        (ofValue x).atMost (ofValue y) = false) := by
  rcases hAlike.values with
    ⟨rfl, rfl⟩ | ⟨a, b, rfl, rfl⟩ |
      ⟨a, b, rfl, rfl, hA, hB⟩
  · simp [Sorting.ascending, ofValue, atMost]
  · exact
      ⟨Binary.compare?_getD_eq_lt_iff hAlike.1 hAlike.2,
        Binary.compare?_getD_eq_gt_iff hAlike.1 hAlike.2⟩
  · have hOrder :
        Sorting.ascending (some a) (some b) =
          Text.order (Text.lowercase a.asText.toList)
            (Text.lowercase b.asText.toList) := by
      cases a with
      | number n => exact absurd rfl (hA n)
      | _ => rfl
    rw [hOrder, ofValue_of_ne_number hA,
      ofValue_of_ne_number hB, atMost, atMost,
      ← Text.order_swap (Text.lowercase a.asText.toList)]
    cases
      Text.order (Text.lowercase a.asText.toList)
        (Text.lowercase b.asText.toList) <;> decide

end Record.Reading

end Dashboard

------------------------------------------------------------
-- The Order Of A Query
------------------------------------------------------------

namespace Dashboard

/- What a sort by a field reads of a record. -/
def Record.reading
    (record : Record)
    (field : String) : Record.Reading :=
  .ofValue (record.value? field)

/-
  Whether one record may stand before another in the answer
  to a query.  Without a sort, any may.
-/
def Query.before
    (query : Query)
    (x y : Record) : Bool :=
  match query.sort with
  | none => true
  | some ⟨field, .asc⟩ =>
      (x.reading field).atMost (y.reading field)
  | some ⟨field, .desc⟩ =>
      (y.reading field).atMost (x.reading field)

/- A sort follows the order of its query. -/
theorem Query.follows_before
    {query : Query}
    {sort : Sorting}
    {rows : List Record}
    (hSort : query.sort = some sort)
    (hAlike :
      ∀ x ∈ rows, ∀ y ∈ rows,
        (x.reading sort.field).Alike
          (y.reading sort.field)) :
    sort.Follows query.before rows := by
  rcases sort with ⟨field, direction⟩
  unfold Query.before
  rw [hSort]
  cases direction with
  | asc =>
      refine ⟨Record.Reading.atMost_trans, ?_, ?_⟩
      · exact fun x hX y hY =>
          Record.Reading.atMost_total (hAlike x hX y hY)
      · exact fun x hX y hY =>
          (Record.Reading.ascending_eq_iff (hAlike x hX y hY)).1
  | desc =>
      refine
        ⟨fun hFirst hSecond =>
          Record.Reading.atMost_trans hSecond hFirst, ?_, ?_⟩
      · exact fun x hX y hY =>
          Record.Reading.atMost_total (hAlike y hY x hX)
      · intro x hX y hY
        have hOrder :=
          (Record.Reading.ascending_eq_iff (hAlike x hX y hY)).2
        rw [Sorting.compare, Ordering.swap_eq_lt]
        exact hOrder

end Dashboard

------------------------------------------------------------
-- Fields Of A Dataset
------------------------------------------------------------

namespace Dashboard

/- A value of a kind has the reading of that kind. -/
theorem Record.reading_of_holds
    {record : Record}
    {field : FieldSchema}
    (hHolds : record.Holds field)
    (hDefined : Store.Defined record) :
    (field.kind = .number ∧
        ∃ x, x ≠ .notANumber ∧
          record.reading field.name = .number x) ∨
      (field.kind ≠ .number ∧
        ∃ s, record.reading field.name = .text s) := by
  rcases hHolds with ⟨json, hValue, hKind⟩
  unfold reading
  rw [hValue]
  cases json with
  | number n =>
      left
      refine ⟨?_, n.toDouble, ?_, rfl⟩
      · cases hField : field.kind with
        | number => rfl
        | _ =>
            rw [hField] at hKind
            cases hKind
      · apply hDefined
        rw [Json.mem_memberNumbers_iff]
        exact
          ⟨(field.name, .number n),
            Record.mem_of_value?_eq_some hValue, by
              simp [Json.numbers]⟩
  | _ =>
      right
      refine ⟨?_, _, rfl⟩
      intro hField
      rw [hField] at hKind
      cases hKind

/- A field of a dataset is read in one way. -/
theorem Store.alike_of_field
    {store : Store}
    (hAccepted : store.Accepted)
    {dataset : Dataset}
    {field : FieldSchema}
    (hField : field ∈ dataset.schema.fields)
    {x y : Record}
    (hX : x ∈ store.records dataset)
    (hY : y ∈ store.records dataset) :
    (x.reading field.name).Alike (y.reading field.name) := by
  rcases Record.reading_of_holds
      (hAccepted.holds dataset x hX field hField)
      (hAccepted.defined dataset x hX) with
    ⟨hKind, a, hA, hReadX⟩ | ⟨hKind, s, hReadX⟩ <;>
  rcases Record.reading_of_holds
      (hAccepted.holds dataset y hY field hField)
      (hAccepted.defined dataset y hY) with
    ⟨hKind', b, hB, hReadY⟩ | ⟨hKind', t, hReadY⟩ <;>
  rw [hReadX, hReadY]
  · exact ⟨hA, hB⟩
  · exact absurd hKind hKind'
  · exact absurd hKind' hKind
  · trivial

end Dashboard
