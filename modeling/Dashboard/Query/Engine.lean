import Dashboard.Query.Basic
import Dashboard.Store.Basic
import Dashboard.Text.Order
import Dashboard.Text.Search

/-
  Answering queries.

  Key definitions include:
    * `Filter.admits`
    * `Sorting.compare`
    * `Store.rows`

  A filter on a field that a record lacks admits the record,
  and so does a comparison that means nothing.
-/

------------------------------------------------------------
-- Filters
------------------------------------------------------------

namespace Dashboard

/-
  The number that an operand stands for: a number itself, or
  the number at the start of a text that reads as a number.
  A text without a number at its start is undefined then.
-/
def Operand.asNumber? : Operand → Option Double
  | .number value => some value
  | .text written =>
      if readsAsNumber written then
        some ((floatPrefix? written).getD .notANumber)
      else
        none

/- The comparison of two numbers. -/
def Operator.holdsFor
    (operator : Operator)
    (actual operand : Double) : Bool :=
  match operator with
  | .gt => operand.below actual
  | .gte => operand.atMost actual
  | .lt => actual.below operand
  | .lte => actual.atMost operand
  | .eq => actual.equals operand
  | .neq => !actual.equals operand
  | .contains => true

/- The comparison of two texts in lowercase. -/
def Operator.holdsForText
    (operator : Operator)
    (actual expected : List Char) : Bool :=
  match operator with
  | .eq => actual == expected
  | .neq => actual != expected
  | .contains => Text.occurs expected actual
  | _ => true

namespace Filter

/- The filter applied to a value. -/
def admitsValue
    (filter : Filter)
    (actual : Json) : Bool :=
  match filter.operand.asNumber? with
  | some operand =>
      match actual.asNumber? with
      | some number => filter.operator.holdsFor number operand
      | none => true
  | none =>
      filter.operator.holdsForText
        (Text.lowercase actual.asText.toList)
        (Text.lowercase filter.operand.describe.toList)

/- Whether a record passes a filter. -/
def admits
    (filter : Filter)
    (record : Record) : Bool :=
  match record.value? filter.field with
  | some actual => filter.admitsValue actual
  | none => true

end Filter

end Dashboard

------------------------------------------------------------
-- Order
------------------------------------------------------------

namespace Dashboard

namespace Sorting

/-
  The ascending order of two values: two numbers by value,
  and everything else by its text in lowercase.
-/
def compareValues (x y : Json) : Ordering :=
  match x, y with
  | .number a, .number b =>
      (a.toDouble.compare? b.toDouble).getD .eq
  | _, _ =>
      Text.order (Text.lowercase x.asText.toList)
        (Text.lowercase y.asText.toList)

/- The ascending order, with missing values last. -/
def ascending (x y : Option Json) : Ordering :=
  match x, y with
  | none, none => .eq
  | none, some _ => .gt
  | some _, none => .lt
  | some a, some b => compareValues a b

/- The order of two records. -/
def compare
    (sort : Sorting)
    (x y : Record) : Ordering :=
  let order :=
    ascending (x.value? sort.field) (y.value? sort.field)
  match sort.direction with
  | .asc => order
  | .desc => order.swap

/-
  Insert a record into sorted records, the last one of which
  comes first: behind every record that it is not less than.
-/
def insertRow
    (sort : Sorting)
    (row : Record) :
    List Record → List Record
  | [] => [row]
  | last :: rest =>
      if sort.compare row last = .lt then
        last :: insertRow sort row rest
      else
        row :: last :: rest

/- Records in order; equal ones keep their places. -/
def sortRows
    (sort : Sorting)
    (rows : List Record) : List Record :=
  (rows.foldl (fun done row => insertRow sort row done)
    []).reverse

end Sorting

end Dashboard

------------------------------------------------------------
-- Rows
------------------------------------------------------------

namespace Dashboard

namespace Query

/- Whether a record passes all filters. -/
def admits (query : Query) (record : Record) : Bool :=
  query.filters.all fun filter => filter.admits record

/- Records in the order that a query asks for. -/
def arrange
    (query : Query)
    (rows : List Record) : List Record :=
  match query.sort with
  | some sort => sort.sortRows rows
  | none => rows

/- As many records as a query asks for. -/
def cut
    (query : Query)
    (rows : List Record) : List Record :=
  match query.limit with
  | some limit =>
      if 0 < limit then rows.take limit.toNat else rows
  | none => rows

end Query

/- The records that answer a query. -/
def Store.rows
    (store : Store)
    (query : Query) : List Record :=
  query.cut
    (query.arrange
      ((store.records query.dataset).filter query.admits))

end Dashboard
