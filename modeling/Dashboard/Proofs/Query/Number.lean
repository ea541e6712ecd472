import Dashboard.Proofs.Store.Column
import Dashboard.Proofs.Text.Lowercase
import Dashboard.Query.Engine

/-
  Filters on fields that hold numbers: with a number they
  compare, and with a word they admit no record.

  Key definitions include:
    * `Record.number?`
    * `Record.satisfies`
    * `Query.filtered`

  Main declarations:
    * `Filter.admits_of_number`
    * `Filter.admits_of_word`
    * `Store.rows_of_comparison`
-/

------------------------------------------------------------
-- Numbers Of Records
------------------------------------------------------------

namespace Dashboard

namespace Record

/- The number that a record has in a field. -/
def number?
    (record : Record)
    (field : String) : Option Double :=
  (record.value? field).bind Json.double?

/- Whether that number stands in a relation to another. -/
def satisfies
    (record : Record)
    (field : String)
    (operator : Operator)
    (operand : Double) : Bool :=
  (record.number? field).any fun x =>
    operator.holdsFor x operand

end Record

/- A record has a number in each field for numbers. -/
theorem Store.Accepted.exists_number
    {store : Store}
    (hAccepted : store.Accepted)
    {dataset : Dataset}
    {field : FieldSchema}
    (hField : field ∈ dataset.schema.fields)
    (hKind : field.kind = .number)
    {record : Record}
    (hMem : record ∈ store.records dataset) :
    ∃ n, record.value? field.name = some (.number n) := by
  rcases hAccepted.holds dataset record hMem field hField with
    ⟨json, hValue, hDescribes⟩
  rw [hKind] at hDescribes
  cases json with
  | number n => exact ⟨n, hValue⟩
  | _ => cases hDescribes

end Dashboard

------------------------------------------------------------
-- Filters
------------------------------------------------------------

namespace Dashboard

namespace Filter

variable {record : Record}
variable {field : String}
variable {n : JsonNumber}

/- An operand that is a number is compared as one. -/
theorem admits_of_number
    (hValue : record.value? field = some (.number n))
    (operator : Operator)
    {operand : Operand}
    {x : Double}
    (hOperand : operand.asNumber? = some x) :
    (⟨field, operator, operand⟩ : Filter).admits record =
      record.satisfies field operator x := by
  simp [admits, admitsValue, hValue, hOperand,
    Json.asNumber?, Record.satisfies, Record.number?,
    Json.double?]

/- No number reads as a word with other letters in it. -/
theorem admits_of_word
    (hValue : record.value? field = some (.number n))
    {word : String}
    (hOperand : Operand.asNumber? (.text word) = none)
    (hWord :
      (Text.lowercase word.toList).any
          (fun c => !Json.isNumberLetter c) =
        true) :
    (⟨field, .eq, .text word⟩ : Filter).admits record =
      false := by
  have hLetters :
      ∀ c ∈ (Json.number n).asText.toList,
        Json.isNumberLetter c = true :=
    fun _ => Json.isNumberLetter_of_mem_asText
  have hLower :
      Text.lowercase (Json.number n).asText.toList =
        (Json.number n).asText.toList :=
    Text.lowercase_of_isLower fun c hMem =>
      Text.isLower_of_isNumberLetter (hLetters c hMem)
  simp only [admits, hValue, admitsValue, hOperand,
    Operator.holdsForText, Operand.describe, hLower]
  rw [beq_eq_false_iff_ne]
  intro hSame
  rcases List.any_eq_true.mp hWord with ⟨c, hMem, hOther⟩
  rw [← hSame] at hMem
  rw [hLetters c hMem] at hOther
  cases hOther

end Filter

end Dashboard

------------------------------------------------------------
-- Rows
------------------------------------------------------------

namespace Dashboard

/- A query for all records that pass filters. -/
def Query.filtered
    (dataset : Dataset)
    (filters : List Filter) : Query :=
  ⟨dataset, filters, none, none⟩

namespace Store

theorem rows_filtered
    (store : Store)
    (dataset : Dataset)
    (filters : List Filter) :
    store.rows (.filtered dataset filters) =
      (store.records dataset).filter fun record =>
        filters.all fun filter => filter.admits record := rfl

/- A comparison selects the records that satisfy it. -/
theorem rows_of_comparison
    {store : Store}
    (hAccepted : store.Accepted)
    {dataset : Dataset}
    {field : FieldSchema}
    (hField : field ∈ dataset.schema.fields)
    (hKind : field.kind = .number)
    (operator : Operator)
    (x : Double) :
    store.rows
        (.filtered dataset
          [⟨field.name, operator, .number x⟩]) =
      (store.records dataset).filter fun record =>
        record.satisfies field.name operator x := by
  rw [rows_filtered]
  apply List.filter_congr
  intro record hMem
  rcases hAccepted.exists_number hField hKind hMem with
    ⟨n, hValue⟩
  simp [Filter.admits_of_number hValue operator
    (rfl : Operand.asNumber? (.number x) = some x)]

end Store

end Dashboard
