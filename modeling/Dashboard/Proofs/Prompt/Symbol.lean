import Dashboard.Proofs.Prompt.Criteria
import Dashboard.Proofs.Text.Lowercase

/-
  Comparisons with the symbols that operators are printed
  with, such as `price >= 100`.  Each symbol of the table is
  looked for on its own, and the equals sign is found inside
  every symbol that ends with it, so those symbols are read
  as an equality too, and `!=` as nothing else.

  Key definitions include:
    * `Comparison.printed`
    * `Comparison.readings`

  Main declarations:
    * `Prompt.filters_printed`
    * `Prompt.filters_of_printed_symbols`
-/

------------------------------------------------------------
-- Printed Comparisons
------------------------------------------------------------

namespace Dashboard

namespace Comparison

open Pattern

/- Fields of sales and of products that hold numbers. -/
def numericFields : List String :=
  ["revenue", "profit", "price", "stock", "rating"]

/- The operators whose symbol is more than an equals sign. -/
def inequalities : List Operator :=
  [.gt, .gte, .lt, .lte, .neq]

/- The operators that the symbol of an operator is read as. -/
def readings : Operator → List Operator
  | .gt => [.gt]
  | .gte => [.gte, .eq]
  | .lt => [.lt]
  | .lte => [.lte, .eq]
  | .eq => [.eq]
  | .neq => [.eq]
  | .contains => []

/- A comparison in the way in which filters are printed. -/
def printed
    (field : String)
    (operator : Operator)
    (n : Amount) : String :=
  field ++ " " ++ operator.symbol ++ " " ++ n.written

/- The text of a printed comparison before its amount. -/
def printedLead
    (field : String)
    (operator : Operator) : List Char :=
  spaced [field, operator.symbol]

theorem toList_printed
    (field : String)
    (operator : Operator)
    (n : Amount) :
    (printed field operator n).toList =
      printedLead field operator ++ n.text := by
  have hBlank : " ".toList = [' '] := by decide
  unfold printed printedLead Amount.written
  rw [String.toList_append, String.toList_append,
    String.toList_append, String.toList_append, hBlank,
    String.toList_ofList]
  simp [spaced]

/- Printed comparisons are in lowercase, without digits. -/
theorem isLower_of_mem_printedLead :
    ∀ field ∈ numericFields, ∀ operator ∈ inequalities,
      ∀ c ∈ printedLead field operator,
        Text.isLower c = true ∧ Text.isDigit c = false := by
  have hAll :
      (numericFields.all fun field =>
          inequalities.all fun operator =>
            (printedLead field operator).all fun c =>
              Text.isLower c && !Text.isDigit c) =
        true := by
    decide
  simpa only [List.all_eq_true, Bool.and_eq_true,
    Bool.not_eq_true'] using hAll

/-
  The phrases found before the amount, each with the field
  that stands nearest before it.
-/
theorem headsIn_printedLead :
    ∀ field ∈ numericFields, ∀ operator ∈ inequalities,
      ((headsIn (printedLead field operator)).filterMap
          fun found =>
            (Lexicon.standard.nearestSynonym? found.2).map
              fun synonym => (synonym.field, found.1)) =
        (readings operator).map (field, ·) := by
  decide

/- No symbol but the equals sign alone asserts anything. -/
theorem statedOf_printedLead :
    ∀ field ∈ numericFields, ∀ operator ∈ inequalities,
      ∀ other ∈ Assertion.fields,
        Assertion.statedOf (printedLead field operator)
            other =
          [] := by
  decide

end Comparison

end Dashboard

------------------------------------------------------------
-- How They Are Read
------------------------------------------------------------

namespace Dashboard

namespace Prompt

open Comparison

variable {field : String} {operator : Operator}

theorem ofString_printed
    (hField : field ∈ numericFields)
    (hOperator : operator ∈ inequalities)
    (n : Amount) :
    ofString (printed field operator n) =
      ⟨printedLead field operator ++ n.text⟩ := by
  unfold ofString
  rw [toList_printed, Text.lowercase_of_isLower]
  intro c hMem
  rcases List.mem_append.mp hMem with hLead | hAmount
  · exact
      (isLower_of_mem_printedLead field hField operator
        hOperator c hLead).1
  · exact n.isLower_of_mem_text hAmount

theorem comparisons_printed
    (hField : field ∈ numericFields)
    (hOperator : operator ∈ inequalities)
    (n : Amount) :
    comparisons ⟨printedLead field operator ++ n.text⟩
        .standard =
      (readings operator).map fun reading =>
        ⟨field, reading, .number n.value⟩ := by
  have hDigits :
      ∀ c ∈ printedLead field operator,
        Text.isDigit c = false := by
    intro c hMem
    exact
      (isLower_of_mem_printedLead field hField operator
        hOperator c hMem).2
  have hHeads :=
    congrArg
      (List.map fun e : String × Operator =>
        (⟨e.1, e.2, .number n.value⟩ : Filter))
      (headsIn_printedLead field hField operator hOperator)
  rw [comparisons_append .standard hDigits n]
  simpa [List.map_filterMap, Function.comp_def] using hHeads

theorem assertions_printed
    (hField : field ∈ numericFields)
    (hOperator : operator ∈ inequalities)
    (n : Amount) :
    assertions ⟨printedLead field operator ++ n.text⟩ =
      [] := by
  have hLast :
      ∀ c ∈ (printedLead field operator).getLast?,
        Pattern.isNameLetter c = false := by
    intro c hMem
    have hBlank :
        (printedLead field operator).getLast? =
          some ' ' := by
      simp [printedLead, Pattern.spaced, List.getLast?_cons]
    rw [hBlank] at hMem
    cases hMem
    decide
  rw [assertions_append hLast n, List.flatMap_eq_nil_iff]
  intro other hOther
  rw [statedOf_printedLead field hField operator hOperator
    other hOther]
  rfl

/-
  A printed comparison is read as all the operators whose
  symbols stand at the end of its own symbol.
-/
theorem filters_printed
    (hField : field ∈ numericFields)
    (hOperator : operator ∈ inequalities)
    (n : Amount) :
    (ofString (printed field operator n)).filters .standard
        .sales =
      (readings operator).map fun reading =>
        ⟨field, reading, .number n.value⟩ := by
  rw [ofString_printed hField hOperator]
  unfold filters
  dsimp only
  rw [comparisons_printed hField hOperator,
    assertions_printed hField hOperator]
  simp [shorthand?]

/-
  The symbols `>=` and `<=` give their own filter and an
  equality with the same amount, which the records have to
  pass as well; `!=` gives the equality alone, the opposite
  of what it says.
-/
theorem filters_of_printed_symbols
    (hField : field ∈ numericFields)
    (n : Amount) :
    (ofString (printed field .gte n)).filters .standard
          .sales =
        [⟨field, .gte, .number n.value⟩,
          ⟨field, .eq, .number n.value⟩] ∧
      (ofString (printed field .lte n)).filters .standard
          .sales =
        [⟨field, .lte, .number n.value⟩,
          ⟨field, .eq, .number n.value⟩] ∧
      (ofString (printed field .neq n)).filters .standard
          .sales =
        [⟨field, .eq, .number n.value⟩] := by
  refine ⟨?_, ?_, ?_⟩
  · exact filters_printed hField (by simp [inequalities]) n
  · exact filters_printed hField (by simp [inequalities]) n
  · exact filters_printed hField (by simp [inequalities]) n

/- The amount 50. -/
def sampleFifty : Amount :=
  ⟨⟨['5', '0'], by decide, List.all_eq_true.mp rfl⟩, none⟩

/- At least 50 in revenue is also read as exactly 50. -/
theorem filters_of_printed_symbols_revenue :
    printed "revenue" .gte sampleFifty = "revenue >= 50" ∧
      "revenue" ∈ numericFields ∧
      (ofString "revenue >= 50").filters .standard .sales =
        [⟨"revenue", .gte, .number sampleFifty.value⟩,
          ⟨"revenue", .eq, .number sampleFifty.value⟩] := by
  have hField : "revenue" ∈ numericFields := by
    simp [numericFields]
  have hPrinted :
      printed "revenue" .gte sampleFifty = "revenue >= 50" := by
    decide
  have hFilters :=
    (filters_of_printed_symbols hField sampleFifty).1
  rw [hPrinted] at hFilters
  exact ⟨hPrinted, hField, hFilters⟩

end Prompt

end Dashboard
