import Dashboard.Proofs.Filter.Operand
import Dashboard.Proofs.Query.Preorder
import Dashboard.Proofs.Text.Search

/-
  How the operators of a filter fit together.  On two numbers
  they are the comparisons of two integers, so the three
  strict ones exclude each other and the others follow from
  them; on two texts only equality and containment mean
  anything; and a number is not compared with what has none.

  Key definitions include:
    * `Operand.IsNumeric`
    * `Operator.relates`
    * `Record.passes`

  Main declarations:
    * `Operator.holdsFor_of_rank`
    * `Operand.exists_rank_of_isNumeric`
    * `Record.passes_algebra`
-/

------------------------------------------------------------
-- Operators
------------------------------------------------------------

namespace Dashboard

namespace Operator

/- The comparison of two integers. -/
def relates (operator : Operator) (a b : Int) : Bool :=
  match operator with
  | gt => b < a
  | gte => b ≤ a
  | lt => a < b
  | lte => a ≤ b
  | eq => a = b
  | neq => a ≠ b
  | contains => true

/- Comparing two numbers is comparing their ranks. -/
theorem holdsFor_of_rank
    {x y : Double}
    {a b : Int}
    (hX : x.rank? = some a)
    (hY : y.rank? = some b)
    (operator : Operator) :
    operator.holdsFor x y = operator.relates a b := by
  have hEqual : x.equals y = decide (a = b) := by
    rw [Bool.eq_iff_iff, Binary.equals_iff]
    simp [hX, hY, eq_comm]
  cases operator with
  | eq => exact hEqual
  | neq =>
      unfold holdsFor relates
      rw [hEqual, decide_not]
  | contains => rfl
  | _ =>
      rw [Bool.eq_iff_iff]
      simp [holdsFor, relates, Binary.below_iff,
        Binary.atMost_iff, hX, hY]

/- Just one of the strict comparisons holds. -/
theorem count_relates (a b : Int) :
    [lt.relates a b, eq.relates a b,
      gt.relates a b].count true = 1 := by
  rcases Int.lt_trichotomy a b with hLess | rfl | hMore
  · have hNot : ¬ b < a := by omega
    have hNe : a ≠ b := by omega
    simp [relates, hLess, hNot, hNe]
  · simp [relates]
  · have hNot : ¬ a < b := by omega
    have hNe : a ≠ b := by omega
    simp [relates, hMore, hNot, hNe]

theorem relates_lte (a b : Int) :
    lte.relates a b = (lt.relates a b || eq.relates a b) := by
  rw [Bool.eq_iff_iff]
  simp only [relates, Bool.or_eq_true, decide_eq_true_eq]
  omega

theorem relates_gte (a b : Int) :
    gte.relates a b = (gt.relates a b || eq.relates a b) := by
  rw [Bool.eq_iff_iff]
  simp only [relates, Bool.or_eq_true, decide_eq_true_eq]
  omega

theorem relates_neq (a b : Int) :
    neq.relates a b = !eq.relates a b :=
  decide_not

end Operator

end Dashboard

------------------------------------------------------------
-- Numbers On Both Sides
------------------------------------------------------------

namespace Dashboard

/- The number at the start of a text is defined. -/
theorem floatPrefix?_ne_notANumber
    {text : String}
    {x : Double}
    (hPrefix : floatPrefix? text = some x) :
    x ≠ .notANumber := by
  unfold floatPrefix? at hPrefix
  split at hPrefix
  · cases hPrefix
  · rename_i literal left hScan
    cases hPrefix
    exact literal.value_ne_notANumber

/- What is read of a record as a number is defined. -/
theorem Store.Defined.asNumber?_ne_notANumber
    {record : Record}
    (hDefined : Defined record)
    {field : String}
    {actual : Json}
    (hValue : record.value? field = some actual)
    {x : Double}
    (hNumber : actual.asNumber? = some x) :
    x ≠ .notANumber := by
  cases actual with
  | number n =>
      cases hNumber
      exact hDefined.toDouble_ne_notANumber hValue
  | string text => exact floatPrefix?_ne_notANumber hNumber
  | _ => cases hNumber

namespace Operand

/-
  An operand that is compared as a number: a defined number,
  or a text that reads as one and holds more than blanks.
-/
def IsNumeric : Operand → Prop
  | number x => x ≠ .notANumber
  | text written =>
      readsAsNumber written = true ∧
        Text.blankOnly written = false

/- A numeric operand stands for a defined number. -/
theorem exists_rank_of_isNumeric
    {operand : Operand}
    (hNumeric : operand.IsNumeric) :
    ∃ x b, operand.asNumber? = some x ∧ x.rank? = some b := by
  cases operand with
  | number x =>
      rcases Binary.exists_rank hNumeric with ⟨b, hRank⟩
      exact ⟨x, b, rfl, hRank⟩
  | text written =>
      rcases hNumeric with ⟨hReads, hSome⟩
      rcases readsAsNumber_iff.mp hReads with
        hBlank | ⟨literal, hLiteral⟩ | ⟨n, hBased⟩
      · rw [Text.trim_eq_nil_iff, ← List.all_eq_true] at hBlank
        rw [Text.blankOnly, hBlank] at hSome
        cases hSome
      · rcases Binary.exists_rank
            (literal.value_ne_notANumber (f := .double)) with
          ⟨b, hRank⟩
        exact ⟨_, b, asNumber?_of_literal hLiteral, hRank⟩
      · exact
          ⟨_, 0, asNumber?_of_based hBased, Binary.rank?_zero⟩

/- A text that does not read as a number stands for none. -/
theorem asNumber?_of_not_readsAsNumber
    {written : String}
    (hWord : readsAsNumber written = false) :
    asNumber? (.text written) = none := by
  rw [asNumber?, hWord, if_neg Bool.false_ne_true]

end Operand

end Dashboard

------------------------------------------------------------
-- Main Result
------------------------------------------------------------

namespace Dashboard

namespace Record

/- Whether a record passes an operator with an operand. -/
def passes
    (record : Record)
    (field : String)
    (operand : Operand)
    (operator : Operator) : Bool :=
  (⟨field, operator, operand⟩ : Filter).admits record

variable {record : Record}
variable {field : String}
variable {actual : Json}
variable {operand : Operand}

/- Two numbers are compared as integers. -/
theorem exists_relates_of_isNumeric
    (hDefined : Store.Defined record)
    (hValue : record.value? field = some actual)
    (hNumeric : operand.IsNumeric)
    {x : Double}
    (hNumber : actual.asNumber? = some x) :
    ∃ a b,
      ∀ operator,
        record.passes field operand operator =
          operator.relates a b := by
  rcases Binary.exists_rank
      (hDefined.asNumber?_ne_notANumber hValue hNumber) with
    ⟨a, hA⟩
  rcases operand.exists_rank_of_isNumeric hNumeric with
    ⟨y, b, hOperand, hB⟩
  refine ⟨a, b, fun operator => ?_⟩
  rw [passes,
    Filter.admits_eq_of_number hValue hNumber hOperand,
    Operator.holdsFor_of_rank hA hB]

/- What has no number passes every comparison with one. -/
theorem passes_of_no_number
    (hValue : record.value? field = some actual)
    (hNumeric : operand.IsNumeric)
    (hNone : actual.asNumber? = none)
    (operator : Operator) :
    record.passes field operand operator = true := by
  rcases operand.exists_rank_of_isNumeric hNumeric with
    ⟨y, b, hOperand, _⟩
  simp [passes, Filter.admits, Filter.admitsValue, hValue,
    hNone, hOperand]

/- A word is compared with the text of a value. -/
theorem passes_of_word
    (hValue : record.value? field = some actual)
    {written : String}
    (hWord : readsAsNumber written = false)
    (operator : Operator) :
    record.passes field (.text written) operator =
      operator.holdsForText
        (Text.lowercase actual.asText.toList)
        (Text.lowercase written.toList) := by
  simp [passes, Filter.admits, Filter.admitsValue, hValue,
    Operand.asNumber?_of_not_readsAsNumber hWord,
    Operand.describe]

/-
  The operators on a field that a record has, whose numbers
  are defined as those of every record that was read.  With a
  numeric operand and a value that has a number, just one of
  less, equal and greater passes, and the other comparisons
  follow from these; a value without a number passes all
  operators.  With a word, being equal and being different
  exclude each other, what is equal is contained, there is no
  order, and the case of the word does not matter.
-/
theorem passes_algebra
    (hDefined : Store.Defined record)
    (hValue : record.value? field = some actual) :
    (∀ operand,
      Operand.IsNumeric operand →
        actual.asNumber?.isSome = true →
          [record.passes field operand .lt,
                record.passes field operand .eq,
                record.passes field operand .gt].count
              true = 1 ∧
            record.passes field operand .lte =
              (record.passes field operand .lt ||
                record.passes field operand .eq) ∧
            record.passes field operand .gte =
              (record.passes field operand .gt ||
                record.passes field operand .eq) ∧
            record.passes field operand .neq =
              !record.passes field operand .eq) ∧
      (∀ operand,
        Operand.IsNumeric operand →
          actual.asNumber? = none →
            ∀ operator,
              record.passes field operand operator = true) ∧
      ∀ written,
        readsAsNumber written = false →
          record.passes field (.text written) .neq =
              !record.passes field (.text written) .eq ∧
            (record.passes field (.text written) .eq = true →
              record.passes field (.text written) .contains =
                true) ∧
            (∀ operator ∈ [.gt, .gte, .lt, .lte],
              record.passes field (.text written) operator =
                true) ∧
            (readsAsNumber (Text.lower written) = false →
              ∀ operator,
                record.passes field
                    (.text (Text.lower written)) operator =
                  record.passes field (.text written)
                    operator) := by
  refine ⟨?_, ?_, ?_⟩
  · intro operand hNumeric hSome
    rcases Option.isSome_iff_exists.mp hSome with
      ⟨x, hNumber⟩
    rcases exists_relates_of_isNumeric hDefined hValue hNumeric
        hNumber with ⟨a, b, hRelates⟩
    simp only [hRelates]
    exact
      ⟨Operator.count_relates a b, Operator.relates_lte a b,
        Operator.relates_gte a b, Operator.relates_neq a b⟩
  · intro operand hNumeric hNone
    exact passes_of_no_number hValue hNumeric hNone
  · intro written hWord
    simp only [passes_of_word hValue hWord]
    refine ⟨rfl, ?_, ?_, ?_⟩
    · intro hSame
      have hText := beq_iff_eq.mp hSame
      rw [Operator.holdsForText, hText]
      exact (Text.occurs_iff_isInfix _ _).mpr List.infix_rfl
    · simp [Operator.holdsForText]
    · intro hLower operator
      rw [passes_of_word hValue hLower, Text.lower,
        String.toList_ofList, Text.lowercase_lowercase]

/- An administrator with a limit of 49. -/
def sampleClerk : Record :=
  [("limit", .ofNat 49), ("role", .string "Admin")]

theorem defined_sampleClerk : Store.Defined sampleClerk := by
  intro n hMem
  have hOnly : n ∈ [JsonNumber.integer 49] := hMem
  rw [List.mem_singleton.mp hOnly]
  exact Binary.ofInt_ne_notANumber 49

/- The limit is a number, and the role is a word. -/
theorem passes_algebra_clerk :
    sampleClerk.value? "limit" = some (.ofNat 49) ∧
      sampleClerk.value? "role" = some (.string "Admin") ∧
      Operand.IsNumeric (.text " 50 ") ∧
      (readsAsNumber "ADMIN" = false ∧
        readsAsNumber (Text.lower "ADMIN") = false) ∧
      [sampleClerk.passes "limit" (.text " 50 ") .lt,
            sampleClerk.passes "limit" (.text " 50 ") .eq,
            sampleClerk.passes "limit" (.text " 50 ") .gt].count
          true = 1 ∧
      sampleClerk.passes "role" (.text " 50 ") .gt = true ∧
      sampleClerk.passes "role" (.text "ADMIN") .neq =
        !sampleClerk.passes "role" (.text "ADMIN") .eq ∧
      sampleClerk.passes "role" (.text (Text.lower "ADMIN"))
          .eq =
        sampleClerk.passes "role" (.text "ADMIN") .eq := by
  have hLimit :
      sampleClerk.value? "limit" = some (.ofNat 49) := rfl
  have hRole :
      sampleClerk.value? "role" = some (.string "Admin") := rfl
  have hNumeric : Operand.IsNumeric (.text " 50 ") :=
    ⟨by decide, by decide⟩
  have hWord : readsAsNumber "ADMIN" = false := by decide
  have hLower : readsAsNumber (Text.lower "ADMIN") = false := by
    decide
  rcases passes_algebra defined_sampleClerk hLimit with
    ⟨hNumbers, _, _⟩
  rcases passes_algebra defined_sampleClerk hRole with
    ⟨_, hNone, hWords⟩
  rcases hWords "ADMIN" hWord with
    ⟨hDifferent, _, _, hCase⟩
  exact
    ⟨hLimit, hRole, hNumeric, ⟨hWord, hLower⟩,
      (hNumbers _ hNumeric rfl).1,
      hNone _ hNumeric (by decide) .gt, hDifferent,
      hCase hLower .eq⟩

end Record

end Dashboard
