import Dashboard.Proofs.Interpretation.Shown
import Dashboard.Proofs.Number.Overflow
import Dashboard.Proofs.Prompt.Filters
import Dashboard.Proofs.Prompt.Interpreter
import Dashboard.Proofs.Prompt.Numeral
import Dashboard.Proofs.Prompt.Question
import Dashboard.Proofs.Prompt.Symbol

/-
  Interpretations by rules, written and read again.  Every
  number in a filter is that of an amount in the prompt.  An
  amount may have any number of digits, and one out of the
  range of the numbers is an infinity, which is not read back.

  Key definitions include:
    * `Amount.InRange`

  Main declarations:
    * `Amount.isFinite_value_iff`
    * `Prompt.exists_amount_of_mem_filters`
    * `Lexicon.bind_ofJson?_print_of_mem_interpretAll`
-/

------------------------------------------------------------
-- Amounts In Range
------------------------------------------------------------

namespace Dashboard

namespace FloatFormat

/-
  The least natural number that is rounded out of the range of
  a format.
-/
def overflow (f : FloatFormat) : Nat :=
  (Nat.pow 2 (f.precision + 1) - 1) *
    Nat.pow 2 (f.range - f.precision - (f.scale + 1))

theorem overflow_mul
    (f : FloatFormat)
    (hRange : f.scale + 1 ≤ f.range - f.precision) :
    f.overflow * 2 ^ (f.scale + 1) = f.halfLimit := by
  unfold overflow halfLimit
  rw [Nat.mul_assoc, Nat.pow_eq, Nat.pow_eq, Nat.pow_eq,
    ← Nat.pow_add, Nat.sub_add_cancel hRange]

end FloatFormat

/- A decimal with a number of places behind the point. -/
theorem Decimal.ratio_of_places (n places : Nat) :
    ratio ⟨n, -(places : Int)⟩ = (n, 10 ^ places) := by
  cases places with
  | zero =>
      have hZero : ratio ⟨n, -((0 : Nat) : Int)⟩ = (n * 1, 1) :=
        rfl
      rw [hZero, Nat.mul_one, Nat.pow_zero]
  | succ places => rfl

namespace Amount

/- Whether an amount is in the range of double precision. -/
def InRange (n : Amount) : Prop :=
  Decimal.valueOf (n.whole.chars ++ n.fraction) <
    FloatFormat.double.overflow *
      Nat.pow 10 n.fraction.length

instance (n : Amount) : Decidable n.InRange := by
  unfold InRange
  infer_instance

/- The number of an amount in range is finite. -/
theorem isFinite_value_iff (n : Amount) :
    n.value.isFinite = true ↔ n.InRange := by
  have hLimit :=
    FloatFormat.double.overflow_mul (by decide)
  rw [value, Double.isFinite_ofDecimal_iff, Decimal.InRange,
    Decimal.ratio_of_places, InRange, ← hLimit]
  generalize FloatFormat.double.overflow = limit
  generalize FloatFormat.double.scale = scale
  generalize Decimal.valueOf (n.whole.chars ++ n.fraction) = v
  rw [Nat.pow_eq, Nat.pow_eq, Nat.pow_succ]
  have hLeft : 2 * (v * 2 ^ scale) = v * (2 ^ scale * 2) := by
    ring
  rw [hLeft, Nat.mul_right_comm limit,
    Nat.mul_lt_mul_right
      (Nat.mul_pos (Nat.two_pow_pos scale) Nat.two_pos)]

end Amount

end Dashboard

------------------------------------------------------------
-- Numbers Of Prompts
------------------------------------------------------------

namespace Dashboard

namespace Prompt

variable {prompt : Prompt}
variable {filter : Filter}

/- The number of a comparison is that of an amount. -/
theorem exists_amount_of_mem_comparisons
    {lexicon : Lexicon}
    (hMem : filter ∈ prompt.comparisons lexicon) :
    ∃ n : Amount,
      n.text <:+: prompt.text ∧
        filter.operand = .number n.value := by
  rcases List.mem_filterMap.mp hMem with
    ⟨entry, hEntry, hFilter⟩
  rcases (Comparison.reads_of_filterIn? hEntry hFilter).operand
    with ⟨n, hInfix, hOperand, _⟩
  exact ⟨n, hInfix, hOperand⟩

/- What is asserted about a field is a text. -/
theorem number?_of_mem_assertions
    (hMem : filter ∈ prompt.assertions) :
    filter.operand.number? = none := by
  rw [assertions_eq] at hMem
  rcases List.mem_filterMap.mp hMem with
    ⟨form, hForm, hFilter⟩
  rcases (Assertion.reads_of_filterIn? hForm hFilter).operand
    with ⟨word, _, _, hOperand⟩
  rw [hOperand]
  rfl

theorem number?_of_shorthand?
    {existing : List Filter}
    {dataset : Dataset}
    (hFilter :
      prompt.shorthand? existing dataset = some filter) :
    filter.operand.number? = none := by
  have hMem := Option.mem_toList.mpr hFilter
  rcases (Shorthand.adds_shorthand? _ _ _).exists_status hMem
    with ⟨status, rfl⟩
  rfl

/-
  The number in a filter, if it has one, is that of an amount
  in the prompt: only comparisons have numbers.
-/
theorem exists_amount_of_mem_filters
    {lexicon : Lexicon}
    {dataset : Dataset}
    (hMem : filter ∈ prompt.filters lexicon dataset)
    {x : Double}
    (hNumber : filter.operand.number? = some x) :
    ∃ n : Amount, n.text <:+: prompt.text ∧ x = n.value := by
  rcases List.mem_append.mp hMem with hStated | hShorthand
  · rcases List.mem_append.mp hStated with
      hComparison | hAssertion
    · rcases exists_amount_of_mem_comparisons hComparison with
        ⟨n, hInfix, hOperand⟩
      rw [hOperand] at hNumber
      cases hNumber
      exact ⟨n, hInfix, rfl⟩
    · rw [number?_of_mem_assertions hAssertion] at hNumber
      cases hNumber
  · rw [number?_of_shorthand?
      (Option.mem_toList.mp hShorthand)] at hNumber
    cases hNumber

end Prompt

end Dashboard

------------------------------------------------------------
-- Main Result
------------------------------------------------------------

namespace Dashboard

namespace Lexicon

/-
  An interpretation by rules is read back from its text
  exactly if every number in its filters is finite.  Each of
  them is the number of an amount that stands in the prompt,
  and that is finite exactly if the amount is in range.
-/
theorem bind_ofJson?_print_of_mem_interpretAll
    {lexicon : Lexicon}
    {written : String}
    {i : Interpretation}
    (hMem : i ∈ lexicon.interpretAll written)
    (hReadsBack : ∀ x ∈ i.numbers, x.ReadsBack) :
    ((Json.parse? i.print).bind Interpretation.ofJson? =
        if ∀ x ∈ i.numbers, x.isFinite = true then
          some i
        else
          none) ∧
      ∀ x ∈ i.numbers,
        ∃ n : Amount,
          n.text <:+: (Prompt.ofString written).text ∧
            x = n.value ∧ (x.isFinite = true ↔ n.InRange) := by
  refine ⟨Interpretation.bind_ofJson?_print hReadsBack, ?_⟩
  intro x hNumber
  rcases (mem_interpretAll_iff lexicon written i).mp hMem
    with ⟨dataset, _, rfl⟩
  rcases List.mem_filterMap.mp hNumber with
    ⟨filter, hFilter, hOperand⟩
  rw [Interpretation.filterList_interpretFor] at hFilter
  rcases Prompt.exists_amount_of_mem_filters hFilter hOperand
    with ⟨n, hInfix, rfl⟩
  exact ⟨n, hInfix, rfl, n.isFinite_value_iff⟩

/- An amount of 309 nines. -/
def sampleOverflow : Amount where
  whole :=
    { chars := List.replicate 309 '9'
      ne_nil := List.cons_ne_nil _ _
      isDigit := by
        intro c hMem
        rw [List.eq_of_mem_replicate hMem]
        rfl }
  places := none

/- A prompt with this amount. -/
def samplePrompt : String :=
  Comparison.printed "revenue" .gt sampleOverflow

theorem not_isFinite_sampleOverflow :
    ¬ sampleOverflow.value.isFinite = true := by
  rw [sampleOverflow.isFinite_value_iff]
  decide +kernel

set_option maxRecDepth 4000 in
theorem sales_mem_datasets_samplePrompt :
    Dataset.sales ∈
      (Prompt.ofString samplePrompt).datasets standard := by
  rw [samplePrompt,
    Prompt.ofString_printed (by decide) (by decide)]
  decide

/- Its interpretation is not read back. -/
theorem bind_ofJson?_print_samplePrompt :
    ∃ i ∈ standard.interpretAll samplePrompt,
      i.numbers = [sampleOverflow.value] ∧
        (Json.parse? i.print).bind Interpretation.ofJson? =
          none := by
  have hField : "revenue" ∈ Comparison.numericFields :=
    List.mem_cons_self
  have hOperator : .gt ∈ Comparison.inequalities :=
    List.mem_cons_self
  let i :=
    (Prompt.ofString samplePrompt).interpretFor standard .sales
  have hMem : i ∈ standard.interpretAll samplePrompt :=
    (mem_interpretAll_iff _ _ _).mpr
      ⟨.sales, sales_mem_datasets_samplePrompt, rfl⟩
  have hNumbers : i.numbers = [sampleOverflow.value] := by
    rw [Interpretation.numbers,
      Interpretation.filterList_interpretFor, samplePrompt,
      Prompt.filters_printed hField hOperator]
    rfl
  have hReadsBack : ∀ x ∈ i.numbers, x.ReadsBack := by
    intro x hNumber hFinite
    rw [hNumbers, List.mem_singleton] at hNumber
    rw [hNumber] at hFinite
    exact absurd hFinite not_isFinite_sampleOverflow
  refine ⟨i, hMem, hNumbers, ?_⟩
  rw [(bind_ofJson?_print_of_mem_interpretAll hMem
    hReadsBack).1, hNumbers, if_neg]
  intro hFinite
  exact
    not_isFinite_sampleOverflow
      (hFinite _ (List.mem_singleton_self _))

end Lexicon

end Dashboard
