import Dashboard.Proofs.Lexicon.Nearest
import Dashboard.Proofs.Number.Rounding
import Dashboard.Proofs.Prompt.Assertion
import Dashboard.Proofs.Prompt.Numeral
import Dashboard.Prompt.Criteria

/-
  The shape of the filters of a prompt.  Three passes over
  fixed tables give them: each phrase for numbers and each
  phrase for words gives at most one filter, in the order of
  the tables, and only the last pass, for a status that is
  given in passing, depends on the dataset.

  Key definitions include:
    * `IsPass`
    * `Comparison.Reads`
    * `Comparison.Calls`
    * `Assertion.forms`
    * `Assertion.Reads`
    * `Shorthand.Adds`

  Main declarations:
    * `Prompt.isPass_comparisons`
    * `Prompt.isPass_assertions`
    * `Shorthand.adds_shorthand?`
    * `Prompt.filters_shape`
-/

------------------------------------------------------------
-- Passes Over Tables
------------------------------------------------------------

namespace Dashboard

/-
  The results of a pass over a table: at most one for each
  entry, in the order of the table, and one for each entry
  that calls for it.
-/
structure IsPass
    {α β : Type}
    (table : List α)
    (calls : α → Prop)
    (relates : α → β → Prop)
    (results : List β) : Prop where
  ordered :
    ∃ taken,
      taken.Sublist table ∧
        List.Forall₂ relates taken results
  complete :
    ∀ entry ∈ table,
      calls entry → ∃ result ∈ results, relates entry result

/- What a table is mapped to is one pass over it. -/
theorem isPass_filterMap
    {α β : Type}
    {f : α → Option β}
    {calls : α → Prop}
    {relates : α → β → Prop}
    {table : List α}
    (hRelates :
      ∀ entry ∈ table, ∀ result,
        f entry = some result → relates entry result)
    (hCalls :
      ∀ entry ∈ table,
        calls entry → ∃ result, f entry = some result) :
    IsPass table calls relates (table.filterMap f) := by
  refine ⟨?_, ?_⟩
  · clear hCalls
    induction table with
    | nil => exact ⟨[], .slnil, .nil⟩
    | cons entry rest ih =>
        rw [List.forall_mem_cons] at hRelates
        rcases ih hRelates.2 with ⟨taken, hTaken, hResults⟩
        cases hEntry : f entry with
        | none =>
            rw [List.filterMap_cons_none hEntry]
            exact ⟨taken, hTaken.cons entry, hResults⟩
        | some result =>
            rw [List.filterMap_cons_some hEntry]
            exact
              ⟨entry :: taken, hTaken.cons_cons entry,
                .cons (hRelates.1 result hEntry) hResults⟩
  · intro entry hEntry hCall
    rcases hCalls entry hEntry hCall with ⟨result, hResult⟩
    exact
      ⟨result, List.mem_filterMap.mpr ⟨entry, hEntry, hResult⟩,
        hRelates entry hEntry result hResult⟩

/- What a pass takes over from its entries, in their order. -/
theorem map_eq_of_forall₂
    {α β γ : Type}
    {relates : α → β → Prop}
    {f : α → γ}
    {g : β → γ}
    (hSame : ∀ a b, relates a b → f a = g b)
    {taken : List α}
    {results : List β}
    (hResults : List.Forall₂ relates taken results) :
    results.map g = taken.map f := by
  induction hResults with
  | nil => rfl
  | cons hFirst _ ih =>
      rw [List.map_cons, List.map_cons, ih, hSame _ _ hFirst]

end Dashboard

------------------------------------------------------------
-- Comparisons
------------------------------------------------------------

namespace Dashboard

namespace Amount

theorem value_ne_notANumber (n : Amount) :
    n.value ≠ .notANumber := by
  unfold value Binary.ofDecimal
  split
  · exact Binary.ofUnits_ne_notANumber _ _
  · split
    · rintro ⟨⟩
    · exact Binary.ofUnits_ne_notANumber _ _

/- No sign is written before an amount. -/
theorem isNegative_value (n : Amount) :
    n.value.isNegative = false := by
  unfold value Binary.ofDecimal
  split
  · exact Binary.isNegative_ofUnits _ _
  · split
    · rfl
    · exact Binary.isNegative_ofUnits _ _

end Amount

namespace Comparison

open Pattern Lexicon

variable {lexicon : Lexicon}
variable {text : List Char}

/-
  The filter of an entry of the table: the phrase stands in
  the text, the operator is that of the entry, the operand is
  the number of an amount in the text, and the field is that
  of a phrase of the lexicon in the text.
-/
structure Reads
    (lexicon : Lexicon)
    (text : List Char)
    (entry : Operator × Pattern)
    (filter : Filter) : Prop where
  fits : entry.2.fits text = true
  operator : filter.operator = entry.1
  operand :
    ∃ n : Amount,
      n.text <:+: text ∧
        filter.operand = .number n.value ∧
        n.value ≠ .notANumber ∧ n.value.isNegative = false
  field :
    ∃ s ∈ lexicon.synonyms,
      s.phrase.toList <:+: text ∧ filter.field = s.field

/-
  An entry of the table that calls for a filter: the first
  match of its phrase has a phrase of the lexicon in the
  window before it.
-/
def Calls
    (lexicon : Lexicon)
    (text : List Char)
    (entry : Operator × Pattern) : Prop :=
  ∃ found,
    entry.2.find text = some found ∧
      ∃ s ∈ lexicon.synonyms,
        s.phrase.toList <:+: windowOf found.head

/- A phrase that gives a filter reads it in the text. -/
theorem reads_of_filterIn?
    {entry : Operator × Pattern}
    (hEntry : entry ∈ patterns)
    {filter : Filter}
    (hFilter : filterIn? lexicon text entry = some filter) :
    Reads lexicon text entry filter := by
  rw [patterns_eq] at hEntry
  rcases List.mem_map.mp hEntry with
    ⟨⟨operator, phrase⟩, _, rfl⟩
  rcases exists_of_filterIn? hFilter with
    ⟨found, n, s, hFind, hGroup, hNearest, rfl⟩
  have hNear := map_lastSynonym?_eq_some_iff.mp hNearest
  refine ⟨?_, rfl, ⟨n, ?_, rfl, ?_⟩, ⟨s, ?_, ?_, rfl⟩⟩
  · rw [Pattern.fits, hFind]
    rfl
  · exact (takes_of_group? hFind hGroup).1
  · exact ⟨n.value_ne_notANumber, n.isNegative_value⟩
  · exact hNear.mem
  · exact
      (hNear.isInfix.trans
        (windowOf_isSuffix found.head).isInfix).trans
        (head_isPrefix_of_find hFind).isInfix

theorem groupsAlways_of_mem_patterns :
    ∀ entry ∈ patterns, entry.2.groupsAlways = true := by
  decide

/- An entry that calls for a filter gets one. -/
theorem exists_filterIn?_of_calls
    {entry : Operator × Pattern}
    (hEntry : entry ∈ patterns)
    (hCalls : Calls lexicon text entry) :
    ∃ filter, filterIn? lexicon text entry = some filter := by
  have hAlways := groupsAlways_of_mem_patterns entry hEntry
  rcases hCalls with ⟨found, hFind, s, hMem, hNear⟩
  rcases Option.isSome_iff_exists.mp
      (isSome_group?_of_find hAlways hFind) with
    ⟨word, hGroup⟩
  rw [patterns_eq] at hEntry
  rcases List.mem_map.mp hEntry with
    ⟨⟨operator, phrase⟩, _, rfl⟩
  rcases exists_amount_of_group? hFind hGroup with ⟨n, rfl⟩
  have hReading : found.reading = (found.head, some n.text) := by
    rw [Match.reading, hGroup]
  have hFilter :
      filterIn? lexicon text (operator, phrase.pattern) =
        filterOf? lexicon operator found := by
    unfold filterIn?
    rw [hFind]
  cases hNearest : lexicon.nearestSynonym? found.head with
  | none =>
      exact
        absurd hNear
          (nearestSynonym?_eq_none_iff.mp hNearest s hMem)
  | some t =>
      rw [hFilter, filterOf?_of_reading hReading, hNearest]
      exact ⟨_, rfl⟩

end Comparison

end Dashboard

------------------------------------------------------------
-- Assertions
------------------------------------------------------------

namespace Dashboard

namespace Assertion

open Pattern

variable {text : List Char}

/- The assertions that are looked for, in order. -/
def forms : List (String × Operator × Pattern) :=
  fields.flatMap fun field =>
    phrases.map fun e => (field, e.1, assertion field e.2)

/- The only group of an assertion is its word. -/
theorem bodies_of_mem_forms
    {form : String × Operator × Pattern}
    (hForm : form ∈ forms) :
    form.2.2.bodies = [some1 isNameLetter] := by
  rcases List.mem_flatMap.mp hForm with ⟨field, _, hPhrase⟩
  rcases List.mem_map.mp hPhrase with ⟨e, hEntry, rfl⟩
  have hNone : ∀ e ∈ phrases, e.2.bodies = [] := by
    intro e hEntry
    rcases List.mem_pair.mp hEntry with rfl | rfl
    · rfl
    · exact bodies_letters "contains"
  have hParts :
      (assertion field e.2).bodies =
        (letters field).bodies ++
          (e.2.bodies ++ [some1 isNameLetter]) :=
    rfl
  rw [hParts, bodies_letters, hNone e hEntry]
  rfl

/-
  The filter of an entry of the table: the assertion stands
  in the text, the field and the operator are those of the
  entry, and the operand is a word of the text.
-/
structure Reads
    (text : List Char)
    (form : String × Operator × Pattern)
    (filter : Filter) : Prop where
  fits : form.2.2.fits text = true
  field : filter.field = form.1
  operator : filter.operator = form.2.1
  operand :
    ∃ word,
      word ≠ [] ∧
        word <:+: text ∧
        filter.operand = .text (String.ofList word)

/- An assertion that gives a filter reads it in the text. -/
theorem reads_of_filterIn?
    {form : String × Operator × Pattern}
    (hForm : form ∈ forms)
    {filter : Filter}
    (hFilter :
      filterIn? form.1 form.2.1 form.2.2 text = some filter) :
    Reads text form filter := by
  unfold filterIn? at hFilter
  cases hFind : form.2.2.find text with
  | none =>
      rw [hFind] at hFilter
      cases hFilter
  | some found =>
      rw [hFind] at hFilter
      rcases Option.map_eq_some_iff.mp hFilter with
        ⟨word, hGroup, rfl⟩
      rcases takes_of_group? hFind hGroup with
        ⟨hInfix, body, hBody, hTakes⟩
      rw [bodies_of_mem_forms hForm, List.mem_singleton]
        at hBody
      subst hBody
      rw [takes_some1_iff] at hTakes
      refine
        ⟨?_, rfl, rfl, ⟨word, hTakes.1, hInfix, rfl⟩⟩
      rw [fits, hFind]
      rfl

theorem groupsAlways_of_mem_forms :
    ∀ form ∈ forms, form.2.2.groupsAlways = true := by
  decide

/- An assertion in the text is asserted. -/
theorem exists_filterIn?_of_fits
    {form : String × Operator × Pattern}
    (hForm : form ∈ forms)
    (hFits : form.2.2.fits text = true) :
    ∃ filter,
      filterIn? form.1 form.2.1 form.2.2 text =
        some filter := by
  have hAlways := groupsAlways_of_mem_forms form hForm
  rcases Option.isSome_iff_exists.mp hFits with
    ⟨found, hFind⟩
  rcases Option.isSome_iff_exists.mp
      (isSome_group?_of_find hAlways hFind) with
    ⟨word, hGroup⟩
  unfold filterIn?
  rw [hFind]
  dsimp only
  rw [hGroup]
  exact ⟨_, rfl⟩

end Assertion

/- The assertions of a prompt are those of the table. -/
theorem Prompt.assertions_eq (prompt : Prompt) :
    prompt.assertions =
      Assertion.forms.filterMap fun form =>
        Assertion.filterIn? form.1 form.2.1 form.2.2
          prompt.text := by
  unfold assertions Assertion.forms
  rw [List.filterMap_flatMap]
  congr 1
  funext field
  rw [Assertion.filtersFor_eq, List.filterMap_map]
  rfl

end Dashboard

------------------------------------------------------------
-- Shorthands
------------------------------------------------------------

namespace Dashboard

/-
  What a status that is given in passing may add to the other
  filters on a dataset.
-/
def Shorthand.Adds
    (stated : List Filter) :
    Dataset → List Filter → Prop
  | .sales, added => added = []
  | .users, added =>
      added = [] ∨
        added = [statusFilter "active"] ∧
          ∀ filter ∈ stated, filter.field ≠ "status"
  | .products, added =>
      added = [] ∨
        ∃ status ∈ ["in_stock", "out_of_stock", "low_stock"],
          added = [statusFilter status]

theorem Shorthand.adds_shorthand?
    (prompt : Prompt)
    (stated : List Filter)
    (dataset : Dataset) :
    Adds stated dataset
      (prompt.shorthand? stated dataset).toList := by
  cases dataset with
  | sales => rfl
  | users =>
      unfold Prompt.shorthand?
      dsimp only
      split
      · rename_i hActive
        rw [Bool.and_eq_true, Bool.and_eq_true,
          Bool.not_eq_true', List.any_eq_false] at hActive
        refine .inr ⟨rfl, fun filter hMem hStatus => ?_⟩
        exact
          hActive.1.1 filter hMem (beq_iff_eq.mpr hStatus)
      · exact .inl rfl
  | products =>
      unfold Prompt.shorthand?
      dsimp only
      cases hFind :
          stockPatterns.find? fun e => e.1.fits prompt.text with
      | none => exact .inl rfl
      | some entry =>
          refine .inr ⟨entry.2, ?_, rfl⟩
          exact
            List.mem_map_of_mem (f := Prod.snd)
              (List.mem_of_find?_eq_some hFind)

/- Whatever is added is a status. -/
theorem Shorthand.Adds.exists_status
    {stated added : List Filter}
    {dataset : Dataset}
    (hAdds : Adds stated dataset added)
    {filter : Filter}
    (hMem : filter ∈ added) :
    ∃ status, filter = statusFilter status := by
  cases dataset with
  | sales =>
      rw [hAdds] at hMem
      cases hMem
  | users =>
      rcases hAdds with rfl | ⟨rfl, _⟩
      · cases hMem
      · exact ⟨_, List.mem_singleton.mp hMem⟩
  | products =>
      rcases hAdds with rfl | ⟨status, _, rfl⟩
      · cases hMem
      · exact ⟨status, List.mem_singleton.mp hMem⟩

end Dashboard

------------------------------------------------------------
-- Main Result
------------------------------------------------------------

namespace Dashboard

namespace Prompt

variable (lexicon : Lexicon) (prompt : Prompt)

/- The first pass goes over the phrases for numbers. -/
theorem isPass_comparisons :
    IsPass Comparison.patterns
      (Comparison.Calls lexicon prompt.text)
      (Comparison.Reads lexicon prompt.text)
      (prompt.comparisons lexicon) :=
  isPass_filterMap
    (fun _ hEntry _ hFilter =>
      Comparison.reads_of_filterIn? hEntry hFilter)
    fun _ hEntry hCalls =>
      Comparison.exists_filterIn?_of_calls hEntry hCalls

theorem sublist_operators_comparisons :
    ((prompt.comparisons lexicon).map
        Filter.operator).Sublist
      (List.replicate 6 Operator.gt ++
        List.replicate 4 Operator.gte ++
        List.replicate 5 Operator.lt ++
        List.replicate 5 Operator.lte ++
        List.replicate 5 Operator.eq) := by
  rcases (prompt.isPass_comparisons lexicon).ordered with
    ⟨taken, hTaken, hReads⟩
  have hOperators :
      (prompt.comparisons lexicon).map Filter.operator =
        taken.map Prod.fst :=
    map_eq_of_forall₂ (fun _ _ hRead => hRead.operator.symm)
      hReads
  rw [hOperators]
  exact hTaken.map Prod.fst

/- The second pass goes over the assertions. -/
theorem isPass_assertions :
    IsPass Assertion.forms
      (fun form => form.2.2.fits prompt.text = true)
      (Assertion.Reads prompt.text) prompt.assertions := by
  rw [assertions_eq]
  exact
    isPass_filterMap
      (fun _ hForm _ hFilter =>
        Assertion.reads_of_filterIn? hForm hFilter)
      fun _ hForm hFits =>
        Assertion.exists_filterIn?_of_fits hForm hFits

theorem sublist_fields_assertions :
    (prompt.assertions.map fun f =>
        (f.field, f.operator)).Sublist
      (Assertion.fields.flatMap fun field =>
        [(field, .eq), (field, .contains)]) := by
  rcases prompt.isPass_assertions.ordered with
    ⟨taken, hTaken, hReads⟩
  have hFields :
      (prompt.assertions.map fun f => (f.field, f.operator)) =
        taken.map fun form => (form.1, form.2.1) :=
    map_eq_of_forall₂
      (fun _ _ hRead =>
        (Prod.ext hRead.field hRead.operator).symm)
      hReads
  rw [hFields]
  exact hTaken.map fun form => (form.1, form.2.1)

variable {lexicon prompt}

/- No pass of the filters gives one with `neq`. -/
theorem operator_ne_neq
    {dataset : Dataset}
    {filter : Filter}
    (hMem : filter ∈ prompt.filters lexicon dataset) :
    filter.operator ≠ .neq := by
  rcases List.mem_append.mp hMem with hStated | hAdded
  · rcases List.mem_append.mp hStated with
      hComparison | hAssertion
    · have hOperator :=
        (prompt.sublist_operators_comparisons lexicon).subset
          (List.mem_map_of_mem hComparison)
      rintro hNeq
      rw [hNeq] at hOperator
      revert hOperator
      decide
    · have hField :=
        prompt.sublist_fields_assertions.subset
          (List.mem_map_of_mem hAssertion)
      rcases List.mem_flatMap.mp hField with
        ⟨field, _, hPair⟩
      rintro hNeq
      simp [hNeq] at hPair
  · rcases (Shorthand.adds_shorthand? _ _ _).exists_status
        hAdded with
      ⟨status, rfl⟩
    rintro ⟨⟩

/-
  The filters of a prompt on a dataset are those of three
  passes.  The first one goes over the phrases for numbers:
  each gives at most one filter, in the order of the table,
  with a number that has no sign and the field of a phrase
  that stands in the prompt, and it gives one if such a
  phrase is near.  The second one asserts a text in the
  prompt about each field of a fixed list, as equal or as
  contained.  These two are the same on all datasets; the
  third one may add a status.
-/
theorem filters_shape
    (lexicon : Lexicon)
    (written : String) :
    ∃ numbers texts : List Filter,
      ∃ added : Dataset → List Filter,
        (∀ dataset,
          (ofString written).filters lexicon dataset =
            numbers ++ texts ++ added dataset) ∧
          IsPass Comparison.patterns
            (Comparison.Calls lexicon
              (Text.lower written).toList)
            (Comparison.Reads lexicon
              (Text.lower written).toList)
            numbers ∧
          (numbers.map Filter.operator).Sublist
            (List.replicate 6 Operator.gt ++
              List.replicate 4 Operator.gte ++
              List.replicate 5 Operator.lt ++
              List.replicate 5 Operator.lte ++
              List.replicate 5 Operator.eq) ∧
          IsPass Assertion.forms
            (fun form =>
              form.2.2.fits (Text.lower written).toList = true)
            (Assertion.Reads (Text.lower written).toList)
            texts ∧
          (texts.map fun f => (f.field, f.operator)).Sublist
            (Assertion.fields.flatMap fun field =>
              [(field, .eq), (field, .contains)]) ∧
          (∀ dataset,
            Shorthand.Adds (numbers ++ texts) dataset
              (added dataset)) ∧
          ∀ dataset,
            ∀ f ∈ (ofString written).filters lexicon dataset,
              f.operator ≠ .neq := by
  let prompt := ofString written
  have hText : prompt.text = (Text.lower written).toList :=
    String.toList_ofList.symm
  rw [← hText]
  exact
    ⟨prompt.comparisons lexicon, prompt.assertions,
      fun dataset =>
        (prompt.shorthand?
          (prompt.comparisons lexicon ++ prompt.assertions)
          dataset).toList,
      fun _ => rfl, prompt.isPass_comparisons lexicon,
      prompt.sublist_operators_comparisons lexicon,
      prompt.isPass_assertions,
      prompt.sublist_fields_assertions,
      Shorthand.adds_shorthand? prompt _,
      fun _ _ => operator_ne_neq⟩

end Prompt

end Dashboard
