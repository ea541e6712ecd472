import Dashboard.Proofs.Lexicon.Extension
import Dashboard.Proofs.Lexicon.Mask
import Dashboard.Proofs.Pattern.Mask
import Dashboard.Proofs.Pattern.Taken
import Dashboard.Proofs.Prompt.Comparison
import Dashboard.Prompt.Interpreter
import Mathlib.Data.List.Find

/-
  Numerals affect numerals only.  Every pattern treats all
  digits alike, so a prompt and its masked form have the same
  interpretations but for what is read of their digits: the
  operands of filters, the field of a sort, and the limit.

  Key definitions include:
    * `Filter.outline`
    * `Interpretation.outline`

  Main declarations:
    * `Comparison.exists_amount_of_group?`
    * `Prompt.map_outline_filters_mask`
    * `Lexicon.DigitFree.outline_interpretFor_mask`
    * `Lexicon.outlines_of_alikeButDigits`
-/

------------------------------------------------------------
-- Outlines
------------------------------------------------------------

namespace Dashboard

/- A filter without its operand, of which the kind is kept. -/
structure FilterOutline where
  field : String
  operator : Operator
  isNumber : Bool
deriving DecidableEq, Repr

/- What is left of a filter without its operand. -/
def Filter.outline (filter : Filter) : FilterOutline :=
  ⟨filter.field, filter.operator,
    filter.operand.number?.isSome⟩

/-
  What numerals cannot change about an interpretation: a sort
  is kept with its direction only.
-/
structure Interpretation.Outline where
  component : Component
  dataset : Dataset
  chart : Option Chart
  filters : Option (List FilterOutline)
  sort : Option Direction
deriving DecidableEq, Repr

/- The outline of an interpretation. -/
def Interpretation.outline
    (i : Interpretation) : Interpretation.Outline :=
  { component := i.component
    dataset := i.dataset
    chart := i.chart
    filters := i.filters.map (List.map Filter.outline)
    sort := i.sort.map Sorting.direction }

end Dashboard

------------------------------------------------------------
-- Operands Of Comparisons
------------------------------------------------------------

namespace Dashboard

namespace Pattern

/- One accepted character or more. -/
theorem takes_some1_iff
    {accepts : Char → Bool}
    {taken : List Char} :
    (some1 accepts).Takes taken ↔
      taken ≠ [] ∧ ∀ c ∈ taken, accepts c = true := by
  constructor
  · rintro ⟨_, rest, ⟨c, hFirst, rfl⟩, hRest, rfl⟩
    refine ⟨List.cons_ne_nil _ _, ?_⟩
    exact List.forall_mem_cons.mpr ⟨hFirst, hRest⟩
  · rintro ⟨hSome, hAll⟩
    rcases List.exists_cons_of_ne_nil hSome with
      ⟨c, rest, rfl⟩
    rw [List.forall_mem_cons] at hAll
    exact ⟨[c], rest, ⟨c, hAll.1, rfl⟩, hAll.2, rfl⟩

/- Single characters have no groups. -/
theorem bodies_chars
    (accepts : Char → Char → Bool)
    (wanted : List Char) :
    (sequence
        (wanted.map fun c => char (accepts c))).bodies =
      [] := by
  induction wanted with
  | nil => rfl
  | cons c rest ih => exact ih

theorem bodies_text (wanted : String) :
    (text wanted).bodies = [] :=
  bodies_chars (fun c d => d == c) wanted.toList

theorem bodies_letters (wanted : String) :
    (letters wanted).bodies = [] :=
  bodies_chars sameLetter wanted.toList

end Pattern

namespace Comparison

open Pattern

/- The only group of a phrase is its number. -/
theorem Phrase.bodies_pattern (phrase : Phrase) :
    phrase.pattern.bodies = number.bodies := by
  cases phrase with
  | words parts =>
      induction parts with
      | nil => rfl
      | cons word rest ih =>
          have hRest : (before rest).bodies = number.bodies :=
            ih
          have hWords :
              (words (word :: rest)).pattern.bodies =
                (text word).bodies ++ (before rest).bodies :=
            rfl
          rw [hWords, bodies_text, hRest, List.nil_append]
  | plural word =>
      have hWord :
          (plural word).pattern.bodies =
            (text word).bodies ++ number.bodies := rfl
      rw [hWord, bodies_text, List.nil_append]
  | symbol sign =>
      have hSign :
          (symbol sign).pattern.bodies =
            (text sign).bodies ++ number.bodies := rfl
      rw [hSign, bodies_text, List.nil_append]
  | trailing first second =>
      have hWords :
          (trailing first second).pattern.bodies =
            number.bodies ++
              ((text first).bodies ++
                ((text second).bodies ++ [])) := rfl
      simp [hWords, bodies_text]

/- Digits, and maybe more after a point, are an amount. -/
theorem exists_amount_of_takes
    {taken : List Char}
    (hTakes : number.Takes taken) :
    ∃ n : Amount, n.text = taken := by
  rcases hTakes with ⟨whole, rest, hWhole, hRest, rfl⟩
  rw [takes_some1_iff] at hWhole
  rcases hRest with ⟨point, places, hPoint, hPlaces, rfl⟩ | rfl
  · rw [takes_some1_iff] at hPlaces
    rcases hPoint with ⟨_, _, ⟨c, hChar, rfl⟩, rfl, rfl⟩
    refine
      ⟨⟨⟨whole, hWhole.1, hWhole.2⟩,
        some ⟨places, hPlaces.1, hPlaces.2⟩⟩, ?_⟩
    rw [beq_iff_eq.mp hChar]
    rfl
  · refine ⟨⟨⟨whole, hWhole.1, hWhole.2⟩, none⟩, ?_⟩
    rfl

/- What stands in the group of a phrase is an amount. -/
theorem exists_amount_of_group?
    {phrase : Phrase}
    {text word : List Char}
    {found : Match}
    (hFind : phrase.pattern.find text = some found)
    (hGroup : found.group? 0 = some word) :
    ∃ n : Amount, n.text = word := by
  rcases takes_of_group? hFind hGroup with
    ⟨_, body, hBody, hTakes⟩
  rw [phrase.bodies_pattern] at hBody
  have hNumber : group body = number := by
    rw [List.mem_singleton.mp hBody]
    rfl
  apply exists_amount_of_takes
  rw [← hNumber]
  exact hTakes

/- A phrase that gives a filter was found before an amount. -/
theorem exists_of_filterIn?
    {lexicon : Lexicon}
    {text : List Char}
    {operator : Operator}
    {phrase : Phrase}
    {filter : Filter}
    (hFilter :
      filterIn? lexicon text (operator, phrase.pattern) =
        some filter) :
    ∃ found, ∃ n : Amount, ∃ s,
      phrase.pattern.find text = some found ∧
        found.group? 0 = some n.text ∧
        lexicon.nearestSynonym? found.head = some s ∧
        filter = ⟨s.field, operator, .number n.value⟩ := by
  unfold filterIn? at hFilter
  cases hFind : phrase.pattern.find text with
  | none =>
      rw [hFind] at hFilter
      cases hFilter
  | some found =>
      rw [hFind] at hFilter
      dsimp only at hFilter
      cases hGroup : found.group? 0 with
      | none =>
          simp [filterOf?, operand?, hGroup] at hFilter
      | some word =>
          rcases exists_amount_of_group? hFind hGroup with
            ⟨n, rfl⟩
          have hReading :
              found.reading = (found.head, some n.text) := by
            rw [Match.reading, hGroup]
          rw [filterOf?_of_reading hReading] at hFilter
          rcases Option.map_eq_some_iff.mp hFilter with
            ⟨s, hNearest, hSame⟩
          exact
            ⟨found, n, s, rfl, hGroup, hNearest, hSame.symm⟩

end Comparison

end Dashboard

------------------------------------------------------------
-- Comparisons
------------------------------------------------------------

namespace Dashboard

namespace Comparison

open Pattern

variable {lexicon : Lexicon}

/- A number that is found is one that can be read. -/
theorem isSome_operand?
    {phrase : Phrase}
    {text : List Char}
    {found : Match}
    (hFind : phrase.pattern.find text = some found) :
    (operand? found).isSome = (found.group? 0).isSome := by
  unfold operand?
  cases hGroup : found.group? 0 with
  | none => rfl
  | some word =>
      rcases exists_amount_of_group? hFind hGroup with
        ⟨n, rfl⟩
      simp [n.scan_text]

/-
  The outline of a comparison is settled by what stands before
  its match; its number is only asked to be there.
-/
theorem map_outline_filterOf?
    (operator : Operator)
    {phrase : Phrase}
    {text : List Char}
    {found : Match}
    (hFind : phrase.pattern.find text = some found) :
    (filterOf? lexicon operator found).map Filter.outline =
      if (found.group? 0).isSome then
        (lexicon.nearestSynonym? found.head).map fun synonym =>
          ⟨synonym.field, operator, true⟩
      else
        none := by
  rw [← isSome_operand? hFind]
  unfold filterOf?
  cases operand? found with
  | none => rfl
  | some value =>
      cases lexicon.nearestSynonym? found.head with
      | none => rfl
      | some synonym => rfl

theorem pattern_ignoresDigits :
    ∀ e ∈ phrases, e.2.pattern.ignoresDigits = true := by
  decide

theorem map_outline_filterIn?_mask
    (hFree : lexicon.DigitFree)
    {e : Operator × Phrase}
    (hMem : e ∈ phrases)
    (text : List Char) :
    (filterIn? lexicon (Text.mask text)
          (e.1, e.2.pattern)).map Filter.outline =
      (filterIn? lexicon text (e.1, e.2.pattern)).map
        Filter.outline := by
  have hFind :=
    find_mask (pattern_ignoresDigits e hMem) text
  unfold filterIn?
  cases hFound : e.2.pattern.find text with
  | none =>
      rw [hFound, Option.map_none] at hFind
      simp only [hFind]
  | some found =>
      rw [hFound, Option.map_some] at hFind
      simp only [hFind, map_outline_filterOf? e.1 hFind,
        map_outline_filterOf? e.1 hFound,
        found.group?_mask, found.head_mask,
        hFree.nearestSynonym?_mask, Option.isSome_map]

end Comparison

/- The comparisons of a prompt and of its mask. -/
theorem Prompt.map_outline_comparisons_mask
    {lexicon : Lexicon}
    (hFree : lexicon.DigitFree)
    (prompt : Prompt) :
    (prompt.mask.comparisons lexicon).map Filter.outline =
      (prompt.comparisons lexicon).map Filter.outline := by
  unfold comparisons
  rw [Comparison.patterns_eq, List.filterMap_map,
    List.filterMap_map, List.map_filterMap,
    List.map_filterMap]
  apply List.filterMap_congr
  intro e hMem
  exact
    Comparison.map_outline_filterIn?_mask hFree hMem
      prompt.text

end Dashboard

------------------------------------------------------------
-- Assertions And Shorthands
------------------------------------------------------------

namespace Dashboard

namespace Assertion

open Pattern

/- The word of an assertion is no part of its outline. -/
theorem map_outline_filterIn?_mask
    {pattern : Pattern}
    (hIgnores : pattern.ignoresDigits = true)
    (field : String)
    (operator : Operator)
    (text : List Char) :
    (filterIn? field operator pattern (Text.mask text)).map
        Filter.outline =
      (filterIn? field operator pattern text).map
        Filter.outline := by
  unfold filterIn?
  rw [find_mask hIgnores]
  cases pattern.find text with
  | none => rfl
  | some found =>
      simp only [Option.map_some, found.group?_mask,
        Option.map_map]
      rfl

theorem pattern_ignoresDigits :
    ∀ field ∈ fields,
      (assertion field equality).ignoresDigits = true ∧
        (assertion field (letters "contains")).ignoresDigits =
          true := by
  decide

theorem map_outline_filtersFor_mask
    {field : String}
    (hMem : field ∈ fields)
    (text : List Char) :
    (filtersFor (Text.mask text) field).map Filter.outline =
      (filtersFor text field).map Filter.outline := by
  have hIgnores := pattern_ignoresDigits field hMem
  unfold filtersFor
  simp only [List.map_append, ← Option.toList_map,
    map_outline_filterIn?_mask hIgnores.1,
    map_outline_filterIn?_mask hIgnores.2]

end Assertion

namespace Prompt

theorem map_outline_assertions_mask (prompt : Prompt) :
    prompt.mask.assertions.map Filter.outline =
      prompt.assertions.map Filter.outline := by
  unfold assertions
  rw [List.map_flatMap, List.map_flatMap]
  apply List.flatMap_congr
  intro field hMem
  exact
    Assertion.map_outline_filtersFor_mask hMem prompt.text

open Shorthand in
/-
  A shorthand looks at the fields of the other filters only,
  and at phrases without digits.
-/
theorem shorthand?_mask
    {existing other : List Filter}
    (hSame :
      existing.map Filter.outline = other.map Filter.outline)
    (prompt : Prompt)
    (dataset : Dataset) :
    prompt.mask.shorthand? existing dataset =
      prompt.shorthand? other dataset := by
  have hFields : ∀ filters : List Filter,
      filters.any (fun f => f.field == "status") =
        (filters.map Filter.outline).any
          fun o => o.field == "status" := by
    intro filters
    rw [List.any_map]
    rfl
  cases dataset with
  | sales => rfl
  | users =>
      unfold shorthand? mask
      rw [hFields existing, hFields other, hSame,
        Pattern.fits_mask (by decide),
        Pattern.fits_mask (by decide)]
  | products =>
      have hFits :
          ∀ e ∈ stockPatterns,
            e.1.fits (Text.mask prompt.text) =
              e.1.fits prompt.text := by
        have hIgnores :
            (stockPatterns.all fun e => e.1.ignoresDigits) =
              true := by
          decide
        intro e hMem
        exact
          Pattern.fits_mask (List.all_eq_true.mp hIgnores e hMem)
            prompt.text
      unfold shorthand? mask
      rw [List.find?_congr hFits]

/- The filters of a prompt and of its mask. -/
theorem map_outline_filters_mask
    {lexicon : Lexicon}
    (hFree : lexicon.DigitFree)
    (prompt : Prompt)
    (dataset : Dataset) :
    (prompt.mask.filters lexicon dataset).map Filter.outline =
      (prompt.filters lexicon dataset).map Filter.outline := by
  have hStated :
      (prompt.mask.comparisons lexicon ++
            prompt.mask.assertions).map Filter.outline =
        (prompt.comparisons lexicon ++
            prompt.assertions).map Filter.outline := by
    rw [List.map_append, List.map_append,
      prompt.map_outline_comparisons_mask hFree,
      prompt.map_outline_assertions_mask]
  unfold filters
  dsimp only
  rw [prompt.shorthand?_mask hStated, List.map_append,
    hStated, ← List.map_append]

end Prompt

end Dashboard

------------------------------------------------------------
-- Sorts And Limits
------------------------------------------------------------

namespace Dashboard

/- Digits do not matter to the direction of a word. -/
theorem Direction.ofWord_mask (word : List Char) :
    ofWord (Text.mask word) = ofWord word := by
  unfold ofWord
  rw [Text.lowercase_mask, Text.isPrefixOf_mask rfl]

namespace Sorting

theorem directionOf_mask (found : Match) :
    directionOf found.mask = directionOf found := by
  unfold directionOf
  rw [found.group?_mask]
  cases found.group? 1 with
  | none => rfl
  | some word => exact Direction.ofWord_mask word

/- Numerals may change the field of a sort only. -/
theorem map_direction_sortIn?_mask
    {entry : Pattern × Option Direction}
    (hIgnores : entry.1.ignoresDigits = true)
    (lexicon : Lexicon)
    (text : List Char) :
    (sortIn? lexicon (Text.mask text) entry).map direction =
      (sortIn? lexicon text entry).map direction := by
  unfold sortIn?
  rw [Pattern.find_mask hIgnores]
  cases entry.1.find text with
  | none => rfl
  | some found =>
      simp only [Option.map_some, found.group?_mask,
        Option.map_map, Function.comp_def, directionOf_mask]

end Sorting

namespace Prompt

theorem map_direction_sort?_mask
    (prompt : Prompt)
    (lexicon : Lexicon) :
    (prompt.mask.sort? lexicon).map Sorting.direction =
      (prompt.sort? lexicon).map Sorting.direction := by
  have hIgnores :
      (Sorting.patterns.all fun e => e.1.ignoresDigits) =
        true := by
    decide
  rw [List.all_eq_true] at hIgnores
  unfold sort?
  rw [List.map_findSome?, List.map_findSome?]
  apply findSome?_congr
  intro entry hMem
  exact
    Sorting.map_direction_sortIn?_mask (hIgnores entry hMem)
      lexicon prompt.text

/- Numerals do not decide whether there is a limit. -/
theorem isSome_limit?_mask (prompt : Prompt) :
    prompt.mask.limit?.isSome = prompt.limit?.isSome := by
  have hIgnores :
      (Limit.patterns.all Pattern.ignoresDigits) = true := by
    decide
  rw [List.all_eq_true] at hIgnores
  have hEach :
      ∀ pattern ∈ Limit.patterns,
        (Limit.limitIn? prompt.mask.text pattern).isSome =
          (Limit.limitIn? prompt.text pattern).isSome := by
    intro pattern hMem
    unfold Limit.limitIn? mask
    rw [Pattern.find_mask (hIgnores pattern hMem)]
    cases pattern.find prompt.text with
    | none => rfl
    | some found => simp [found.group?_mask]
  unfold limit?
  rw [List.isSome_findSome?, List.isSome_findSome?,
    Bool.eq_iff_iff, List.any_eq_true, List.any_eq_true]
  constructor
  · rintro ⟨pattern, hMem, hSome⟩
    exact ⟨pattern, hMem, by rwa [← hEach pattern hMem]⟩
  · rintro ⟨pattern, hMem, hSome⟩
    exact ⟨pattern, hMem, by rwa [hEach pattern hMem]⟩

end Prompt

end Dashboard

------------------------------------------------------------
-- Interpretations
------------------------------------------------------------

namespace Dashboard

namespace Prompt

/- There are filters exactly if there are outlines of them. -/
theorem map_outline_filters?
    (prompt : Prompt)
    (lexicon : Lexicon)
    (dataset : Dataset) :
    (prompt.filters? lexicon dataset).map
        (List.map Filter.outline) =
      match
        (prompt.filters lexicon dataset).map Filter.outline
      with
      | [] => none
      | outlines => some outlines := by
  unfold filters?
  cases prompt.filters lexicon dataset with
  | nil => rfl
  | cons first rest => rfl

end Prompt

namespace Lexicon

variable {lexicon : Lexicon}

/- A prompt and its mask have the same outlines. -/
theorem DigitFree.outline_interpretFor_mask
    (hFree : lexicon.DigitFree)
    (prompt : Prompt)
    (dataset : Dataset) :
    (prompt.mask.interpretFor lexicon dataset).outline =
      (prompt.interpretFor lexicon dataset).outline := by
  have hChart :
      prompt.mask.chart? lexicon = prompt.chart? lexicon := by
    unfold Prompt.chart?
    rw [prompt.component_mask, hFree.chart_mask]
  have hFilters :
      (prompt.mask.filters? lexicon dataset).map
          (List.map Filter.outline) =
        (prompt.filters? lexicon dataset).map
          (List.map Filter.outline) := by
    rw [Prompt.map_outline_filters?,
      Prompt.map_outline_filters?,
      prompt.map_outline_filters_mask hFree]
  unfold Prompt.interpretFor Interpretation.caption
    Interpretation.outline
  dsimp only
  rw [prompt.component_mask, hChart, hFilters,
    prompt.map_direction_sort?_mask]

theorem DigitFree.map_outline_interpretAll
    (hFree : lexicon.DigitFree)
    (written : String) :
    (lexicon.interpretAll written).map
        Interpretation.outline =
      ((Prompt.ofString written).mask.datasets lexicon).map
        fun dataset =>
          ((Prompt.ofString written).mask.interpretFor lexicon
            dataset).outline := by
  unfold interpretAll
  rw [List.map_map, hFree.datasets_mask]
  apply List.map_congr_left
  intro dataset _
  rw [hFree.outline_interpretFor_mask]
  rfl

/-
  Two prompts that differ in digits only, place by place,
  have as many interpretations, with the same outlines in the
  same order, and either both or none of them has a limit.
-/
theorem outlines_of_alikeButDigits
    {written other : String}
    (hAlike :
      Text.AlikeButDigits written.toList other.toList) :
    (standard.interpretAll written).map
          Interpretation.outline =
        (standard.interpretAll other).map
          Interpretation.outline ∧
      ((Prompt.ofString written).limit?.isSome ↔
        (Prompt.ofString other).limit?.isSome) := by
  have hMask := Prompt.mask_eq_of_alikeButDigits hAlike
  constructor
  · rw [standard_digitFree.map_outline_interpretAll,
      standard_digitFree.map_outline_interpretAll, hMask]
  · rw [← Prompt.isSome_limit?_mask, hMask,
      Prompt.isSome_limit?_mask]

/- A count and a bound are numerals. -/
theorem outlines_of_alikeButDigits_stock :
    (standard.interpretAll "top 5 stock above 10").map
          Interpretation.outline =
        (standard.interpretAll "top 9 stock above 72").map
          Interpretation.outline ∧
      ((Prompt.ofString "top 5 stock above 10").limit?.isSome ↔
        (Prompt.ofString
          "top 9 stock above 72").limit?.isSome) := by
  apply outlines_of_alikeButDigits
  unfold Text.AlikeButDigits
  decide

end Lexicon

end Dashboard
