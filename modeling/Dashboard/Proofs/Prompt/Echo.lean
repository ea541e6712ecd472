import Dashboard.Proofs.Prompt.EchoAssertion
import Dashboard.Proofs.Prompt.EchoComparison
import Dashboard.Proofs.Prompt.EchoStatus
import Dashboard.Proofs.Prompt.Question

/-
  Descriptions as prompts again: the description of a prompt
  with filters is read as the echo of its filters, which need
  not be the filters.  The equals sign at the end of `>=` and
  `<=` is read as a comparison of its own, and so a bound that
  may be reached comes back with an equality next to it.

  Key definitions include:
    * `Description.echo`
    * `Filter.IsBound`
    * `Filter.Equates`

  Main declarations:
    * `Description.filters_of_text`
    * `Description.echo_ne_of_isBound`
    * `Prompt.filters_description`
-/

------------------------------------------------------------
-- Echoes
------------------------------------------------------------

namespace Dashboard

namespace Description

/-
  What the description of filters and a sort is read as, on a
  dataset.
-/
def echo
    (dataset : Dataset)
    (filters : List Filter)
    (sort : Option Sorting) : List Filter :=
  let stated := echoComparisons filters ++ echoAssertions filters
  stated ++ (echoStatus? filters sort stated dataset).toList

theorem filters_of_text
    {filter : Filter}
    {more : List Filter}
    (hGiven : ∀ f ∈ filter :: more, f.IsGiven)
    {sort : Option Sorting}
    (hSort : Sorting.IsNamed sort)
    {limit : Option UInt64}
    {prompt : Prompt}
    (hText : prompt.text = text filter more sort limit)
    (dataset : Dataset) :
    prompt.filters .standard dataset =
      echo dataset (filter :: more) sort := by
  rcases prompt with ⟨written⟩
  obtain rfl : written = text filter more sort limit := hText
  unfold Prompt.filters echo
  rw [comparisons_eq hGiven hSort limit,
    assertions_eq hGiven hSort limit]
  dsimp only
  rw [shorthand?_eq hGiven hSort limit]

end Description

end Dashboard

------------------------------------------------------------
-- Bounds
------------------------------------------------------------

namespace Dashboard

namespace Filter

/- A bound of a finite number that may be reached. -/
def IsBound (filter : Filter) : Prop :=
  (filter.operator = .gte ∨ filter.operator = .lte) ∧
    ∃ x, filter.operand = .number x ∧ x.isFinite = true

/- A filter for a number to be equal to. -/
def Equates (filter : Filter) : Prop :=
  filter.operator = .eq ∧ ∃ x, filter.operand = .number x

/- The sign of a bound is read as an equality too. -/
theorem IsBound.echoComparison?_ne_none
    {filter : Filter}
    (hBound : filter.IsBound) :
    filter.echoComparison? .eq ≠ none := by
  rcases hBound with ⟨hOperator, x, hOperand, hFinite⟩
  have hReads :
      Operator.eq ∈ Comparison.readings filter.operator := by
    rcases hOperator with hGte | hLte
    · rw [hGte]
      decide
    · rw [hLte]
      decide
  rw [echoComparison?, if_pos hReads, echoNumber?, hOperand]
  simp [hFinite]

theorem equates_of_echoComparison?
    {filter read : Filter}
    (hRead : filter.echoComparison? .eq = some read) :
    read.Equates := by
  unfold echoComparison? at hRead
  split at hRead
  · rcases Option.map_eq_some_iff.mp hRead with ⟨x, _, rfl⟩
    exact ⟨rfl, x, rfl⟩
  · cases hRead

end Filter

namespace Description

/- The echo of a bound has an equality in it. -/
theorem exists_equates_of_isBound
    {filters : List Filter}
    (hBound : ∃ f ∈ filters, f.IsBound)
    (dataset : Dataset)
    (sort : Option Sorting) :
    ∃ f ∈ echo dataset filters sort, f.Equates := by
  rcases hBound with ⟨bound, hMem, hBound⟩
  have hSome :
      filters.findSome? (Filter.echoComparison? .eq) ≠ none := by
    rw [Ne, List.findSome?_eq_none_iff]
    exact fun hNone =>
      hBound.echoComparison?_ne_none (hNone bound hMem)
  rcases Option.ne_none_iff_exists'.mp hSome with
    ⟨read, hRead⟩
  rcases List.exists_of_findSome?_eq_some hRead with
    ⟨source, _, hSource⟩
  refine ⟨read, ?_, Filter.equates_of_echoComparison? hSource⟩
  apply List.mem_append_left
  apply List.mem_append_left
  exact List.mem_filterMap.mpr ⟨.eq, by decide, hRead⟩

/- Without one of their own, the filters change. -/
theorem echo_ne_of_isBound
    {filters : List Filter}
    (hBound : ∃ f ∈ filters, f.IsBound)
    (hNone : ∀ f ∈ filters, ¬ f.Equates)
    (dataset : Dataset)
    (sort : Option Sorting) :
    echo dataset filters sort ≠ filters := by
  intro hSame
  rcases exists_equates_of_isBound hBound dataset sort with
    ⟨f, hMem, hEquates⟩
  rw [hSame] at hMem
  exact hNone f hMem hEquates

end Description

end Dashboard

------------------------------------------------------------
-- Main Result
------------------------------------------------------------

namespace Dashboard

/- The caption does not change what is described. -/
theorem Interpretation.description_caption
    (i : Interpretation) :
    i.caption.description = i.caption.makeDescription :=
  rfl

namespace Prompt

variable {written : String}
variable {dataset : Dataset}

/-
  The description of a prompt with filters is read as their
  echo.  So the filters do not come back if one of them is a
  bound and none an equality of numbers.
-/
theorem filters_description
    (hSome :
      (ofString written).filters .standard dataset ≠ []) :
    let prompt := ofString written
    let i := prompt.interpretFor .standard dataset
    let filters := prompt.filters .standard dataset
    let again :=
      (ofString i.description).filters .standard dataset
    again = Description.echo dataset filters i.sort ∧
      ((∃ f ∈ filters, f.IsBound) →
        (∀ f ∈ filters, ¬ f.Equates) → again ≠ filters) := by
  intro prompt i filters again
  have hAgain :
      again = Description.echo dataset filters i.sort := by
    rcases List.exists_cons_of_ne_nil hSome with
      ⟨filter, more, hFilters⟩
    have hList : i.filterList = filter :: more := by
      rw [← hFilters]
      exact Interpretation.filterList_interpretFor _ _ _
    have hGiven : ∀ f ∈ filter :: more, f.IsGiven := by
      intro f hMem
      rw [← hFilters] at hMem
      exact isGiven_of_mem_filters hMem
    have hSort : Sorting.IsNamed i.sort :=
      isNamed_sort? written
    have hText :=
      Description.text_ofString hList hGiven hSort
    have hDescription : i.description = i.makeDescription :=
      Interpretation.description_caption _
    have hSame : filters = filter :: more := hFilters
    rw [← hDescription] at hText
    rw [hSame]
    exact Description.filters_of_text hGiven hSort hText dataset
  refine ⟨hAgain, fun hBound hNone => ?_⟩
  rw [hAgain]
  exact Description.echo_ne_of_isBound hBound hNone dataset _

theorem filters_description_rating :
    let prompt :=
      ofString "list of products with rating at least 4"
    let i := prompt.interpretFor .standard .products
    let filters := prompt.filters .standard .products
    let again :=
      (ofString i.description).filters .standard .products
    let four : Double := .ofDecimal false ⟨4, 0⟩
    filters = [⟨"rating", .gte, .number four⟩] ∧
      again =
        [⟨"rating", .gte, .number four⟩,
          ⟨"rating", .eq, .number four⟩] ∧
      again ≠ filters := by
  intro prompt i filters again four
  have hFilters :
      filters = [⟨"rating", .gte, .number four⟩] := by
    decide +kernel
  have hSort : i.sort = none := by
    decide +kernel
  have hSome : filters ≠ [] := by
    rw [hFilters]
    exact List.cons_ne_nil _ _
  rcases filters_description hSome with ⟨hEcho, hChanges⟩
  have hAgain :
      again =
        [⟨"rating", .gte, .number four⟩,
          ⟨"rating", .eq, .number four⟩] := by
    have hRead :
        Description.echo .products
            [⟨"rating", .gte, .number four⟩] none =
          [⟨"rating", .gte, .number four⟩,
            ⟨"rating", .eq, .number four⟩] := by
      decide +kernel
    rw [← hRead, ← hFilters, ← hSort]
    exact hEcho
  have hBound : ∃ f ∈ filters, f.IsBound := by
    rw [hFilters]
    exact
      ⟨_, List.mem_singleton_self _, .inl rfl, four, rfl,
        by decide +kernel⟩
  have hNone : ∀ f ∈ filters, ¬ f.Equates := by
    rw [hFilters, List.forall_mem_singleton]
    rintro ⟨⟨⟩, _⟩
  exact ⟨hFilters, hAgain, hChanges hBound hNone⟩

end Prompt

end Dashboard
