import Dashboard.Proofs.Interpretation.Wire
import Dashboard.Proofs.Number.Integer
import Dashboard.Query.Parameters

/-
  Two ways to ask for what an interpretation says: directly,
  and with its dataset, filters, sort and limit as the texts
  of request parameters.  Both are the same query.

  Key definitions include:
    * `Interpretation.parameters`

  Main declarations:
    * `Filter.listOfText_print`
    * `Sorting.ofText?_print`
    * `Query.ofParameters_parameters`
-/

------------------------------------------------------------
-- Filters
------------------------------------------------------------

namespace Dashboard

theorem Dataset.ofName?_name (dataset : Dataset) :
    ofName? dataset.name = some dataset := by
  cases dataset
  all_goals rfl

/- Filters as a JSON document. -/
def Filter.documents (filters : List Filter) : Json :=
  .ofList Filter.document filters

theorem Filter.sorted_documents (filters : List Filter) :
    (documents filters).sorted = .ofList toJson filters := by
  unfold documents
  rw [Json.sorted_ofList]
  congr 1
  funext filter
  exact filter.sorted_document

/- Filters are read back from their text. -/
theorem Filter.listOfText_print
    {filters : List Filter}
    (hKept :
      ∀ x ∈ filters.filterMap fun f => f.operand.number?,
        (JsonNumber.float x).Kept) :
    listOfText (documents filters).print = filters := by
  have hDocument : (documents filters).Keeps 2 :=
    Interpretation.ofList_document_keeps hKept
  have hKeeps :
      (documents filters).Keeps RawJson.deepestNesting :=
    hDocument.mono (by decide)
  rw [listOfText, Json.parse?_print hKeeps, sorted_documents,
    Json.ofList]
  dsimp only
  rw [List.filterMap_map]
  have hRead : ofJson? ∘ toJson = some := by
    funext filter
    exact filter.ofJson?_toJson
  rw [hRead]
  exact List.filterMap_some

end Dashboard

------------------------------------------------------------
-- Sorts
------------------------------------------------------------

namespace Dashboard

namespace Sorting

/- The document of a sort as it is read. -/
def raw (sort : Sorting) : RawJson :=
  .object
    [(some "field", .string (some sort.field)),
      (some "direction",
        .string (some sort.direction.name))]

theorem document_readsAs (sort : Sorting) :
    sort.document.ReadsAs sort.raw := by
  apply Json.MembersReadAs.object_readsAs
  apply Json.members_cons_readAs
  · exact Json.string_readsAs _
  · apply Json.members_cons_readAs
    · exact Json.string_readsAs _
    · exact Json.members_nil_readAs

theorem slots?_raw (sort : Sorting) :
    sort.raw.slots? ["field", "direction"] =
      some
        [.given (.string (some sort.field)),
          .given (.string (some sort.direction.name))] :=
  rfl

/- A sort by a field with a name is read back. -/
theorem ofText?_print
    {sort : Sorting}
    (hField : sort.field ≠ "") :
    ofText? sort.document.print = some sort := by
  have hRead :
      RawJson.read? sort.document.print.toList =
        some sort.raw := by
    rw [Json.print, String.toList_ofList]
    exact sort.document_readsAs.read?_write
  unfold ofText?
  rw [hRead, Option.bind_eq_bind, Option.bind_some,
    slots?_raw]
  rcases sort with ⟨field, _ | _⟩
  · simp [Slot.optional, RawJson.nullable, RawJson.string?,
      Direction.name, hField]
  · simp [Slot.optional, RawJson.nullable, RawJson.string?,
      Direction.name, hField]

end Sorting

end Dashboard

------------------------------------------------------------
-- Queries
------------------------------------------------------------

namespace Dashboard

/- The parameters for what an interpretation says. -/
def Interpretation.parameters
    (i : Interpretation) : QueryParameters :=
  { dataset := some i.dataset.name
    filters :=
      i.filters.map fun filters =>
        (Filter.documents filters).print
    sort := i.sort.map fun sort => sort.document.print
    limit := i.limit.map fun n => toString n.toNat }

namespace Query

/-
  The parameters of an interpretation ask what it asks, if
  the numbers in its filters are finite and read back, and
  the field that it sorts by has a name.
-/
theorem ofParameters_parameters
    {i : Interpretation}
    (hFinite : ∀ x ∈ i.numbers, x.isFinite = true)
    (hReadsBack : ∀ x ∈ i.numbers, x.ReadsBack)
    (hSort :
      ∀ sort, i.sort = some sort → sort.field ≠ "") :
    ofParameters i.parameters =
      .ok (ofInterpretation i) := by
  have hFilters :
      (i.parameters.filters.map Filter.listOfText).getD [] =
        i.filterList := by
    cases hGiven : i.filters with
    | none =>
        simp [Interpretation.parameters, hGiven,
          Interpretation.filterList]
    | some filters =>
        have hList : i.filterList = filters := by
          simp [Interpretation.filterList, hGiven]
        have hRead :
            Filter.listOfText
                (Filter.documents filters).print =
              filters := by
          apply Filter.listOfText_print
          intro x hMem
          rw [← hList] at hMem
          exact
            JsonNumber.kept_float (hFinite x hMem)
              (hReadsBack x hMem)
        simp [Interpretation.parameters, hGiven, hRead,
          hList]
  have hSorting :
      i.parameters.sort.bind Sorting.ofText? = i.sort := by
    cases hGiven : i.sort with
    | none => simp [Interpretation.parameters, hGiven]
    | some sort =>
        simp [Interpretation.parameters, hGiven,
          Sorting.ofText?_print (hSort sort hGiven)]
  have hLimit :
      i.parameters.limit.bind integerPrefix? =
        i.limit.map fun n => clampInteger n.toNat := by
    cases hGiven : i.limit with
    | none => simp [Interpretation.parameters, hGiven]
    | some n =>
        have hRead :
            integerPrefix? (toString n.toNat) =
              some (clampInteger n.toNat) :=
          integerPrefix?_digitsOf n.toNat
        simp only [Interpretation.parameters, hGiven,
          Option.map_some, Option.bind_some, hRead]
  have hName : i.parameters.dataset.getD "" = i.dataset.name :=
    rfl
  unfold ofParameters
  rw [hFilters, hSorting, hLimit, hName]
  dsimp only
  rw [Dataset.ofName?_name]
  rfl

/- Half a point, for a rating. -/
def sampleRating : Double :=
  .ofDecimal false ⟨5, -1⟩

theorem sampleRating_readsBack : sampleRating.ReadsBack := by
  have hFinite : sampleRating.isFinite = true := by
    decide +kernel
  rw [Double.readsBack_iff_kept hFinite]
  exact
    ⟨⟨false, ['0'], some ['5'], none⟩,
      by decide +kernel, by decide +kernel⟩

/- An interpretation with the greatest limit. -/
def sampleInterpretation : Interpretation where
  component := .table
  dataset := .products
  chart := none
  filters :=
    some
      [⟨"rating", .gte, .number sampleRating⟩,
        ⟨"name", .contains, .text "\"new\""⟩]
  sort := some ⟨"rating", .asc⟩
  limit := some 0xffffffffffffffff
  title := "Products"
  description := ""

/- Its limit is more than an integer with a sign can hold. -/
theorem ofParameters_parameters_sample :
    ofParameters sampleInterpretation.parameters =
        .ok (ofInterpretation sampleInterpretation) ∧
      (ofInterpretation sampleInterpretation).limit =
        some greatestInteger := by
  have hNumbers :
      sampleInterpretation.numbers = [sampleRating] := by
    decide +kernel
  refine ⟨?_, by decide⟩
  apply ofParameters_parameters
  · decide +kernel
  · intro x hMem
    rw [hNumbers] at hMem
    rw [List.mem_singleton.mp hMem]
    exact sampleRating_readsBack
  · intro sort hSort
    cases hSort
    decide

end Query

end Dashboard
