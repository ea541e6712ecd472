import Dashboard.Interpretation.Wire
import Dashboard.Proofs.Filter.Wire

/-
  Interpretations as JSON documents: whoever reads the text of
  an interpretation gets its JSON value.

  Key definitions include:
    * `Interpretation.fields`
    * `Interpretation.document`
    * `Interpretation.print`
    * `Interpretation.numbers`

  Main declarations:
    * `Interpretation.toJson_eq`
    * `Interpretation.sorted_document`
    * `Interpretation.parse?_print`
-/

------------------------------------------------------------
-- Names
------------------------------------------------------------

namespace Dashboard

theorem Component.ofJson?_name (component : Component) :
    ofJson? (.string component.name) = some component := by
  cases component
  all_goals rfl

theorem Dataset.ofJson?_name (dataset : Dataset) :
    ofJson? (.string dataset.name) = some dataset := by
  cases dataset
  all_goals rfl

theorem Chart.ofJson?_name (chart : Chart) :
    ofJson? (.string chart.name) = some chart := by
  cases chart
  all_goals rfl

end Dashboard

------------------------------------------------------------
-- Documents
------------------------------------------------------------

namespace Dashboard

namespace Interpretation

/-
  The fields of an interpretation in their fixed order, each
  with its value unless it is left out.
-/
def fields
    (encodeFilter : Filter → Json)
    (encodeSort : Sorting → Json)
    (i : Interpretation) :
    List (String × Option Json) :=
  [("componentType", some (.string i.component.name)),
    ("datasetType", some (.string i.dataset.name)),
    ("chartType", i.chart.map fun c => .string c.name),
    ("filters", i.filters.map (.ofList encodeFilter)),
    ("sort", i.sort.map encodeSort),
    ("limit", i.limit.map fun n => .ofNat n.toNat),
    ("title", some (.string i.title)),
    ("description", some (.string i.description))]

/- An interpretation with its fields in their order. -/
def document (i : Interpretation) : Json :=
  .object
    (Json.present
      (i.fields Filter.document Sorting.document))

/- The text of an interpretation. -/
def print (i : Interpretation) : String :=
  i.document.print

theorem nodup_names_fields
    (encodeFilter : Filter → Json)
    (encodeSort : Sorting → Json)
    (i : Interpretation) :
    ((i.fields encodeFilter encodeSort).map
      Prod.fst).Nodup := by
  have hNames : fieldNames.Nodup := by decide
  exact hNames

theorem optionalMember_eq
    {α : Type}
    (name : String)
    (encode : α → Json)
    (value : Option α) :
    optionalMember name encode value =
      ((value.map encode).map (name, ·)).toList := by
  cases value with
  | none => rfl
  | some value => rfl

/- The JSON value has the fields that are not left out. -/
theorem toJson_eq (i : Interpretation) :
    i.toJson =
      .ofMembers
        (Json.present
          (i.fields Filter.toJson Sorting.toJson)) := by
  unfold toJson fields
  simp only [Json.present_cons, optionalMember_eq]
  simp [Json.present]

end Interpretation

end Dashboard

------------------------------------------------------------
-- Order Of Documents
------------------------------------------------------------

namespace Dashboard

theorem Json.sortedMembers_present
    (fields : List (String × Option Json)) :
    sortedMembers (present fields) =
      present
        (fields.map fun f => (f.1, f.2.map sorted)) := by
  induction fields with
  | nil => rfl
  | cons f rest ih =>
      rcases f with ⟨name, _ | json⟩
      · exact ih
      · rw [List.map_cons, present_cons, present_cons, ← ih]
        rfl

namespace Interpretation

theorem map_sorted_fields
    (encodeFilter : Filter → Json)
    (encodeSort : Sorting → Json)
    (i : Interpretation) :
    ((i.fields encodeFilter encodeSort).map
        fun f => (f.1, f.2.map Json.sorted)) =
      i.fields (fun f => (encodeFilter f).sorted)
        fun sort => (encodeSort sort).sorted := by
  simp [fields, Function.comp_def, Json.sorted,
    Json.sorted_ofList, Json.ofNat]

/- Put in order, fields are members in their order. -/
theorem sorted_fields
    (encodeFilter : Filter → Json)
    (encodeSort : Sorting → Json)
    (i : Interpretation) :
    (Json.object
        (Json.present
          (i.fields encodeFilter encodeSort))).sorted =
      .ofMembers
        (Json.present
          (i.fields (fun f => (encodeFilter f).sorted)
            fun sort => (encodeSort sort).sorted)) := by
  rw [Json.sorted, Json.sortedMembers_present,
    map_sorted_fields]

/- Put in order, a document is the JSON value. -/
theorem sorted_document (i : Interpretation) :
    i.document.sorted = i.toJson := by
  rw [document, sorted_fields, toJson_eq]
  simp only [Filter.sorted_document, Sorting.sorted_document]

end Interpretation

end Dashboard

------------------------------------------------------------
-- Texts Of Interpretations
------------------------------------------------------------

namespace Dashboard

theorem Json.present_keeps
    {fields : List (String × Option Json)}
    {levels : Nat}
    (hFields :
      ∀ f ∈ fields, ∀ json ∈ f.2, json.Keeps levels) :
    ∀ m ∈ present fields, m.2.Keeps levels := by
  intro m hMem
  rcases List.mem_filterMap.mp hMem with ⟨f, hField, hValue⟩
  rcases Option.map_eq_some_iff.mp hValue with
    ⟨json, hJson, rfl⟩
  exact hFields f hField json hJson

theorem Json.ofList_keeps
    {α : Type}
    {encode : α → Json}
    {values : List α}
    {levels : Nat}
    (hValues : ∀ value ∈ values, (encode value).Keeps levels) :
    (ofList encode values).Keeps (levels + 1) := by
  apply array_keeps
  intro item hItem
  rcases List.mem_map.mp hItem with ⟨value, hMem, rfl⟩
  exact hValues value hMem

namespace Interpretation

/- The numbers in the filters of an interpretation. -/
def numbers (i : Interpretation) : List Double :=
  i.filterList.filterMap fun f => f.operand.number?

theorem ofList_document_keeps
    {filters : List Filter}
    (hKept :
      ∀ x ∈ filters.filterMap fun f => f.operand.number?,
        (JsonNumber.float x).Kept) :
    (Json.ofList Filter.document filters).Keeps 2 := by
  apply Json.ofList_keeps
  intro f hMem
  apply Filter.document_keeps
  intro x hNumber
  exact hKept x (List.mem_filterMap.mpr ⟨f, hMem, hNumber⟩)

theorem ofNat_toNat_keeps
    (n : UInt64)
    (levels : Nat) :
    (Json.ofNat n.toNat).Keeps levels := by
  have hBound := n.toNat_lt
  exact
    Json.number_keeps
      (JsonNumber.kept_integer (by omega) (by omega)) levels

/- Fields are kept when the filters and the sort are. -/
theorem fields_keep
    {encodeFilter : Filter → Json}
    {encodeSort : Sorting → Json}
    {i : Interpretation}
    (hFilters :
      ∀ f ∈ i.filterList, (encodeFilter f).Keeps 1)
    (hSort : ∀ sort, (encodeSort sort).Keeps 1) :
    (Json.object
        (Json.present
          (i.fields encodeFilter encodeSort))).Keeps 3 := by
  apply Json.object_keeps
  apply Json.present_keeps
  intro f hField json hJson
  simp only [fields, List.mem_cons, List.not_mem_nil,
    or_false] at hField
  rcases hField with
    rfl | rfl | rfl | rfl | rfl | rfl | rfl | rfl
  · cases hJson
    exact Json.string_keeps _ 2
  · cases hJson
    exact Json.string_keeps _ 2
  · rcases Option.map_eq_some_iff.mp hJson with
      ⟨chart, _, rfl⟩
    exact Json.string_keeps _ 2
  · rcases Option.map_eq_some_iff.mp hJson with
      ⟨filters, hSome, rfl⟩
    apply Json.ofList_keeps
    intro f hMem
    apply hFilters
    rw [filterList, hSome]
    exact hMem
  · rcases Option.map_eq_some_iff.mp hJson with
      ⟨sort, _, rfl⟩
    exact (hSort sort).mono (by decide)
  · rcases Option.map_eq_some_iff.mp hJson with
      ⟨limit, _, rfl⟩
    exact ofNat_toNat_keeps limit 2
  · cases hJson
    exact Json.string_keeps _ 2
  · cases hJson
    exact Json.string_keeps _ 2

theorem mem_numbers
    {i : Interpretation}
    {f : Filter}
    {x : Double}
    (hMem : f ∈ i.filterList)
    (hNumber : f.operand.number? = some x) :
    x ∈ i.numbers :=
  List.mem_filterMap.mpr ⟨f, hMem, hNumber⟩

/-
  A document is kept when the numbers in its filters are
  finite and read back.
-/
theorem document_keeps
    {i : Interpretation}
    (hFinite : ∀ x ∈ i.numbers, x.isFinite = true)
    (hReadsBack : ∀ x ∈ i.numbers, x.ReadsBack) :
    i.document.Keeps 3 := by
  apply fields_keep _ Sorting.document_keeps
  intro f hMem
  apply Filter.document_keeps
  intro x hNumber
  have hIn := mem_numbers hMem hNumber
  exact
    JsonNumber.kept_float (hFinite x hIn) (hReadsBack x hIn)

/-
  The text of an interpretation whose numbers are finite and
  read back is a text of its JSON value.
-/
theorem parse?_print
    {i : Interpretation}
    (hFinite : ∀ x ∈ i.numbers, x.isFinite = true)
    (hReadsBack : ∀ x ∈ i.numbers, x.ReadsBack) :
    Json.parse? i.print = some i.toJson := by
  have hDocument := document_keeps hFinite hReadsBack
  have hKeeps : i.document.Keeps RawJson.deepestNesting :=
    hDocument.mono (by decide)
  rw [print, Json.parse?_print hKeeps, sorted_document]

end Interpretation

end Dashboard
