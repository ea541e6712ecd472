import Dashboard.Proofs.Interpretation.Validity
import Dashboard.Proofs.Interpretation.Wire
import Dashboard.Proofs.Reply.Reader
import Dashboard.Proofs.Reply.Shape

/-
  Which objects of a reply are accepted: those, and only
  those, that are JSON of the right shape.  Whatever has the
  shape can be read, and what is read says what the object
  says.

  Key definitions include:
    * `Operand.IsGivenBy`
    * `Filter.IsGivenBy`
    * `Reply.Tells`

  Main declarations:
    * `Filter.exists_ofJson?_of_conforms`
    * `Reply.exists_interpretationOf?_of_conforms`
    * `Reply.readObject_cases`
    * `Reply.exists_readObject_eq_ok_iff_conforms`
-/

------------------------------------------------------------
-- Filters
------------------------------------------------------------

namespace Dashboard

/- The operand that a JSON number or string gives. -/
inductive Operand.IsGivenBy : Operand → Json → Prop where
  | number (n : JsonNumber) :
      IsGivenBy (.number n.toDouble) (.number n)
  | text (value : String) :
      IsGivenBy (.text value) (.string value)

/- The filter that an object gives, part by part. -/
structure Filter.IsGivenBy
    (filter : Filter)
    (json : Json) : Prop where
  field : json.member? "field" = some (.string filter.field)
  operator :
    json.member? "operator" =
      some (.string filter.operator.name)
  operand :
    ∃ value,
      json.member? "value" = some value ∧
        filter.operand.IsGivenBy value

theorem Operand.exists_ofJson?_of_conforms
    {json : Json}
    (hConforms : Shape.numberOrText.Conforms json) :
    ∃ operand : Operand,
      Operand.ofJson? json = some operand ∧
        operand.IsGivenBy json := by
  cases hConforms with
  | ofNumber n => exact ⟨_, rfl, .number n⟩
  | ofText value => exact ⟨_, rfl, .text value⟩

/- The operators that a reply may use. -/
def Operator.offered : List Operator :=
  [gt, gte, lt, lte, eq, contains]

theorem Operator.ne_neq_of_mem_offered
    {operator : Operator}
    (hMem : operator ∈ offered) :
    operator ≠ .neq := by
  rintro rfl
  revert hMem
  decide

theorem Json.slots?_object
    (names : List String)
    (members : List (String × Json)) :
    slots? names (object members) =
      some
        (names.map fun name =>
          Slot.ofOption ((object members).member? name)) := by
  have hSlots :
      Slot.ofMember members =
        fun name =>
          Slot.ofOption ((object members).member? name) := by
    funext name
    exact Slot.ofMember_eq_ofOption members name
  rw [slots?, hSlots]

/- A filter of the right shape can be read. -/
theorem Filter.exists_ofJson?_of_conforms
    {json : Json}
    (hConforms : Shape.filter.Conforms json) :
    ∃ filter : Filter,
      Filter.ofJson? json = some filter ∧
        filter.IsGivenBy json ∧
          filter.operator ≠ .neq := by
  rcases hConforms.exists_object with ⟨members, rfl⟩
  rcases hConforms.exists_member "field" (by decide)
      (.head _) with
    ⟨_, hField, hText⟩
  rcases hText.exists_of_text with ⟨field, rfl⟩
  rcases hConforms.exists_member "operator" (by decide)
      (.tail _ (.head _)) with
    ⟨_, hOperator, hNames⟩
  rcases
    Shape.Conforms.exists_of_names Operator.offered
      Operator.name hNames with
    ⟨operator, hOffered, rfl⟩
  rcases hConforms.exists_member "value" (by decide)
      (.tail _ (.tail _ (.head _))) with
    ⟨value, hValue, hOperand⟩
  rcases Operand.exists_ofJson?_of_conforms hOperand with
    ⟨operand, hRead, hGiven⟩
  refine
    ⟨⟨field, operator, operand⟩, ?_,
      ⟨hField, hOperator, value, hValue, hGiven⟩,
      Operator.ne_neq_of_mem_offered hOffered⟩
  rw [ofJson?, Json.slots?_object]
  simp only [List.map_cons, List.map_nil, hField, hOperator,
    hValue, Slot.ofOption, Slot.required, Json.string?,
    Operator.ofJson?_name, hRead, Option.bind_eq_bind,
    Option.bind_some]
  rfl

end Dashboard

------------------------------------------------------------
-- Lists Of Filters
------------------------------------------------------------

namespace Dashboard

/- The filters that the items of a list give, in order. -/
def Filter.AreGivenBy
    (filters : List Filter)
    (items : List Json) : Prop :=
  List.Forall₂ Filter.IsGivenBy filters items

/- Filters of the right shape can be read one by one. -/
theorem Filter.exists_mapM_of_conforms
    {items : List Json}
    (hItems : ∀ json ∈ items, Shape.filter.Conforms json) :
    ∃ filters : List Filter,
      items.mapM Filter.ofJson? = some filters ∧
        Filter.AreGivenBy filters items ∧
          ∀ f ∈ filters, f.operator ≠ .neq := by
  induction items with
  | nil => exact ⟨[], rfl, .nil, List.forall_mem_nil _⟩
  | cons json rest ih =>
      rw [List.forall_mem_cons] at hItems
      rcases Filter.exists_ofJson?_of_conforms hItems.1 with
        ⟨filter, hFirst, hGiven, hOperator⟩
      rcases ih hItems.2 with
        ⟨filters, hRest, hAllGiven, hOperators⟩
      refine
        ⟨filter :: filters, ?_, .cons hGiven hAllGiven,
          List.forall_mem_cons.mpr ⟨hOperator, hOperators⟩⟩
      rw [List.mapM_cons, hFirst, hRest]
      rfl

end Dashboard

------------------------------------------------------------
-- Interpretations
------------------------------------------------------------

namespace Dashboard

namespace Reply

/-
  What an object says about an interpretation: its component,
  dataset, title and description, its filters in order and
  without the operator that is never offered, and, for a
  chart, the kind of chart, which is a bar chart if nothing
  is said about it.  Nothing is said about an order.
-/
structure Tells
    (json : Json)
    (i : Interpretation) : Prop where
  component :
    json.member? "componentType" =
      some (.string i.component.name)
  dataset :
    json.member? "datasetType" =
      some (.string i.dataset.name)
  title : json.member? "title" = some (.string i.title)
  description :
    json.member? "description" =
      some (.string i.description)
  filters :
    ∃ items,
      (json.member? "filters").getD (.array []) =
          .array items ∧
        Filter.AreGivenBy i.filterList items
  operators : ∀ f ∈ i.filterList, f.operator ≠ .neq
  chart :
    ∃ given : Option Chart,
      json.member? "chartType" =
          given.map (fun c => .string c.name) ∧
        i.chart =
          if i.component = .chart then
            some (given.getD .bar)
          else
            none
  sort : i.sort = none
  limit : i.limit = none

/- The list of filters is there, or counts as empty. -/
theorem exists_filters_of_conforms
    {json : Json}
    (hConforms : Shape.interpretation.Conforms json) :
    ∃ filters : Option (List Filter),
      (Slot.ofOption (json.member? "filters")).defaulted none
            (Json.nullable (Json.list? Filter.ofJson?)) =
          some filters ∧
        (∃ items,
          (json.member? "filters").getD (.array []) =
              .array items ∧
            Filter.AreGivenBy (filters.getD []) items) ∧
          ∀ f ∈ filters.getD [], f.operator ≠ .neq := by
  cases hValue : json.member? "filters" with
  | none =>
      exact
        ⟨none, rfl, ⟨[], rfl, .nil⟩, List.forall_mem_nil _⟩
  | some value =>
      have hList : (Shape.list .filter).Conforms value :=
        hConforms.member
          (.tail _ (.tail _ (.tail _ (.tail _ (.head _)))))
          hValue
      cases hList with
      | list hItems =>
          rcases Filter.exists_mapM_of_conforms hItems with
            ⟨filters, hRead, hGiven, hOperators⟩
          refine
            ⟨some filters, ?_, ⟨_, rfl, hGiven⟩, hOperators⟩
          exact congrArg (Option.map some) hRead

/- The kind of chart is a name, or nothing is said. -/
theorem exists_chart_of_conforms
    {json : Json}
    (hConforms : Shape.interpretation.Conforms json) :
    ∃ given : Option Chart,
      json.member? "chartType" =
        given.map fun c => .string c.name := by
  cases hValue : json.member? "chartType" with
  | none => exact ⟨none, rfl⟩
  | some value =>
      rcases
        Shape.Conforms.exists_of_names Chart.all Chart.name
          (hConforms.member (.head _) hValue) with
        ⟨chart, _, rfl⟩
      exact ⟨some chart, rfl⟩

/- The members that have to be there say what they should. -/
theorem exists_required_of_conforms
    {json : Json}
    (hConforms : Shape.interpretation.Conforms json) :
    ∃ (component : Component) (dataset : Dataset)
      (title description : String),
      json.member? "componentType" =
          some (.string component.name) ∧
        json.member? "datasetType" =
            some (.string dataset.name) ∧
          json.member? "title" = some (.string title) ∧
            json.member? "description" =
              some (.string description) := by
  rcases hConforms.exists_member "componentType" (by decide)
      (.tail _ (.head _)) with
    ⟨_, hComponent, hComponents⟩
  rcases hConforms.exists_member "datasetType" (by decide)
      (.tail _ (.tail _ (.head _))) with
    ⟨_, hDataset, hDatasets⟩
  rcases hConforms.exists_member "title" (by decide)
      (.tail _ (.tail _ (.tail _ (.tail _ (.tail _
        (.head _)))))) with
    ⟨_, hTitle, hTitleText⟩
  rcases hConforms.exists_member "description" (by decide)
      (.tail _ (.tail _ (.tail _ (.head _)))) with
    ⟨_, hDescription, hDescriptionText⟩
  rcases
    Shape.Conforms.exists_of_names Component.all
      Component.name hComponents with
    ⟨component, _, rfl⟩
  rcases
    Shape.Conforms.exists_of_names Dataset.all Dataset.name
      hDatasets with
    ⟨dataset, _, rfl⟩
  rcases hTitleText.exists_of_text with ⟨title, rfl⟩
  rcases hDescriptionText.exists_of_text with
    ⟨description, rfl⟩
  exact
    ⟨component, dataset, title, description, hComponent,
      hDataset, hTitle, hDescription⟩

/- A repair leaves the filters as they are. -/
theorem filterList_normalize (i : Interpretation) :
    i.normalize.filterList = i.filterList := by
  unfold Interpretation.filterList Interpretation.normalize
  dsimp only
  split
  · rename_i hEmpty
    rw [hEmpty]
    rfl
  · rfl

/-
  An object of the right shape can be read, and what is read
  says, once it is repaired, what the object says.
-/
theorem exists_interpretationOf?_of_conforms
    {json : Json}
    (hConforms : Shape.interpretation.Conforms json) :
    ∃ i : Interpretation,
      interpretationOf? json = some i ∧
        Tells json i.normalize := by
  rcases exists_required_of_conforms hConforms with
    ⟨component, dataset, title, description, hComponent,
      hDataset, hTitle, hDescription⟩
  rcases exists_chart_of_conforms hConforms with
    ⟨given, hChart⟩
  rcases exists_filters_of_conforms hConforms with
    ⟨filters, hReadFilters, hGiven, hOperators⟩
  have hReadChart :=
    Slot.defaulted_ofOption
      (fun c : Chart => Json.noConfusion)
      Chart.ofJson?_name given
  have hSlots :
      json.slots?
          ["componentType", "datasetType", "chartType",
            "filters", "title", "description"] =
        some
          [.given (.string component.name),
            .given (.string dataset.name),
            .ofOption (given.map fun c => .string c.name),
            .ofOption (json.member? "filters"),
            .given (.string title),
            .given (.string description)] := by
    rcases hConforms.exists_object with ⟨members, rfl⟩
    rw [Json.slots?_object]
    simp only [List.map_cons, List.map_nil, hComponent,
      hDataset, hTitle, hDescription, hChart]
    rfl
  refine
    ⟨⟨component, dataset, given, filters, none, none, title,
      description⟩, ?_, ?_⟩
  · rw [interpretationOf?, hSlots]
    simp only [Slot.required, Json.string?,
      Component.ofJson?_name, Dataset.ofJson?_name,
      hReadChart, hReadFilters, Option.bind_eq_bind,
      Option.bind_some]
    rfl
  · exact
      { component := hComponent
        dataset := hDataset
        title := hTitle
        description := hDescription
        filters := by
          rw [filterList_normalize]
          exact hGiven
        operators := by
          rw [filterList_normalize]
          exact hOperators
        chart := ⟨given, hChart, rfl⟩
        sort := rfl
        limit := rfl }

end Reply

end Dashboard

------------------------------------------------------------
-- Objects
------------------------------------------------------------

namespace Dashboard

namespace Reply

/- A text of the right shape is read and repaired. -/
theorem readObject_of_conforms
    {text : List Char}
    {json : Json}
    (hParse :
      Json.parse? (String.ofList text) = some json)
    (hConforms : Shape.interpretation.Conforms json) :
    ∃ i, readObject text = .ok i ∧ Tells json i := by
  rcases exists_interpretationOf?_of_conforms hConforms with
    ⟨i, hRead, hTells⟩
  have hIssues :=
    (Shape.issues_eq_nil_iff _ json).mpr hConforms
  refine ⟨i.normalize, ?_, hTells⟩
  simp only [readObject, hParse, hIssues, hRead]

/- A text of another shape is reported with its issues. -/
theorem readObject_of_not_conforms
    {text : List Char}
    {json : Json}
    (hParse :
      Json.parse? (String.ofList text) = some json)
    (hConforms : ¬ Shape.interpretation.Conforms json) :
    readObject text =
      .error (.mismatch (Shape.interpretation.issues json)) := by
  simp only [readObject, hParse]
  split
  · rename_i hNone
    exact
      absurd ((Shape.issues_eq_nil_iff _ json).mp hNone)
        hConforms
  · rfl

/- A text that is no JSON is reported as it is. -/
theorem readObject_of_parse?_eq_none
    {text : List Char}
    (hParse : Json.parse? (String.ofList text) = none) :
    readObject text =
      .error (.invalidJson (String.ofList text)) := by
  simp only [readObject, hParse]

/- Every text is no JSON, of another shape, or accepted. -/
theorem readObject_cases (text : List Char) :
    Json.parse? (String.ofList text) = none ∧
        readObject text =
          .error (.invalidJson (String.ofList text)) ∨
      ∃ json,
        Json.parse? (String.ofList text) = some json ∧
          (¬ Shape.interpretation.Conforms json ∧
              readObject text =
                .error
                  (.mismatch
                    (Shape.interpretation.issues json)) ∨
            Shape.interpretation.Conforms json ∧
              ∃ i,
                readObject text = .ok i ∧ Tells json i) := by
  cases hParse : Json.parse? (String.ofList text) with
  | none =>
      exact .inl ⟨rfl, readObject_of_parse?_eq_none hParse⟩
  | some json =>
      refine .inr ⟨json, rfl, ?_⟩
      by_cases hConforms : Shape.interpretation.Conforms json
      · exact
          .inr
            ⟨hConforms, readObject_of_conforms hParse hConforms⟩
      · exact
          .inl
            ⟨hConforms,
              readObject_of_not_conforms hParse hConforms⟩

theorem exists_tells_of_readObject
    {text : List Char}
    {i : Interpretation}
    (hRead : readObject text = .ok i) :
    ∃ json,
      Json.parse? (String.ofList text) = some json ∧
        Shape.interpretation.Conforms json ∧
          Tells json i := by
  rcases readObject_cases text with
    ⟨_, hOther⟩ |
      ⟨json, hParse, ⟨_, hOther⟩ |
        ⟨hConforms, j, hOther, hTells⟩⟩
  · rw [hRead] at hOther
    cases hOther
  · rw [hRead] at hOther
    cases hOther
  · rw [hRead] at hOther
    cases hOther
    exact ⟨json, hParse, hConforms, hTells⟩

theorem exists_of_readObject_eq_mismatch
    {text : List Char}
    {issues : List String}
    (hRead : readObject text = .error (.mismatch issues)) :
    ∃ json,
      Json.parse? (String.ofList text) = some json ∧
        ¬ Shape.interpretation.Conforms json ∧
          issues = Shape.interpretation.issues json := by
  rcases readObject_cases text with
    ⟨_, hOther⟩ |
      ⟨json, hParse, ⟨hConforms, hOther⟩ | ⟨_, j, hOther, _⟩⟩
  · rw [hRead] at hOther
    cases hOther
  · rw [hRead] at hOther
    cases hOther
    exact ⟨json, hParse, hConforms, rfl⟩
  · rw [hRead] at hOther
    cases hOther

/-
  A text is accepted exactly if it is JSON of the right
  shape: whatever has the shape can be read, so that an
  object is refused only for issues that are reported.  What
  is accepted is valid and says what the object says.
-/
theorem exists_readObject_eq_ok_iff_conforms
    (text : List Char) :
    ((∃ i, readObject text = .ok i) ↔
        ∃ json,
          Json.parse? (String.ofList text) = some json ∧
            Shape.interpretation.Conforms json) ∧
      (∀ json,
        Shape.interpretation.Conforms json →
          ∃ i, interpretationOf? json = some i) ∧
        (∀ issues,
          readObject text = .error (.mismatch issues) →
            issues ≠ []) ∧
          ∀ i,
            readObject text = .ok i →
              i.validate = .ok () ∧
                ∃ json,
                  Json.parse? (String.ofList text) =
                      some json ∧
                    Tells json i := by
  refine ⟨⟨?_, ?_⟩, ?_, ?_, ?_⟩
  · rintro ⟨i, hRead⟩
    rcases exists_tells_of_readObject hRead with
      ⟨json, hParse, hConforms, _⟩
    exact ⟨json, hParse, hConforms⟩
  · rintro ⟨json, hParse, hConforms⟩
    rcases readObject_of_conforms hParse hConforms with
      ⟨i, hRead, _⟩
    exact ⟨i, hRead⟩
  · intro json hConforms
    rcases exists_interpretationOf?_of_conforms hConforms with
      ⟨i, hRead, _⟩
    exact ⟨i, hRead⟩
  · intro issues hRead
    rcases exists_of_readObject_eq_mismatch hRead with
      ⟨json, _, hConforms, rfl⟩
    rwa [Ne, Shape.issues_eq_nil_iff]
  · intro i hRead
    rcases exists_tells_of_readObject hRead with
      ⟨json, hParse, _, hTells⟩
    have hValid := valid_of_readObject hRead
    exact
      ⟨(Interpretation.validate_eq_ok_iff i).mpr hValid,
        json, hParse, hTells⟩

/- A chart of users without a kind, told with an order. -/
def toldChart : List Char :=
  ("\x7b\"componentType\":\"chart\",\"title\":\"t\"," ++
    "\"datasetType\":\"users\",\"description\":\"d\"," ++
    "\"filters\":[\x7b\"field\":\"f\",\"operator\":\"gt\"," ++
    "\"value\":5\x7d],\"limit\":3,\"sort\":null\x7d").toList

/- The bar chart that is read, without the order. -/
def readChart : Interpretation :=
  ⟨.chart, .users, some .bar,
    some [⟨"f", .gt, .number (.ofInt 5)⟩], none, none, "t",
    "d"⟩

/- The chart is accepted, an empty object is not. -/
theorem exists_readObject_eq_ok_iff_conforms_chart :
    readObject toldChart = .ok readChart ∧
      (∃ json,
        Json.parse? (String.ofList toldChart) = some json ∧
          Shape.interpretation.Conforms json ∧
          (∃ i, interpretationOf? json = some i)) ∧
        (readChart.validate = .ok () ∧
          ∃ json,
            Json.parse? (String.ofList toldChart) =
                some json ∧
              Tells json readChart) ∧
          ∃ issues,
            readObject "\x7b\x7d".toList =
                .error (.mismatch issues) ∧
              issues ≠ [] := by
  have hRead : readObject toldChart = .ok readChart := by
    decide +kernel
  have hEmpty :
      readObject "\x7b\x7d".toList =
        .error
          (.mismatch
            ["\"componentType\" is a required property",
              "\"datasetType\" is a required property",
              "\"title\" is a required property",
              "\"description\" is a required property"]) := by
    decide +kernel
  have hChart := exists_readObject_eq_ok_iff_conforms toldChart
  have hNone :=
    exists_readObject_eq_ok_iff_conforms "\x7b\x7d".toList
  rcases hChart.1.mp ⟨readChart, hRead⟩ with
    ⟨json, hParse, hConforms⟩
  exact
    ⟨hRead, ⟨json, hParse, hConforms, hChart.2.1 json hConforms⟩,
      hChart.2.2.2 readChart hRead, _, hEmpty,
      hNone.2.2.1 _ hEmpty⟩

end Reply

end Dashboard
