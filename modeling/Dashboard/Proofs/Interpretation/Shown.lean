import Dashboard.Proofs.Interpretation.Wire

/-
  Interpretations that are written and read again.  A number
  that is not finite is written as `null`, and no filter has
  that as its operand; everything else is read back.

  Key definitions include:
    * `Operand.isFinite`
    * `Operand.shown`
    * `Filter.shown`

  Main declarations:
    * `Filter.ofJson?_shown`
    * `Interpretation.parse?_print_shown`
    * `Interpretation.bind_ofJson?_print`
-/

------------------------------------------------------------
-- Texts Of Arrays And Objects
------------------------------------------------------------

namespace Dashboard

namespace Json

theorem writeMoreItems_eq (items : List Json) :
    writeMoreItems items =
      ((items.map write).flatMap fun text => ',' :: text) ++
        [']'] := by
  induction items with
  | nil => rfl
  | cons item rest ih => simp [writeMoreItems, ih]

theorem writeMoreMembers_eq
    (members : List (String × Json)) :
    writeMoreMembers members =
      ((members.map fun m => (m.1, m.2.write)).flatMap fun m =>
          ',' :: writeString m.1.toList ++ ':' :: m.2) ++
        ['\x7d'] := by
  induction members with
  | nil => rfl
  | cons m rest ih => simp [writeMoreMembers, ih]

/- An array is written by what its items are written as. -/
theorem write_array_congr
    {items others : List Json}
    (hSame : items.map write = others.map write) :
    (array items).write = (array others).write := by
  cases items with
  | nil =>
      cases List.map_eq_nil_iff.mp hSame.symm
      rfl
  | cons item rest =>
      rcases List.map_eq_cons_iff.mp hSame.symm with
        ⟨other, more, rfl, hFirst, hRest⟩
      simp only [write, writeItems, writeMoreItems_eq, hFirst,
        hRest]

/- An object is written by what its values are written as. -/
theorem write_object_congr
    {members others : List (String × Json)}
    (hSame :
      members.map (fun m => (m.1, m.2.write)) =
        others.map fun m => (m.1, m.2.write)) :
    (object members).write = (object others).write := by
  cases members with
  | nil =>
      cases List.map_eq_nil_iff.mp hSame.symm
      rfl
  | cons m rest =>
      rcases List.map_eq_cons_iff.mp hSame.symm with
        ⟨other, more, rfl, hFirst, hRest⟩
      rcases Prod.mk.inj hFirst with ⟨hName, hValue⟩
      simp only [write, writeMembers, writeMoreMembers_eq,
        hName, hValue, hRest]

/- A list in which each value may be read or not. -/
theorem list?_ofList_eq_ite
    {α : Type}
    {encode : α → Json}
    {read : Json → Option α}
    {good : α → Prop}
    [DecidablePred good]
    (hRead :
      ∀ value,
        read (encode value) =
          if good value then some value else none)
    (values : List α) :
    list? read (ofList encode values) =
      if ∀ value ∈ values, good value then
        some values
      else
        none := by
  rw [ofList, list?]
  induction values with
  | nil => rfl
  | cons value rest ih =>
      rw [List.map_cons, List.mapM_cons, hRead, ih]
      by_cases hFirst : good value
      · by_cases hRest : ∀ value ∈ rest, good value
        · rw [if_pos hFirst, if_pos hRest,
            if_pos (List.forall_mem_cons.mpr ⟨hFirst, hRest⟩)]
          rfl
        · rw [if_pos hFirst, if_neg hRest,
            if_neg fun hAll =>
              hRest (List.forall_mem_cons.mp hAll).2]
          rfl
      · rw [if_neg hFirst,
          if_neg fun hAll =>
            hFirst (List.forall_mem_cons.mp hAll).1]
        rfl

end Json

end Dashboard

------------------------------------------------------------
-- Operands
------------------------------------------------------------

namespace Dashboard

namespace Operand

/- Whether an operand is a text or a finite number. -/
def isFinite : Operand → Bool
  | number value => value.isFinite
  | text _ => true

/- The JSON value that the text of an operand stands for. -/
def shown : Operand → Json
  | number value =>
      if value.isFinite then .ofDouble value else .null
  | text value => .string value

theorem write_shown (operand : Operand) :
    operand.shown.write = operand.toJson.write := by
  cases operand with
  | number value =>
      rw [shown, toJson]
      split
      · rfl
      · rename_i hInfinite
        rw [Json.ofDouble, Json.write, Json.write,
          Json.writeNumber, if_neg hInfinite]
  | text value => rfl

theorem sorted_shown (operand : Operand) :
    operand.shown.sorted = operand.shown := by
  cases operand with
  | number value =>
      rw [shown]
      split
      · rfl
      · rfl
  | text value => rfl

/- An infinity is not read back. -/
theorem ofJson?_shown (operand : Operand) :
    ofJson? operand.shown =
      if operand.isFinite then some operand else none := by
  cases operand with
  | number value =>
      rw [shown, isFinite]
      split
      · rfl
      · rfl
  | text value => rfl

theorem shown_keeps
    {operand : Operand}
    (hReadsBack :
      ∀ x, operand.number? = some x → x.ReadsBack)
    (levels : Nat) :
    operand.shown.Keeps levels := by
  cases operand with
  | number value =>
      rw [shown]
      split
      · rename_i hFinite
        exact
          Json.number_keeps
            (JsonNumber.kept_float hFinite
              (hReadsBack value rfl))
            levels
      · constructor
        · exact Nat.zero_le levels
        · rintro n ⟨⟩
  | text value => exact Json.string_keeps value levels

end Operand

end Dashboard

------------------------------------------------------------
-- Filters And Sorts
------------------------------------------------------------

namespace Dashboard

namespace Filter

/- The document that the text of a filter stands for. -/
def shown (filter : Filter) : Json :=
  .object
    [("field", .string filter.field),
      ("operator", .string filter.operator.name),
      ("value", filter.operand.shown)]

theorem write_shown (filter : Filter) :
    filter.shown.write = filter.document.write := by
  apply Json.write_object_congr
  simp only [members, List.map_cons, List.map_nil,
    filter.operand.write_shown]

theorem shown_keeps
    {filter : Filter}
    (hReadsBack :
      ∀ x, filter.operand.number? = some x → x.ReadsBack) :
    filter.shown.Keeps 1 := by
  apply Json.object_keeps
  intro m hMem
  simp only [List.mem_cons, List.not_mem_nil, or_false]
    at hMem
  rcases hMem with rfl | rfl | rfl
  · exact Json.string_keeps _ 0
  · exact Json.string_keeps _ 0
  · exact Operand.shown_keeps hReadsBack 0

/- A filter is read back unless its operand is not. -/
theorem ofJson?_shown (filter : Filter) :
    ofJson? filter.shown.sorted =
      if filter.operand.isFinite then
        some filter
      else
        none := by
  have hSorted :
      filter.shown.sorted =
        .ofMembers
          [("field", .string filter.field),
            ("operator", .string filter.operator.name),
            ("value", filter.operand.shown)] := by
    rw [shown, Json.sorted, Json.sortedMembers_eq_map]
    simp only [List.map_cons, List.map_nil, Json.sorted,
      filter.operand.sorted_shown]
  have hSlots :
      filter.shown.sorted.slots?
          ["field", "operator", "value"] =
        some
          [.given (.string filter.field),
            .given (.string filter.operator.name),
            .given filter.operand.shown] := by
    have hNames :
        (["field", "operator", "value"] : List String).Nodup :=
      by decide
    rw [hSorted]
    exact Json.slots?_ofMembers _ (by exact hNames) _
  have hOperator := filter.operator.ofJson?_name
  rw [ofJson?, hSlots]
  simp only [Slot.required, Json.string?, hOperator,
    filter.operand.ofJson?_shown, Option.bind_eq_bind,
    Option.bind_some]
  split
  · rfl
  · rfl

end Filter

/- A sort is read back from its JSON value. -/
theorem Sorting.ofJson?_toJson (sort : Sorting) :
    ofJson? sort.toJson = some sort := by
  have hDirection :
      Direction.ofName? sort.direction.name =
        some sort.direction := by
    cases sort.direction
    all_goals rfl
  have hNames :
      (["field", "direction"] : List String).Nodup := by
    decide
  have hSlots :
      sort.toJson.slots? ["field", "direction"] =
        some
          [.given (.string sort.field),
            .given (.string sort.direction.name)] :=
    Json.slots?_ofMembers _ (by exact hNames) _
  rw [ofJson?, hSlots]
  simp only [Slot.required, Json.string?, Json.name?,
    hDirection, Option.bind_eq_bind, Option.bind_some]
  rfl

end Dashboard

------------------------------------------------------------
-- Interpretations
------------------------------------------------------------

namespace Dashboard

namespace Interpretation

theorem limitOfJson?_ofNat (n : UInt64) :
    limitOfJson? (.ofNat n.toNat) = some n := by
  have hBound : n.toNat < Nat.pow 2 64 := n.toNat_lt
  have hNatural :
      (Json.ofNat n.toNat).natural? 64 = some n.toNat := by
    rw [Json.ofNat, Json.natural?, if_pos]
    · rfl
    · rw [Bool.and_eq_true, decide_eq_true_eq,
        decide_eq_true_eq]
      omega
  rw [limitOfJson?, hNatural]
  exact congrArg some (UInt64.ofNat_toNat)

/- What is read of fields, whatever stands for the filters. -/
theorem ofJson?_fields
    (encodeFilter : Filter → Json)
    (i : Interpretation) :
    ofJson?
        (.ofMembers
          (Json.present
            (i.fields encodeFilter Sorting.toJson))) =
      ((Slot.ofOption
          (i.filters.map (.ofList encodeFilter))).defaulted
            none
            (Json.nullable (Json.list? Filter.ofJson?))).map
        fun filters => { i with filters := filters } := by
  have hNames :=
    i.nodup_names_fields encodeFilter Sorting.toJson
  have hComponent := i.component.ofJson?_name
  have hDataset := i.dataset.ofJson?_name
  have hChart :=
    Slot.defaulted_ofOption
      (fun c : Chart => Json.noConfusion)
      Chart.ofJson?_name i.chart
  have hSort :=
    Slot.defaulted_ofOption
      (fun sort : Sorting => Json.noConfusion)
      Sorting.ofJson?_toJson i.sort
  have hLimit :=
    Slot.defaulted_ofOption
      (fun n : UInt64 => Json.noConfusion)
      limitOfJson?_ofNat i.limit
  have hSlots :
      (Json.ofMembers
          (Json.present
            (i.fields encodeFilter Sorting.toJson))).slots?
          fieldNames =
        some
          [.given (.string i.component.name),
            .given (.string i.dataset.name),
            .ofOption (i.chart.map fun c => .string c.name),
            .ofOption (i.filters.map (.ofList encodeFilter)),
            .ofOption (i.sort.map Sorting.toJson),
            .ofOption (i.limit.map fun n => .ofNat n.toNat),
            .given (.string i.title),
            .given (.string i.description)] := by
    rw [Json.slots?_ofMembers _
      (Json.nodup_names_present hNames)]
    simp only [Json.memberIn?_present hNames]
    rfl
  rw [ofJson?, hSlots]
  simp only [Slot.required, Json.string?, hComponent,
    hDataset, hChart, hSort, hLimit, Option.bind_eq_bind,
    Option.bind_some]
  cases (Slot.ofOption
      (i.filters.map (Json.ofList encodeFilter))).defaulted
        none (Json.nullable (Json.list? Filter.ofJson?)) with
  | none => rfl
  | some filters => rfl

/-
  What is read of fields when each filter is read back or not
  at all.
-/
theorem ofJson?_fields_eq_ite
    {encodeFilter : Filter → Json}
    {good : Filter → Prop}
    [DecidablePred good]
    (hRead :
      ∀ f,
        Filter.ofJson? (encodeFilter f) =
          if good f then some f else none)
    (i : Interpretation) :
    ofJson?
        (.ofMembers
          (Json.present
            (i.fields encodeFilter Sorting.toJson))) =
      if ∀ f ∈ i.filterList, good f then some i else none := by
  rw [ofJson?_fields, filterList]
  rcases i with ⟨component, dataset, chart, filters, sort,
    limit, title, description⟩
  cases filters with
  | none =>
      rw [if_pos]
      · rfl
      · rintro f ⟨⟩
  | some filters =>
      have hList := Json.list?_ofList_eq_ite hRead filters
      rw [Json.ofList] at hList
      simp only [Option.map_some, Slot.ofOption,
        Slot.defaulted, Json.nullable, Json.ofList,
        Option.getD_some, hList]
      split
      · rfl
      · rfl

end Interpretation

end Dashboard

------------------------------------------------------------
-- Texts Of Interpretations
------------------------------------------------------------

namespace Dashboard

theorem Json.map_write_present
    (fields : List (String × Option Json)) :
    (present fields).map (fun m => (m.1, m.2.write)) =
      fields.filterMap fun f =>
        (f.2.map write).map fun text => (f.1, text) := by
  unfold present
  rw [List.map_filterMap]
  simp only [Option.map_map]
  rfl

namespace Interpretation

/- Filters that are written alike leave the text as it is. -/
theorem write_fields_congr
    {encodeFilter other : Filter → Json}
    (hSame :
      ∀ f, (encodeFilter f).write = (other f).write)
    (encodeSort : Sorting → Json)
    (i : Interpretation) :
    (Json.object
        (Json.present
          (i.fields encodeFilter encodeSort))).write =
      (Json.object
        (Json.present (i.fields other encodeSort))).write := by
  have hFilters :
      (i.filters.map (.ofList encodeFilter)).map Json.write =
        (i.filters.map (.ofList other)).map Json.write := by
    rw [Option.map_map, Option.map_map]
    congr 1
    funext filters
    apply Json.write_array_congr
    rw [List.map_map, List.map_map]
    exact List.map_congr_left fun f _ => hSame f
  apply Json.write_object_congr
  rw [Json.map_write_present, Json.map_write_present]
  simp only [fields, List.filterMap_cons, hFilters]

/-
  The text of an interpretation is one of its JSON value with
  `null` for the numbers that are not finite.
-/
theorem parse?_print_shown
    {i : Interpretation}
    (hReadsBack : ∀ x ∈ i.numbers, x.ReadsBack) :
    Json.parse? i.print =
      some
        (.ofMembers
          (Json.present
            (i.fields (fun f => f.shown.sorted)
              Sorting.toJson))) := by
  have hShown :
      (Json.object
          (Json.present
            (i.fields Filter.shown Sorting.document))).Keeps
        RawJson.deepestNesting := by
    refine (fields_keep ?_ Sorting.document_keeps).mono
      (by decide)
    intro f hMem
    apply Filter.shown_keeps
    intro x hNumber
    exact hReadsBack x (mem_numbers hMem hNumber)
  have hParse := Json.parse?_print hShown
  rw [sorted_fields, Json.print,
    write_fields_congr Filter.write_shown] at hParse
  exact hParse

theorem forall_isFinite_iff (i : Interpretation) :
    (∀ f ∈ i.filterList, f.operand.isFinite = true) ↔
      ∀ x ∈ i.numbers, x.isFinite = true := by
  constructor
  · intro hFilters x hMem
    rcases List.mem_filterMap.mp hMem with
      ⟨f, hFilter, hNumber⟩
    have hFinite := hFilters f hFilter
    cases hOperand : f.operand with
    | number value =>
        rw [hOperand] at hFinite hNumber
        cases hNumber
        exact hFinite
    | text value =>
        rw [hOperand] at hNumber
        cases hNumber
  · intro hNumbers f hFilter
    cases hOperand : f.operand with
    | number value =>
        apply hNumbers
        apply mem_numbers hFilter
        rw [hOperand]
        rfl
    | text value => rfl

/-
  An interpretation is read back from its text exactly if
  the numbers in its filters are finite; otherwise the text
  is none of an interpretation.
-/
theorem bind_ofJson?_print
    {i : Interpretation}
    (hReadsBack : ∀ x ∈ i.numbers, x.ReadsBack) :
    (Json.parse? i.print).bind ofJson? =
      if ∀ x ∈ i.numbers, x.isFinite = true then
        some i
      else
        none := by
  rw [parse?_print_shown hReadsBack, Option.bind_some,
    ofJson?_fields_eq_ite Filter.ofJson?_shown]
  simp only [i.forall_isFinite_iff]

end Interpretation

end Dashboard
