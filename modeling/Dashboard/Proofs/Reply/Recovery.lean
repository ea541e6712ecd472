import Dashboard.Proofs.Interpretation.Wire
import Dashboard.Proofs.Reply.Object
import Dashboard.Proofs.Reply.Reader
import Dashboard.Proofs.Reply.Shape

/-
  Recovery: interpretations that are written into a reply one
  after the other, with any text without an opening brace
  around them, are read back in order.

  Key definitions include:
    * `Interpretation.withoutOrder`
    * `Reply.interleave`

  Main declarations:
    * `Interpretation.issues_toJson`
    * `Reply.interpretationOf?_toJson`
    * `Reply.readObject_print`
    * `Reply.objects_interleave`
    * `Reply.readMulti_interleave`
-/

------------------------------------------------------------
-- Conforming Objects
------------------------------------------------------------

namespace Dashboard

namespace Shape

/-
  An object conforms when its required members are there and
  its members conform.
-/
theorem issues_ofMembers
    {required : List String}
    {shapes : List (String × Shape)}
    {members : List (String × Json)}
    (hNames : (members.map Prod.fst).Nodup)
    (hRequired :
      ∀ name ∈ required,
        (Json.memberIn? members name).isSome = true)
    (hShapes :
      ∀ s ∈ shapes,
        ∀ json ∈ Json.memberIn? members s.1,
          s.2.issues json = []) :
    (object required shapes).issues (.ofMembers members) =
      [] := by
  have hMembers := Json.memberIn?_sortMembers hNames
  rw [Json.ofMembers, issues_eq_nil_iff]
  apply Conforms.object
  · intro name hMem
    rw [hMembers]
    exact Option.isSome_iff_exists.mp (hRequired name hMem)
  · intro s hMem json hJson
    rw [hMembers] at hJson
    rw [← issues_eq_nil_iff]
    exact hShapes s hMem json hJson

end Shape

/- A filter without the operator that is never offered. -/
theorem Filter.issues_toJson
    {filter : Filter}
    (hOperator : filter.operator ≠ .neq) :
    Shape.filter.issues filter.toJson = [] := by
  apply Shape.issues_ofMembers filter.nodup_names_members
  · intro name hMem
    simp only [List.mem_cons, List.not_mem_nil, or_false]
      at hMem
    rcases hMem with rfl | rfl | rfl
    · rfl
    · rfl
    · rfl
  · intro s hMem json hJson
    simp only [List.mem_cons, List.not_mem_nil, or_false]
      at hMem
    rcases hMem with rfl | rfl | rfl
    · cases hJson
      rfl
    · cases hJson
      cases hName : filter.operator with
      | neq => exact absurd hName hOperator
      | _ => rfl
    · cases hJson
      cases filter.operand with
      | number value => rfl
      | text value => rfl

namespace Interpretation

/-
  An interpretation conforms when none of its filters has the
  operator that is never offered.
-/
theorem issues_toJson
    {i : Interpretation}
    (hOperators :
      ∀ f ∈ i.filterList, f.operator ≠ .neq) :
    Shape.interpretation.issues i.toJson = [] := by
  have hNames :=
    i.nodup_names_fields Filter.toJson Sorting.toJson
  have hMember := Json.memberIn?_present hNames
  rw [toJson_eq]
  apply Shape.issues_ofMembers
    (Json.nodup_names_present hNames)
  · intro name hMem
    rw [hMember]
    simp only [List.mem_cons, List.not_mem_nil, or_false]
      at hMem
    rcases hMem with rfl | rfl | rfl | rfl
    · rfl
    · rfl
    · rfl
    · rfl
  · intro s hMem json hJson
    rw [hMember] at hJson
    simp only [List.mem_cons, List.not_mem_nil, or_false]
      at hMem
    rcases hMem with rfl | rfl | rfl | rfl | rfl | rfl
    · rcases Option.map_eq_some_iff.mp hJson with
        ⟨chart, _, rfl⟩
      cases chart
      all_goals rfl
    · cases hJson
      cases i.component
      all_goals rfl
    · cases hJson
      cases i.dataset
      all_goals rfl
    · cases hJson
      rfl
    · rcases Option.map_eq_some_iff.mp hJson with
        ⟨filters, hFilters, rfl⟩
      apply List.flatMap_eq_nil_iff.mpr
      intro item hItem
      rcases List.mem_map.mp hItem with ⟨f, hFilter, rfl⟩
      apply Filter.issues_toJson
      apply hOperators
      rw [filterList, hFilters]
      exact hFilter
    · cases hJson
      rfl

end Interpretation

end Dashboard

------------------------------------------------------------
-- One Object
------------------------------------------------------------

namespace Dashboard

namespace Interpretation

/- What a reply gives of an interpretation. -/
def withoutOrder (i : Interpretation) : Interpretation :=
  { i with
    sort := none
    limit := none }

end Interpretation

namespace Reply

theorem interpretationOf?_toJson (i : Interpretation) :
    interpretationOf? i.toJson = some i.withoutOrder := by
  have hNames :=
    i.nodup_names_fields Filter.toJson Sorting.toJson
  have hSlots :
      i.toJson.slots?
          ["componentType", "datasetType", "chartType",
            "filters", "title", "description"] =
        some
          [.given (.string i.component.name),
            .given (.string i.dataset.name),
            .ofOption (i.chart.map fun c => .string c.name),
            .ofOption
              (i.filters.map (.ofList Filter.toJson)),
            .given (.string i.title),
            .given (.string i.description)] := by
    rw [i.toJson_eq,
      Json.slots?_ofMembers _
        (Json.nodup_names_present hNames)]
    simp only [Json.memberIn?_present hNames]
    rfl
  have hComponent := i.component.ofJson?_name
  have hDataset := i.dataset.ofJson?_name
  have hChart :=
    Slot.defaulted_ofOption
      (fun c : Chart => Json.noConfusion)
      Chart.ofJson?_name i.chart
  have hFilters :=
    Slot.defaulted_ofOption
      (fun fs : List Filter => Json.noConfusion)
      (Json.list?_ofList Filter.ofJson?_toJson) i.filters
  rw [interpretationOf?, hSlots]
  simp only [Slot.required, Json.string?, hComponent,
    hDataset, hChart, hFilters, Option.bind_eq_bind,
    Option.bind_some]
  rfl

end Reply

end Dashboard

------------------------------------------------------------
-- Texts Of Objects
------------------------------------------------------------

namespace Dashboard

namespace Reply

/-
  The text of an object whose numbers are kept is exactly one
  object of the scan.
-/
theorem run_outside_write
    {members : List (String × Json)}
    (hKept :
      ∀ n ∈ (Json.object members).numbers, n.Kept) :
    Scan.outside.run (Json.object members).write =
      ([(Json.object members).write], .outside) := by
  rcases Json.exists_readsAs _ hKept with ⟨raw, hRaw⟩
  have hScan :=
    hRaw.scans (Json.object members).write.length []
      (Nat.le_refl _) RawJson.endsValue_nil
  rw [List.append_nil] at hScan
  exact run_outside_of_scanValue hScan

theorem run_outside_print
    {i : Interpretation}
    (hFinite : ∀ x ∈ i.numbers, x.isFinite = true)
    (hReadsBack : ∀ x ∈ i.numbers, x.ReadsBack) :
    Scan.outside.run i.print.toList =
      ([i.print.toList], .outside) := by
  have hKeeps :=
    Interpretation.document_keeps hFinite hReadsBack
  rw [Interpretation.print, Json.print, String.toList_ofList]
  exact run_outside_write hKeeps.kept

/- What the text of an interpretation gives. -/
theorem readObject_print
    {i : Interpretation}
    (hOperators :
      ∀ f ∈ i.filterList, f.operator ≠ .neq)
    (hFinite : ∀ x ∈ i.numbers, x.isFinite = true)
    (hReadsBack : ∀ x ∈ i.numbers, x.ReadsBack) :
    readObject i.print.toList =
      .ok i.withoutOrder.normalize := by
  unfold readObject
  rw [String.ofList_toList,
    Interpretation.parse?_print hFinite hReadsBack]
  dsimp only
  rw [Interpretation.issues_toJson hOperators]
  dsimp only
  rw [interpretationOf?_toJson]

/-
  Texts that are one object each, with texts that open none
  behind them, are those objects in order.
-/
theorem objects_flatMap
    {α : Type}
    {parts : List α}
    {object gap : α → List Char}
    (hObjects :
      ∀ p ∈ parts,
        Scan.outside.run (object p) =
          ([object p], .outside))
    (hGaps : ∀ p ∈ parts, openBrace ∉ gap p) :
    objects (parts.flatMap fun p => object p ++ gap p) =
      parts.map object := by
  induction parts with
  | nil => rfl
  | cons p rest ih =>
      rcases List.forall_mem_cons.mp hObjects with
        ⟨hObject, hMoreObjects⟩
      rcases List.forall_mem_cons.mp hGaps with
        ⟨hGap, hMoreGaps⟩
      have hRun := Scan.run_outside_of_not_mem hGap
      have hFirst :
          Scan.outside.run (object p ++ gap p) =
            ([object p], .outside) := by
        rw [Scan.run_append, hObject, hRun]
        rfl
      have hOutside :
          (Scan.outside.run (object p ++ gap p)).2 =
            .outside := by
        rw [hFirst]
      rw [List.flatMap_cons, objects_append _ hOutside,
        ih hMoreObjects hMoreGaps, objects, hFirst]
      rfl

end Reply

end Dashboard

------------------------------------------------------------
-- Whole Replies
------------------------------------------------------------

namespace Dashboard

namespace Reply

/-
  A reply with a text in front, and the texts of
  interpretations with another text behind each.
-/
def interleave
    (lead : String)
    (parts : List (Interpretation × String)) : String :=
  lead ++ String.join (parts.map fun p => p.1.print ++ p.2)

theorem toList_interleave
    (lead : String)
    (parts : List (Interpretation × String)) :
    (interleave lead parts).toList =
      lead.toList ++
        parts.flatMap fun p =>
          p.1.print.toList ++ p.2.toList := by
  unfold interleave
  rw [String.toList_append, String.toList_join]
  simp [List.flatMap_map]

/- The objects of such a reply are the interpretations. -/
theorem objects_interleave
    {lead : String}
    {parts : List (Interpretation × String)}
    (hLead : openBrace ∉ lead.toList)
    (hGaps : ∀ p ∈ parts, openBrace ∉ p.2.toList)
    (hFinite :
      ∀ p ∈ parts, ∀ x ∈ p.1.numbers, x.isFinite = true)
    (hReadsBack :
      ∀ p ∈ parts, ∀ x ∈ p.1.numbers, x.ReadsBack) :
    objects (interleave lead parts).toList =
      parts.map fun p => p.1.print.toList := by
  have hObjects :
      ∀ p ∈ parts,
        Scan.outside.run p.1.print.toList =
          ([p.1.print.toList], .outside) := by
    intro p hPart
    rw [run_outside_print (hFinite p hPart)
      (hReadsBack p hPart)]
  have hLeadRun := Scan.run_outside_of_not_mem hLead
  have hLeadObjects : objects lead.toList = [] := by
    rw [objects, hLeadRun]
  have hOutside :
      (Scan.outside.run lead.toList).2 = .outside := by
    rw [hLeadRun]
  rw [toList_interleave, objects_append _ hOutside,
    hLeadObjects, List.nil_append,
    objects_flatMap hObjects hGaps]

theorem accepted_map_ok (found : List Interpretation) :
    accepted (found.map Except.ok) = found := by
  unfold accepted
  rw [List.filterMap_map]
  exact List.filterMap_some

/-
  Interpretations are read back from a reply in order, each
  without its sort and its limit and repaired, whatever texts
  without an opening brace stand around them.
-/
theorem readMulti_interleave
    (lead : String)
    (parts : List (Interpretation × String))
    (hSome : parts ≠ [])
    (hLead : openBrace ∉ lead.toList)
    (hGaps : ∀ p ∈ parts, openBrace ∉ p.2.toList)
    (hOperators :
      ∀ p ∈ parts, ∀ f ∈ p.1.filterList,
        f.operator ≠ .neq)
    (hFinite :
      ∀ p ∈ parts, ∀ x ∈ p.1.numbers, x.isFinite = true)
    (hReadsBack :
      ∀ p ∈ parts, ∀ x ∈ p.1.numbers, x.ReadsBack) :
    readMulti (interleave lead parts) =
      .ok
        (parts.map fun p => p.1.withoutOrder.normalize) := by
  have hObjects :=
    objects_interleave hLead hGaps hFinite hReadsBack
  have hResults :
      (parts.map fun p => p.1.print.toList).map readObject =
        (parts.map fun p =>
          p.1.withoutOrder.normalize).map Except.ok := by
    rw [List.map_map, List.map_map]
    apply List.map_congr_left
    intro p hPart
    rw [Function.comp_apply, Function.comp_apply,
      readObject_print (hOperators p hPart)
        (hFinite p hPart) (hReadsBack p hPart)]
  rw [readMulti_eq_ok_iff, hObjects, hResults,
    accepted_map_ok]
  refine ⟨rfl, ?_⟩
  intro hEmpty
  exact hSome (List.map_eq_nil_iff.mp hEmpty)

/- A price that is no whole number. -/
def samplePrice : Double :=
  .ofDecimal false ⟨495, -1⟩

theorem samplePrice_readsBack : samplePrice.ReadsBack := by
  have hFinite : samplePrice.isFinite = true := by
    decide +kernel
  rw [Double.readsBack_iff_kept hFinite]
  exact
    ⟨⟨false, ['4', '9'], some ['5'], none⟩,
      by decide +kernel, by decide +kernel⟩

/- An interpretation with braces and quotes in its texts. -/
def sample : Interpretation where
  component := .table
  dataset := .products
  chart := none
  filters := some [⟨"price", .lt, .number samplePrice⟩]
  sort := some ⟨"price", .asc⟩
  limit := some 5
  title := "Cheap \x7b\"ones\"\\"
  description := "\x7d"

/- A reply with the sample, and with it as a chart. -/
theorem readMulti_interleave_sample :
    readMulti
        (interleave "Sure \x7d \""
          [(sample, "\x7d and \\ "),
            ({ sample with component := .chart },
              "\n```")]) =
      .ok
        [{ sample with
            sort := none
            limit := none },
          { sample with
            component := .chart
            chart := some .bar
            sort := none
            limit := none }] := by
  let parts :=
    [(sample, "\x7d and \\ "),
      ({ sample with component := .chart }, "\n```")]
  have hNumbers :
      ∀ p ∈ parts, p.1.numbers = [samplePrice] := by
    decide +kernel
  apply readMulti_interleave
  · decide
  · decide
  · decide
  · decide
  · decide +kernel
  · intro p hPart x hMem
    rw [hNumbers p hPart] at hMem
    rw [List.mem_singleton.mp hMem]
    exact samplePrice_readsBack

end Reply

end Dashboard
