import Dashboard.Proofs.Query.Reading

/-
  The answers to queries.  The rows of a query are the first
  ones of the only arrangement of the records that pass its
  filters.

  Key definitions include:
    * `Store.matching`
    * `Store.Sortable`
    * `Query.share`

  Main declarations:
    * `Store.rows_eq`
    * `Store.arranges_arrange`
    * `Store.rows_of_same_filters`
    * `Store.rows_sublist_of_subset`
    * `Store.rows_eq_take_arrangement`
-/

------------------------------------------------------------
-- Matching Records
------------------------------------------------------------

namespace Dashboard

/- The records that pass every filter of a query. -/
def Store.matching
    (store : Store)
    (query : Query) : List Record :=
  (store.records query.dataset).filter fun record =>
    ∀ filter ∈ query.filters, filter.admits record = true

/- How many of some records a query asks for. -/
def Query.share
    (query : Query)
    (available : Nat) : Nat :=
  match query.limit with
  | some limit => if 0 < limit then limit.toNat else available
  | none => available

/-
  The sort of a query is by a field of the dataset, or by one
  that no record has.
-/
def Store.Sortable
    (store : Store)
    (query : Query) : Prop :=
  ∀ sort, query.sort = some sort →
    (query.dataset.schema.field? sort.field).isSome = true ∨
      ∀ record ∈ store.records query.dataset,
        record.value? sort.field = none

/- However they are arranged, the records are the same. -/
theorem Query.arrange_perm
    (query : Query)
    (rows : List Record) :
    (query.arrange rows).Perm rows := by
  unfold arrange
  cases query.sort with
  | none => exact .refl _
  | some sort => exact sort.sortRows_perm rows

theorem Query.cut_eq_take
    (query : Query)
    (rows : List Record) :
    query.cut rows = rows.take (query.share rows.length) := by
  unfold cut share
  cases query.limit with
  | none => exact List.take_length.symm
  | some limit =>
      by_cases hPositive : 0 < limit
      · simp only [hPositive, if_true]
      · simp only [hPositive, if_false, List.take_length]

theorem Query.cut_of_unlimited
    {query : Query}
    (hLimit : ∀ limit, query.limit = some limit → limit ≤ 0)
    (rows : List Record) :
    query.cut rows = rows := by
  unfold cut
  cases hGiven : query.limit with
  | none => rfl
  | some limit =>
      have hNot : ¬ 0 < limit := not_lt.mpr (hLimit limit hGiven)
      simp only [hNot, if_false]

/- Filters count as a set. -/
theorem Query.admits_iff
    (query : Query)
    (record : Record) :
    query.admits record = true ↔
      ∀ filter ∈ query.filters, filter.admits record = true :=
  List.all_eq_true

/- The answer to a query is made of the matching records. -/
theorem Store.rows_eq
    (store : Store)
    (query : Query) :
    store.rows query =
      query.cut (query.arrange (store.matching query)) := by
  have hMatching :
      store.matching query =
        (store.records query.dataset).filter query.admits := by
    apply List.filter_congr
    intro record _
    rw [Bool.eq_iff_iff, decide_eq_true_iff, Query.admits_iff]
  rw [hMatching, rows]

end Dashboard

------------------------------------------------------------
-- Arranged Records
------------------------------------------------------------

namespace Dashboard

namespace Store

variable {store : Store} {query : Query}

/- The records of a dataset are read in one way. -/
theorem Sortable.alike
    (hSortable : store.Sortable query)
    (hAccepted : store.Accepted)
    {sort : Sorting}
    (hSort : query.sort = some sort)
    {x y : Record}
    (hX : x ∈ store.records query.dataset)
    (hY : y ∈ store.records query.dataset) :
    (x.reading sort.field).Alike (y.reading sort.field) := by
  rcases hSortable sort hSort with hField | hAbsent
  · rcases Option.isSome_iff_exists.mp hField with
      ⟨field, hFound⟩
    have hName : field.name = sort.field := by
      simpa using List.find?_some hFound
    rw [← hName]
    exact
      alike_of_field hAccepted
        (List.mem_of_find?_eq_some hFound) hX hY
  · unfold Record.reading
    rw [hAbsent x hX, hAbsent y hY]
    trivial

theorem before_self
    (hSortable : store.Sortable query)
    (hAccepted : store.Accepted)
    {x : Record}
    (hX : x ∈ store.records query.dataset) :
    query.before x x = true := by
  cases hSort : query.sort with
  | none => simp [Query.before, hSort]
  | some sort =>
      have hFollows : sort.Follows query.before [x] := by
        apply Query.follows_before hSort
        simpa using hSortable.alike hAccepted hSort hX hX
      simpa using hFollows.total x (.head _) x (.head _)

/- The answer to a query is arranged in its order. -/
theorem arranges_arrange
    (hSortable : store.Sortable query)
    (hAccepted : store.Accepted) :
    Arranges query.before (store.matching query)
      (query.arrange (store.matching query)) := by
  unfold Query.arrange
  cases hSort : query.sort with
  | none =>
      refine ⟨.refl _, ?_, fun _ => rfl⟩
      apply List.pairwise_of_forall
      intro x y
      simp [Query.before, hSort]
  | some sort =>
      apply Sorting.arranges_sortRows
      apply Query.follows_before hSort
      intro x hX y hY
      exact
        hSortable.alike hAccepted hSort
          (List.mem_of_mem_filter hX)
          (List.mem_of_mem_filter hY)

/- No other list is arranged in that order. -/
theorem eq_arrange_of_arranges
    (hSortable : store.Sortable query)
    (hAccepted : store.Accepted)
    {arranged : List Record}
    (hArranged :
      Arranges query.before (store.matching query) arranged) :
    arranged = query.arrange (store.matching query) :=
  hArranged.eq_of_arranges
    (fun _ hMem =>
      before_self hSortable hAccepted
        (List.mem_of_mem_filter hMem))
    (arranges_arrange hSortable hAccepted)

/- The rows of a query are records of its dataset. -/
theorem rows_subperm
    (store : Store)
    (query : Query) :
    (store.rows query).Subperm
      (store.records query.dataset) := by
  have hArranged :
      (query.arrange (store.matching query)).Subperm
        (store.matching query) :=
    (query.arrange_perm _).subperm
  rw [rows_eq, Query.cut_eq_take]
  exact
    ((List.take_sublist _ _).subperm.trans hArranged).trans
      List.filter_sublist.subperm

end Store

end Dashboard

------------------------------------------------------------
-- Other Filters
------------------------------------------------------------

namespace Dashboard

namespace Store

variable {store : Store} {query : Query}

/- Neither order nor repetition of filters matters. -/
theorem rows_of_same_filters
    {filters : List Filter}
    (hSame : ∀ f, f ∈ filters ↔ f ∈ query.filters) :
    store.rows { query with filters := filters } =
      store.rows query := by
  have hMatching :
      store.matching { query with filters := filters } =
        store.matching query := by
    unfold matching
    simp only [hSame]
  rw [rows_eq, rows_eq, hMatching]
  rfl

/- More filters select some of the records. -/
theorem matching_of_subset
    {filters : List Filter}
    (hSubset : query.filters ⊆ filters) :
    store.matching { query with filters := filters } =
      (store.matching query).filter
        (Query.admits { query with filters := filters }) := by
  unfold matching
  rw [List.filter_filter]
  apply List.filter_congr
  intro record hMem
  rw [Bool.eq_iff_iff, Bool.and_eq_true, Query.admits_iff,
    decide_eq_true_iff, decide_eq_true_iff]
  exact
    ⟨fun hAll =>
      ⟨hAll, fun filter hFilter => hAll filter (hSubset hFilter)⟩,
      fun hBoth => hBoth.1⟩

/- Without a limit, more filters only take rows away. -/
theorem rows_sublist_of_subset
    (hSortable : store.Sortable query)
    (hAccepted : store.Accepted)
    (hLimit : ∀ limit, query.limit = some limit → limit ≤ 0)
    {filters : List Filter}
    (hSubset : query.filters ⊆ filters) :
    (store.rows { query with filters := filters }).Sublist
      (store.rows query) := by
  let more : Query := { query with filters := filters }
  have hPart :
      (query.arrange (store.matching query)).filter
          more.admits =
        more.arrange (store.matching more) := by
    have hSortableMore : store.Sortable more := hSortable
    apply eq_arrange_of_arranges hSortableMore hAccepted
    rw [matching_of_subset hSubset]
    exact
      (arranges_arrange hSortable hAccepted).filter more.admits
  have hMore : ∀ rows, more.cut rows = rows :=
    Query.cut_of_unlimited hLimit
  rw [rows_eq, rows_eq]
  change (more.cut _).Sublist _
  rw [hMore, Query.cut_of_unlimited hLimit, ← hPart]
  exact List.filter_sublist

/- A sort on a field that no record has changes nothing. -/
theorem arrange_of_absent
    (hAccepted : store.Accepted)
    {sort : Sorting}
    (hSort : query.sort = some sort)
    (hAbsent :
      ∀ record ∈ store.records query.dataset,
        record.value? sort.field = none) :
    query.arrange (store.matching query) =
      store.matching query := by
  have hSortable : store.Sortable query := by
    intro other hOther
    rw [hSort] at hOther
    cases hOther
    exact .inr hAbsent
  symm
  apply eq_arrange_of_arranges hSortable hAccepted
  refine ⟨.refl _, ?_, fun _ => rfl⟩
  rw [List.pairwise_iff_forall_sublist]
  intro x y hPair
  have hX : x ∈ store.matching query := hPair.subset (by simp)
  have hY : y ∈ store.matching query := hPair.subset (by simp)
  rcases sort with ⟨field, direction⟩
  unfold Query.before Record.reading
  rw [hSort]
  cases direction with
  | asc =>
      simp [hAbsent x (List.mem_of_mem_filter hX),
        hAbsent y (List.mem_of_mem_filter hY),
        Record.Reading.ofValue, Record.Reading.atMost]
  | desc =>
      simp [hAbsent x (List.mem_of_mem_filter hX),
        hAbsent y (List.mem_of_mem_filter hY),
        Record.Reading.ofValue, Record.Reading.atMost]

end Store

end Dashboard

------------------------------------------------------------
-- Rows
------------------------------------------------------------

namespace Dashboard

namespace Store

/-
  In a store that was built from texts, the rows of a query
  are as many as it asks for of the only arrangement of the
  records that pass its filters.  So they are records of the
  dataset, filters count as a set, more filters take rows
  away, and a sort on a field that no record has leaves the
  records as they are.
-/
theorem rows_eq_take_arrangement
    {sales users products : String}
    {store : Store}
    (hStore : ofTexts sales users products = .ok store)
    (query : Query)
    (hSortable : store.Sortable query) :
    (∃ arranged,
      Arranges query.before (store.matching query) arranged ∧
        (∀ other,
          Arranges query.before (store.matching query) other →
            other = arranged) ∧
        store.rows query =
          arranged.take (query.share arranged.length)) ∧
      (store.rows query).Subperm
        (store.records query.dataset) ∧
      (∀ filters,
        (∀ f, f ∈ filters ↔ f ∈ query.filters) →
          store.rows { query with filters := filters } =
            store.rows query) ∧
      (∀ filters,
        query.filters ⊆ filters →
          (∀ limit, query.limit = some limit → limit ≤ 0) →
            (store.rows { query with filters := filters }).Sublist
              (store.rows query)) ∧
      ∀ sort,
        query.sort = some sort →
          (∀ record ∈ store.records query.dataset,
            record.value? sort.field = none) →
            store.rows query =
              (store.matching query).take
                (query.share (store.matching query).length) := by
  have hAccepted : store.Accepted := accepted_of_ofTexts hStore
  refine
    ⟨⟨query.arrange (store.matching query),
      arranges_arrange hSortable hAccepted,
      fun _ hOther =>
        eq_arrange_of_arranges hSortable hAccepted hOther,
      (store.rows_eq query).trans (query.cut_eq_take _)⟩,
      store.rows_subperm query,
      fun _ hSame => rows_of_same_filters hSame,
      fun _ hSubset hLimit =>
        rows_sublist_of_subset hSortable hAccepted hLimit
          hSubset, ?_⟩
  intro sort hSort hAbsent
  rw [rows_eq, arrange_of_absent hAccepted hSort hAbsent,
    query.cut_eq_take]

/- Four sales, three of which have the same revenue. -/
def sampleSales : String :=
  "[\x7b\"month\":\"Jan\",\"revenue\":45.5,\"unitsSold\":3," ++
    "\"profit\":1,\"category\":\"Toys\"\x7d," ++
  "\x7b\"month\":\"Feb\",\"revenue\":20,\"unitsSold\":3," ++
    "\"profit\":2,\"category\":\"Toys\"\x7d," ++
  "\x7b\"month\":\"Mar\",\"revenue\":45.50,\"unitsSold\":1," ++
    "\"profit\":3,\"category\":\"Toys\"\x7d," ++
  "\x7b\"month\":\"Apr\",\"revenue\":45.5,\"unitsSold\":5," ++
    "\"profit\":3,\"category\":\"toys\"\x7d]"

/- The two sales of several toys with the most revenue. -/
def sampleQuery : Query :=
  { dataset := .sales
    filters :=
      [⟨"unitsSold", .gt, .number (.ofNat 1)⟩,
        ⟨"category", .eq, .text "toys"⟩]
    sort := some ⟨"revenue", .desc⟩
    limit := some 2 }

/- The months of the rows of a query. -/
def months (store : Store) (query : Query) : List String :=
  (store.rows query).filterMap fun row =>
    (row.value? "month").map Json.asText

theorem rows_eq_take_arrangement_sample :
    ∃ store,
      ofTexts sampleSales "[]" "[]" = .ok store ∧
        store.Sortable sampleQuery ∧
        (∃ arranged,
          Arranges sampleQuery.before
              (store.matching sampleQuery) arranged ∧
            store.rows sampleQuery =
              arranged.take
                (sampleQuery.share arranged.length)) ∧
        store.months sampleQuery = ["Jan", "Apr"] := by
  have hMonths :
      (ofTexts sampleSales "[]" "[]").toOption.map
          (months · sampleQuery) =
        some ["Jan", "Apr"] := by
    decide +kernel
  cases hStore : ofTexts sampleSales "[]" "[]" with
  | error e =>
      rw [hStore] at hMonths
      cases hMonths
  | ok store =>
      rw [hStore] at hMonths
      have hSortable : store.Sortable sampleQuery := by
        intro sort hSort
        cases hSort
        exact .inl (by decide)
      rcases rows_eq_take_arrangement hStore sampleQuery
          hSortable with
        ⟨⟨arranged, hArranged, _, hRows⟩, _⟩
      exact
        ⟨store, rfl, hSortable, ⟨arranged, hArranged, hRows⟩,
          Option.some.inj hMonths⟩

end Store

end Dashboard
