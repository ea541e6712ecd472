import Dashboard.Proofs.Filter.Algebra
import Dashboard.Proofs.Query.Number
import Dashboard.Proofs.Summary.Total
import Mathlib.Algebra.BigOperators.Group.List.Basic
import Mathlib.Data.List.Nodup

/-
  The counts of the summaries by status, beside the rows that
  a query for that status selects.  A summary counts the
  records with the very status, and a query also selects
  those that write it in other letters.

  Key definitions include:
    * `Dataset.statusWords`
    * `Summary.statusCounts`
    * `Store.statuses`

  Main declarations:
    * `Text.countP_lower`
    * `Text.sum_count_le_length`
    * `Store.summary_statusCounts`
-/

------------------------------------------------------------
-- Counts Of Words
------------------------------------------------------------

namespace Dashboard

namespace Text

theorem lower_beq_lower (first second : String) :
    (lower first == lower second) =
      (lowercase first.toList == lowercase second.toList) := by
  rw [Bool.eq_iff_iff, beq_iff_eq, beq_iff_eq, lower, lower,
    ← String.toList_inj, String.toList_ofList,
    String.toList_ofList]

/- How many texts are a word, but in other letters. -/
def otherCase (word : String) (texts : List String) : Nat :=
  texts.countP fun text => lower text == word && text != word

/- Counting in lowercase finds the other letters as well. -/
theorem countP_lower
    {word : String}
    (hLower : lower word = word)
    (texts : List String) :
    texts.countP (fun text => lower text == word) =
      texts.count word + otherCase word texts := by
  rw [List.countP_eq_countP_filter_add texts _ (· == word),
    List.countP_filter, List.countP_filter]
  congr 1
  · rw [List.count]
    apply List.countP_congr
    intro text _
    rw [Bool.and_eq_true, beq_iff_eq, beq_iff_eq]
    constructor
    · exact And.right
    · rintro rfl
      exact ⟨hLower, rfl⟩

theorem otherCase_eq_zero_iff
    {word : String}
    {texts : List String} :
    otherCase word texts = 0 ↔
      ∀ text ∈ texts, lower text = word → text = word := by
  simp [otherCase, List.countP_eq_zero]

/- A text is at most one of different words. -/
theorem sum_count_le_length
    {words : List String}
    (hNodup : words.Nodup)
    (texts : List String) :
    (words.map fun word => texts.count word).sum ≤
      texts.length := by
  induction words generalizing texts with
  | nil => exact Nat.zero_le _
  | cons word rest ih =>
      rcases List.nodup_cons.mp hNodup with ⟨hNew, hRest⟩
      have hOthers :
          rest.map (fun other => texts.count other) =
            rest.map fun other =>
              (texts.filter (· != word)).count other := by
        apply List.map_congr_left
        intro other hMem
        have hDifferent : other ≠ word := by
          rintro rfl
          exact hNew hMem
        exact (List.count_filter (by simpa using hDifferent)).symm
      have hLength :
          texts.length =
            texts.count word +
              (texts.filter (· != word)).length := by
        rw [List.length_eq_countP_add_countP (· == word),
          List.count, List.countP_eq_length_filter,
          List.countP_eq_length_filter]
        simp only [bne, decide_not, Bool.decide_eq_true]
      rw [List.map_cons, List.sum_cons, hOthers, hLength]
      exact Nat.add_le_add_left (ih hRest _) _

end Text

end Dashboard

------------------------------------------------------------
-- Statuses
------------------------------------------------------------

namespace Dashboard

/- The statuses that a summary of a dataset counts. -/
def Dataset.statusWords : Dataset → List String
  | .sales => []
  | .users => ["active", "inactive", "pending"]
  | .products => ["in_stock", "low_stock", "out_of_stock"]

/- The counts of a summary by status. -/
def Summary.statusCounts : Summary → List (String × Nat)
  | sales _ => []
  | users s =>
      [("active", s.activeUsers), ("inactive", s.inactiveUsers),
        ("pending", s.pendingUsers)]
  | products s =>
      [("in_stock", s.inStock), ("low_stock", s.lowStock),
        ("out_of_stock", s.outOfStock)]

/- The counts of a dataset that its summary adds up. -/
def Dataset.countField : Dataset → String
  | .sales => "unitsSold"
  | .users => "sessionsThisMonth"
  | .products => "totalSold"

/- The query for the records with a status. -/
def Query.withStatus
    (dataset : Dataset)
    (word : String) : Query :=
  .filtered dataset [⟨"status", .eq, .text word⟩]

theorem Dataset.nodup_statusWords (dataset : Dataset) :
    dataset.statusWords.Nodup := by
  cases dataset <;> decide

/- A counted status is a word in lowercase. -/
theorem Dataset.statusWords_plain
    (dataset : Dataset) :
    ∀ word ∈ dataset.statusWords,
      readsAsNumber word = false ∧ Text.lower word = word := by
  cases dataset <;> decide

/- A filter for a status compares in lowercase. -/
theorem Filter.admits_status
    {record : Record}
    {status : String}
    (hStatus : record.text? "status" = some status)
    {word : String}
    (hWord : readsAsNumber word = false)
    (hLower : Text.lower word = word) :
    (⟨"status", .eq, .text word⟩ : Filter).admits record =
      (Text.lower status == word) := by
  rcases Option.bind_eq_some_iff.mp hStatus with
    ⟨actual, hValue, hText⟩
  cases actual with
  | string text =>
      cases hText
      have hAdmits :
          (⟨"status", .eq, .text word⟩ : Filter).admits record =
            (Text.lowercase status.toList ==
              Text.lowercase word.toList) :=
        Record.passes_of_word hValue hWord .eq
      rw [hAdmits, ← Text.lower_beq_lower, hLower]
  | _ => cases hText

end Dashboard

------------------------------------------------------------
-- Typed Statuses
------------------------------------------------------------

namespace Dashboard

namespace Store

/- The statuses of the records of a dataset. -/
def statuses
    (store : Store)
    (dataset : Dataset) : List String :=
  (store.records dataset).filterMap (·.text? "status")

theorem length_statuses_le
    (store : Store)
    (dataset : Dataset) :
    (store.statuses dataset).length ≤ store.size dataset :=
  List.length_filterMap_le _ _

section

variable {store : Store}
variable {dataset : Dataset}
variable {α : Type}
variable {read : Record → Option α}
variable {values : List α}
variable {status : α → String}

variable
  (hTyped :
    typed read dataset (store.records dataset) = .ok values)
  (hStatus :
    ∀ record value,
      read record = some value →
        record.text? "status" = some (status value))

include hTyped hStatus

theorem statuses_of_typed :
    store.statuses dataset = values.map status := by
  have hSame :
      values.map (fun value => some (status value)) =
        (store.records dataset).map (·.text? "status") :=
    map_of_typed_eq_ok hTyped hStatus
  have hTexts := congrArg (List.filterMap id) hSame
  rw [List.filterMap_map, List.filterMap_map,
    Function.id_comp, Function.id_comp,
    List.filterMap_eq_map'] at hTexts
  exact hTexts.symm

/- A summary counts the statuses that are the word. -/
theorem length_filter_of_typed (word : String) :
    (values.filter fun value => status value == word).length =
      (store.statuses dataset).count word := by
  rw [statuses_of_typed hTyped hStatus, List.count,
    List.countP_map, List.countP_eq_length_filter]
  rfl

/- A query selects the statuses that are it in lowercase. -/
theorem length_rows_of_typed
    {word : String}
    (hWord : word ∈ dataset.statusWords) :
    (store.rows (.withStatus dataset word)).length =
      (store.statuses dataset).count word +
        Text.otherCase word (store.statuses dataset) := by
  rcases dataset.statusWords_plain word hWord with
    ⟨hPlain, hLower⟩
  have hSame :
      values.map
          (fun value => Text.lower (status value) == word) =
        (store.records dataset).map
          (⟨"status", .eq, .text word⟩ : Filter).admits :=
    map_of_typed_eq_ok hTyped fun record value hRead =>
      Filter.admits_status (hStatus record value hRead) hPlain
        hLower
  have hCount := congrArg (List.countP id) hSame
  rw [List.countP_map, List.countP_map, Function.id_comp,
    Function.id_comp] at hCount
  rw [← Text.countP_lower hLower,
    statuses_of_typed hTyped hStatus, List.countP_map,
    Query.withStatus, rows_filtered,
    ← List.countP_eq_length_filter]
  simpa [Function.comp_def] using hCount.symm

end

end Store

end Dashboard

------------------------------------------------------------
-- Main Result
------------------------------------------------------------

namespace Dashboard

namespace Store

variable {store : Store}

/-
  The counts of a summary are those of its statuses, if it is
  not aborted.
-/
theorem exists_statusCounts
    (hLoaded : store.IsLoaded)
    (dataset : Dataset) :
    (store.total dataset dataset.countField < 2 ^ 64 →
        ∃ summary,
          store.summary dataset = .ok summary ∧
            summary.statusCounts =
              dataset.statusWords.map fun word =>
                (word, (store.statuses dataset).count word)) ∧
      (2 ^ 64 ≤ store.total dataset dataset.countField →
        store.summary dataset = .error .overflow) := by
  cases dataset with
  | sales =>
      rcases hLoaded.summary_sales with
        ⟨sales, -, hFits, hLarge⟩
      refine ⟨?_, hLarge⟩
      intro hTotal
      rcases hFits hTotal with ⟨units, -, hSummary⟩
      exact ⟨_, hSummary, rfl⟩
  | users =>
      rcases hLoaded.summary_users with
        ⟨users, hUsers, hFits, hLarge⟩
      have hCounts :=
        length_filter_of_typed hUsers fun _ _ hRead =>
          (User.fields_of_ofRecord? hRead).1
      refine ⟨?_, hLarge⟩
      intro hTotal
      rcases hFits hTotal with ⟨sessions, -, hSummary⟩
      refine ⟨_, hSummary, ?_⟩
      simp only [Summary.statusCounts, UsersSummary.ofUsers,
        Dataset.statusWords, List.map_cons, List.map_nil,
        hCounts]
  | products =>
      rcases hLoaded.summary_products with
        ⟨products, hProducts, hFits, hLarge⟩
      have hCounts :=
        length_filter_of_typed hProducts fun _ _ hRead =>
          (Product.fields_of_ofRecord? hRead).1
      refine ⟨?_, hLarge⟩
      intro hTotal
      rcases hFits hTotal with ⟨sold, -, hSummary⟩
      refine ⟨_, hSummary, ?_⟩
      simp only [Summary.statusCounts,
        ProductsSummary.ofProducts, Dataset.statusWords,
        List.map_cons, List.map_nil, hCounts]

/- The rows with a status are counted in lowercase. -/
theorem length_rows_withStatus
    (hLoaded : store.IsLoaded)
    {dataset : Dataset}
    {word : String}
    (hWord : word ∈ dataset.statusWords) :
    (store.rows (.withStatus dataset word)).length =
      (store.statuses dataset).count word +
        Text.otherCase word (store.statuses dataset) := by
  rcases hLoaded.typed with
    ⟨_, ⟨users, hUsers⟩, products, hProducts⟩
  cases dataset with
  | sales => cases hWord
  | users =>
      exact
        length_rows_of_typed hUsers
          (fun _ _ hRead =>
            (User.fields_of_ofRecord? hRead).1)
          hWord
  | products =>
      exact
        length_rows_of_typed hProducts
          (fun _ _ hRead =>
            (Product.fields_of_ofRecord? hRead).1)
          hWord

/-
  Each count of a summary falls short of the rows that the
  query for its status selects by the records that write the
  status in other letters, so the two agree just if there are
  none.  The counts of a summary add up to no more than there
  are records.  There is a summary just as long as the total
  in it fits in 64 bits.
-/
theorem summary_statusCounts
    (hLoaded : store.IsLoaded)
    (dataset : Dataset) :
    (store.total dataset dataset.countField < 2 ^ 64 →
        ∃ summary,
          store.summary dataset = .ok summary ∧
            summary.statusCounts.map Prod.fst =
              dataset.statusWords ∧
            (∀ word count,
              (word, count) ∈ summary.statusCounts →
                (store.rows
                      (.withStatus dataset word)).length =
                    count +
                      Text.otherCase word
                        (store.statuses dataset) ∧
                  (count =
                      (store.rows
                        (.withStatus dataset word)).length ↔
                    ∀ status ∈ store.statuses dataset,
                      Text.lower status = word →
                        status = word)) ∧
            (summary.statusCounts.map Prod.snd).sum ≤
              store.size dataset) ∧
      (2 ^ 64 ≤ store.total dataset dataset.countField →
        store.summary dataset = .error .overflow) := by
  rcases exists_statusCounts hLoaded dataset with
    ⟨hFits, hLarge⟩
  refine ⟨?_, hLarge⟩
  intro hTotal
  rcases hFits hTotal with ⟨summary, hSummary, hCounts⟩
  refine ⟨summary, hSummary, ?_, ?_, ?_⟩
  · rw [hCounts, List.map_map]
    exact List.map_id _
  · intro word count hMem
    rw [hCounts] at hMem
    rcases List.mem_map.mp hMem with ⟨_, hWord, hEntry⟩
    cases hEntry
    have hRows := length_rows_withStatus hLoaded hWord
    refine ⟨hRows, ?_⟩
    rw [← Text.otherCase_eq_zero_iff, hRows]
    omega
  · rw [hCounts, List.map_map]
    exact
      (Text.sum_count_le_length dataset.nodup_statusWords
        (store.statuses dataset)).trans
        (length_statuses_le store dataset)

/- Two users who are active, one with a capital letter. -/
def sampleStatuses : String :=
  "[\x7b\"id\":1,\"name\":\"Ada\",\"email\":\"a\"," ++
    "\"role\":\"Admin\",\"status\":\"active\"," ++
    "\"lastActive\":\"\",\"joinedDate\":\"\"," ++
    "\"sessionsThisMonth\":1\x7d," ++
  "\x7b\"id\":2,\"name\":\"Bob\",\"email\":\"b\"," ++
    "\"role\":\"Admin\",\"status\":\"Active\"," ++
    "\"lastActive\":\"\",\"joinedDate\":\"\"," ++
    "\"sessionsThisMonth\":1\x7d]"

/- A query for the active users selects one more than counted. -/
theorem summary_statusCounts_capital :
    ∃ store summary count,
      ofTexts "[]" sampleStatuses "[]" = .ok store ∧
        store.summary .users = .ok summary ∧
        ("active", count) ∈ summary.statusCounts ∧
        (store.rows (.withStatus .users "active")).length =
          count + 1 := by
  have hUsers :
      (ofTexts "[]" sampleStatuses "[]").toOption.map
          (fun store =>
            (store.statuses .users,
              store.total .users "sessionsThisMonth")) =
        some (["active", "Active"], 2) := by
    decide +kernel
  rcases exists_of_map_toOption hUsers with
    ⟨store, hStore, hBoth⟩
  rcases Prod.mk.inj hBoth with ⟨hStatuses, hSessions⟩
  have hFits :
      store.total .users Dataset.users.countField < 2 ^ 64 := by
    rw [Dataset.countField, hSessions]
    decide
  rcases
      (summary_statusCounts (.inl ⟨_, _, _, hStore⟩)
        .users).1 hFits with
    ⟨summary, hSummary, hWords, hCounts, _⟩
  have hActive :
      "active" ∈ summary.statusCounts.map Prod.fst := by
    rw [hWords]
    exact .head _
  rcases List.mem_map.mp hActive with
    ⟨⟨word, count⟩, hMem, hWord⟩
  cases hWord
  have hRows := (hCounts _ _ hMem).1
  rw [hStatuses] at hRows
  exact ⟨store, summary, count, hStore, hSummary, hMem, hRows⟩

end Store

end Dashboard
