import Dashboard.Proofs.Store.Typed
import Dashboard.Summary
import Mathlib.Algebra.BigOperators.Group.List.Basic
import Mathlib.Algebra.Order.Ring.Nat

/-
  The totals of the summaries.  The records of a loaded store
  are as they should be, so a summary of them fails in one way
  only: it is aborted when a total of counts does not fit in
  64 bits.  When it fits, the total is the sum of the counts.

  Key definitions include:
    * `Store.total`
    * `averageOf`

  Main declarations:
    * `totalCount?_eq_some_iff`
    * `Store.summary_ofTyped`
    * `Store.IsLoaded.summary_users`
    * `Store.summary_of_isLoaded`
-/

------------------------------------------------------------
-- Totals Of 64 Bits
------------------------------------------------------------

namespace Dashboard

/- A sum that fits is the one with its value. -/
theorem addCount?_eq_some_iff {first second sum : UInt64} :
    addCount? first second = some sum ↔
      sum.toNat = first.toNat + second.toNat := by
  have hBound := sum.toNat_lt_size
  unfold addCount?
  by_cases hFits : first.toNat + second.toNat < UInt64.size
  · have hSum :
        (first + second).toNat =
          first.toNat + second.toNat := by
      rw [UInt64.toNat_add]
      exact Nat.mod_eq_of_lt hFits
    rw [if_pos hFits, Option.some.injEq, ← UInt64.toNat_inj,
      hSum]
    exact eq_comm
  · rw [if_neg hFits]
    exact iff_of_false nofun (by omega)

/-
  Adding up goes well up to a total that fits, since no sum
  on the way to it is greater.
-/
theorem foldlM_addCount?_eq_some_iff
    {counts : List UInt64}
    {start total : UInt64} :
    counts.foldlM addCount? start = some total ↔
      total.toNat =
        start.toNat + (counts.map UInt64.toNat).sum := by
  induction counts generalizing start with
  | nil =>
      rw [List.foldlM_nil, List.map_nil, List.sum_nil,
        Nat.add_zero, UInt64.toNat_inj]
      exact Option.some_inj.trans eq_comm
  | cons n rest ih =>
      rw [List.foldlM_cons, List.map_cons, List.sum_cons,
        ← Nat.add_assoc]
      have hBound := total.toNat_lt_size
      cases hFirst : addCount? start n with
      | none =>
          refine iff_of_false nofun ?_
          intro hTotal
          have hFits : start.toNat + n.toNat < UInt64.size := by
            omega
          simp [addCount?, hFits] at hFirst
      | some sum =>
          rw [← addCount?_eq_some_iff.mp hFirst]
          exact ih

theorem totalCount?_eq_some_iff
    {counts : List UInt64}
    {total : UInt64} :
    totalCount? counts = some total ↔
      total.toNat = (counts.map UInt64.toNat).sum := by
  rw [totalCount?, foldlM_addCount?_eq_some_iff,
    UInt64.toNat_zero, Nat.zero_add]

/- There is a total just as long as the sum fits. -/
theorem totalCount?_eq_none_iff {counts : List UInt64} :
    totalCount? counts = none ↔
      2 ^ 64 ≤ (counts.map UInt64.toNat).sum := by
  rw [Option.eq_none_iff_forall_ne_some]
  simp only [ne_eq, totalCount?_eq_some_iff]
  constructor
  · intro hNone
    by_contra hFits
    apply hNone (.ofNat (counts.map UInt64.toNat).sum)
    exact
      UInt64.toNat_ofNat_of_lt (Nat.lt_of_not_le hFits)
  · intro hLarge total hTotal
    have hBound := total.toNat_lt
    omega

end Dashboard

------------------------------------------------------------
-- Totals Of A Store
------------------------------------------------------------

namespace Dashboard

namespace Store

/- The sum of what the records of a dataset have in a field. -/
def total
    (store : Store)
    (dataset : Dataset)
    (field : String) : Nat :=
  ((store.records dataset).map
    fun record => record.quantity field).sum

section

variable {store : Store}
variable {α : Type}
variable {read : Record → Option α}
variable {dataset : Dataset}
variable {values : List α}

/-
  A summary of typed records is made with the exact total of
  a field if that fits, and it is aborted otherwise.
-/
theorem summary_ofTyped
    (hTyped :
      typed read dataset (store.records dataset) = .ok values)
    {field : String}
    {count : α → UInt64}
    (hField :
      ∀ record value,
        read record = some value →
          Record.quantity record field = (count value).toNat)
    (make : List α → UInt64 → Summary) :
    (store.total dataset field < 2 ^ 64 →
        ∃ total : UInt64,
          total.toNat = store.total dataset field ∧
            Summary.ofTyped (.ok values) count make =
              .ok (make values total)) ∧
      (2 ^ 64 ≤ store.total dataset field →
        Summary.ofTyped (.ok values) count make =
          .error .overflow) := by
  have hSame :
      values.map (fun value => (count value).toNat) =
        (store.records dataset).map
          fun record => Record.quantity record field :=
    map_of_typed_eq_ok hTyped hField
  have hSum :
      ((values.map count).map UInt64.toNat).sum =
        store.total dataset field := by
    rw [List.map_map, total, ← hSame]
    rfl
  rw [← hSum]
  unfold Summary.ofTyped
  cases hTotal : totalCount? (values.map count) with
  | none =>
      have hLarge := totalCount?_eq_none_iff.mp hTotal
      constructor
      · exact fun hFits => absurd hFits (Nat.not_lt.mpr hLarge)
      · intro _
        simp only [hTotal]
  | some n =>
      have hExact := totalCount?_eq_some_iff.mp hTotal
      constructor
      · intro _
        exact ⟨n, hExact, by simp only [hTotal]⟩
      · intro hLarge
        have hBound := n.toNat_lt
        omega

/- There are as many typed records as records. -/
theorem length_of_typed_eq_ok
    (hTyped :
      typed read dataset (store.records dataset) =
        .ok values) :
    values.length = store.size dataset := by
  have hSame :
      values.map (fun _ => ()) =
        (store.records dataset).map fun _ => () :=
    map_of_typed_eq_ok hTyped fun _ _ _ => rfl
  rw [size]
  simpa using congrArg List.length hSame

end

variable {store : Store}

/- The summary of the sales of a loaded store. -/
theorem IsLoaded.summary_sales
    (hLoaded : store.IsLoaded) :
    ∃ sales,
      store.typedSales = .ok sales ∧
        (store.total .sales "unitsSold" < 2 ^ 64 →
          ∃ units : UInt64,
            units.toNat = store.total .sales "unitsSold" ∧
              store.summary .sales =
                .ok (.sales (.ofSales sales units))) ∧
        (2 ^ 64 ≤ store.total .sales "unitsSold" →
          store.summary .sales = .error .overflow) := by
  rcases hLoaded.typed with ⟨⟨sales, hSales⟩, -⟩
  refine ⟨sales, hSales, ?_⟩
  rw [summary, hSales]
  exact
    summary_ofTyped hSales
      (fun _ _ hRead => Sale.quantity_of_ofRecord? hRead) _

/- The summary of its users. -/
theorem IsLoaded.summary_users
    (hLoaded : store.IsLoaded) :
    ∃ users,
      store.typedUsers = .ok users ∧
        (store.total .users "sessionsThisMonth" < 2 ^ 64 →
          ∃ sessions : UInt64,
            sessions.toNat =
                store.total .users "sessionsThisMonth" ∧
              store.summary .users =
                .ok (.users (.ofUsers users sessions))) ∧
        (2 ^ 64 ≤ store.total .users "sessionsThisMonth" →
          store.summary .users = .error .overflow) := by
  rcases hLoaded.typed with ⟨-, ⟨users, hUsers⟩, -⟩
  refine ⟨users, hUsers, ?_⟩
  rw [summary, hUsers]
  exact
    summary_ofTyped hUsers
      (fun _ _ hRead => (User.fields_of_ofRecord? hRead).2) _

/- The summary of its products. -/
theorem IsLoaded.summary_products
    (hLoaded : store.IsLoaded) :
    ∃ products,
      store.typedProducts = .ok products ∧
        (store.total .products "totalSold" < 2 ^ 64 →
          ∃ sold : UInt64,
            sold.toNat = store.total .products "totalSold" ∧
              store.summary .products =
                .ok (.products (.ofProducts products sold))) ∧
        (2 ^ 64 ≤ store.total .products "totalSold" →
          store.summary .products = .error .overflow) := by
  rcases hLoaded.typed with ⟨-, -, products, hProducts⟩
  refine ⟨products, hProducts, ?_⟩
  rw [summary, hProducts]
  exact
    summary_ofTyped hProducts
      (fun _ _ hRead =>
        (Product.fields_of_ofRecord? hRead).2) _

end Store

/- A total for each of some records, to one decimal place. -/
def averageOf (total size : Nat) : Double :=
  oneDecimal (ratio (.ofNat total) (.ofNat size))

end Dashboard

------------------------------------------------------------
-- Main Result
------------------------------------------------------------

namespace Dashboard

namespace Store

/-
  A loaded store is summarized with exact totals, and with an
  average of the exact total, whatever its records hold, just
  as long as the total fits in 64 bits.  The summary of a
  dataset whose total does not fit is aborted.
-/
theorem summary_of_isLoaded
    {store : Store}
    (hLoaded : store.IsLoaded) :
    ((store.total .sales "unitsSold" < 2 ^ 64 →
          ∃ sales,
            store.summary .sales = .ok (.sales sales) ∧
              sales.totalUnits.toNat =
                store.total .sales "unitsSold") ∧
        (2 ^ 64 ≤ store.total .sales "unitsSold" →
          store.summary .sales = .error .overflow)) ∧
      ((store.total .users "sessionsThisMonth" < 2 ^ 64 →
          ∃ users,
            store.summary .users = .ok (.users users) ∧
              users.avgSessionsPerUser =
                averageOf
                  (store.total .users "sessionsThisMonth")
                  (store.size .users)) ∧
        (2 ^ 64 ≤ store.total .users "sessionsThisMonth" →
          store.summary .users = .error .overflow)) ∧
      (store.total .products "totalSold" < 2 ^ 64 →
        ∃ products,
          store.summary .products =
              .ok (.products products) ∧
            products.totalUnitsSold.toNat =
              store.total .products "totalSold") ∧
      (2 ^ 64 ≤ store.total .products "totalSold" →
        store.summary .products = .error .overflow) := by
  refine ⟨?_, ?_, ?_⟩
  · rcases hLoaded.summary_sales with
      ⟨sales, -, hFits, hLarge⟩
    refine ⟨?_, hLarge⟩
    intro hTotal
    rcases hFits hTotal with ⟨units, hUnits, hSummary⟩
    exact ⟨_, hSummary, hUnits⟩
  · rcases hLoaded.summary_users with
      ⟨users, hUsers, hFits, hLarge⟩
    refine ⟨?_, hLarge⟩
    intro hTotal
    rcases hFits hTotal with ⟨sessions, hSessions, hSummary⟩
    have hSize : users.length = store.size .users :=
      length_of_typed_eq_ok hUsers
    refine ⟨_, hSummary, ?_⟩
    simp only [UsersSummary.ofUsers, averageOf, ofCount,
      hSessions, hSize]
  · rcases hLoaded.summary_products with
      ⟨products, -, hFits, hLarge⟩
    refine ⟨?_, hLarge⟩
    intro hTotal
    rcases hFits hTotal with ⟨sold, hSold, hSummary⟩
    exact ⟨_, hSummary, hSold⟩

/- Two users with two to the 63 sessions each. -/
def sampleSessions : String :=
  "[\x7b\"id\":1,\"name\":\"Ada\",\"email\":\"a\"," ++
    "\"role\":\"Admin\",\"status\":\"active\"," ++
    "\"lastActive\":\"\",\"joinedDate\":\"\"," ++
    "\"sessionsThisMonth\":9223372036854775808\x7d," ++
  "\x7b\"id\":2,\"name\":\"Bob\",\"email\":\"b\"," ++
    "\"role\":\"Admin\",\"status\":\"active\"," ++
    "\"lastActive\":\"\",\"joinedDate\":\"\"," ++
    "\"sessionsThisMonth\":9223372036854775808\x7d]"

/- Their sessions are one too many to be added up. -/
theorem summary_of_isLoaded_sessions :
    ∃ store,
      ofTexts "[]" sampleSessions "[]" = .ok store ∧
        store.total .users "sessionsThisMonth" = 2 ^ 64 ∧
        store.summary .users = .error .overflow ∧
        ∃ sales,
          store.summary .sales = .ok (.sales sales) ∧
            sales.totalUnits.toNat = 0 := by
  have hTotals :
      (ofTexts "[]" sampleSessions "[]").toOption.map
          (fun store =>
            (store.total .users "sessionsThisMonth",
              store.total .sales "unitsSold")) =
        some (2 ^ 64, 0) := by
    decide +kernel
  rcases exists_of_map_toOption hTotals with
    ⟨store, hStore, hSums⟩
  rcases Prod.mk.inj hSums with ⟨hSessions, hUnits⟩
  rcases summary_of_isLoaded (.inl ⟨_, _, _, hStore⟩) with
    ⟨⟨hSales, -⟩, ⟨-, hUsers⟩, -⟩
  rw [hSessions] at hUsers
  rw [hUnits] at hSales
  exact
    ⟨store, hStore, hSessions, hUsers (Nat.le_refl _),
      hSales (by decide)⟩

end Store

end Dashboard
