import Dashboard.Proofs.Query.Reading

/-
  Comparing any records at all by a field.  Turned round, a
  comparison gives the opposite.  Comparisons can be chained
  when numbers stand among numbers, or are in the order of
  their texts; where two numbers in another order meet a text,
  there can be a cycle.

  Key definitions include:
    * `Sorting.compareTexts`
    * `Sorting.Coherent`
    * `Sorting.presentIn`

  Main declarations:
    * `Sorting.compare_swap`
    * `Sorting.ascending_isLE_trans`
    * `Sorting.compare_preorder_of_coherent`
    * `Sorting.compare_cycle_of_mixed`
-/

------------------------------------------------------------
-- Coherent Values
------------------------------------------------------------

namespace Dashboard

namespace Sorting

/- The order of two values by their lowercase texts. -/
def compareTexts (x y : Json) : Ordering :=
  Text.order (Text.lowercase x.asText.toList)
    (Text.lowercase y.asText.toList)

/- Whether a value is a number. -/
def IsNumber (value : Json) : Prop :=
  ∃ n, value = .number n

/-
  All values are numbers, or all of them are in the order of
  their texts.
-/
def Coherent (values : List Json) : Prop :=
  (∀ x ∈ values, IsNumber x) ∨
    ∀ x ∈ values, ∀ y ∈ values,
      compareValues x y = compareTexts x y

/- The values of a field that some records have. -/
def presentIn
    (field : String)
    (records : List Record) : List Json :=
  records.filterMap fun record => record.value? field

/- Two numbers are compared as numbers. -/
theorem compareValues_number (m n : JsonNumber) :
    compareValues (.number m) (.number n) =
      (m.toDouble.compare? n.toDouble).getD .eq := rfl

theorem compareTexts_swap (x y : Json) :
    (compareTexts x y).swap = compareTexts y x :=
  Text.order_swap _ _

/- Only two numbers are not compared by their texts. -/
theorem compareValues_eq_compareTexts
    {x y : Json}
    (hOther : ¬ IsNumber x ∨ ¬ IsNumber y) :
    compareValues x y = compareTexts x y := by
  unfold compareValues
  split
  · rcases hOther with hFirst | hSecond
    · exact absurd ⟨_, rfl⟩ hFirst
    · exact absurd ⟨_, rfl⟩ hSecond
  · rfl

end Sorting

end Dashboard

------------------------------------------------------------
-- Turning Round
------------------------------------------------------------

namespace Dashboard

theorem Binary.compare?_getD_swap
    {f : FloatFormat}
    (x y : Binary f) :
    ((x.compare? y).getD .eq).swap =
      (y.compare? x).getD .eq := by
  unfold compare?
  cases x.rank? with
  | none => cases y.rank? <;> rfl
  | some a =>
      cases y.rank? with
      | none => rfl
      | some b =>
          have hSwap : compare b a = (compare a b).swap :=
            Std.OrientedCmp.eq_swap
          exact hSwap.symm

namespace Sorting

theorem compareValues_swap (x y : Json) :
    (compareValues x y).swap = compareValues y x := by
  by_cases hNumbers : IsNumber x ∧ IsNumber y
  · rcases hNumbers with ⟨⟨m, rfl⟩, ⟨n, rfl⟩⟩
    exact Binary.compare?_getD_swap m.toDouble n.toDouble
  · rw [Classical.not_and_iff_not_or_not] at hNumbers
    rw [compareValues_eq_compareTexts hNumbers,
      compareValues_eq_compareTexts hNumbers.symm]
    exact compareTexts_swap x y

theorem ascending_swap (x y : Option Json) :
    (ascending x y).swap = ascending y x := by
  cases x with
  | none => cases y <;> rfl
  | some a =>
      cases y with
      | none => rfl
      | some b => exact compareValues_swap a b

/- Two records are compared the same from either side. -/
theorem compare_swap
    (sort : Sorting)
    (x y : Record) :
    (sort.compare x y).swap = sort.compare y x := by
  have hAscending :=
    ascending_swap (x.value? sort.field) (y.value? sort.field)
  unfold compare
  cases sort.direction with
  | asc => exact hAscending
  | desc => exact congrArg Ordering.swap hAscending

end Sorting

end Dashboard

------------------------------------------------------------
-- Chains
------------------------------------------------------------

namespace Dashboard

namespace Sorting

/- Comparisons of numbers can be chained. -/
theorem compareValues_isLE_trans_of_numbers
    {l m n : JsonNumber}
    (hL : l.toDouble ≠ .notANumber)
    (hM : m.toDouble ≠ .notANumber)
    (hN : n.toDouble ≠ .notANumber)
    (hFirst :
      (compareValues (.number l) (.number m)).isLE = true)
    (hSecond :
      (compareValues (.number m) (.number n)).isLE = true) :
    (compareValues (.number l) (.number n)).isLE = true := by
  rcases Binary.exists_rank hL with ⟨a, hA⟩
  rcases Binary.exists_rank hM with ⟨b, hB⟩
  rcases Binary.exists_rank hN with ⟨c, hC⟩
  rw [compareValues_number, Binary.compare?_of_rank hA hB,
    Option.getD_some] at hFirst
  rw [compareValues_number, Binary.compare?_of_rank hB hC,
    Option.getD_some] at hSecond
  rw [compareValues_number, Binary.compare?_of_rank hA hC,
    Option.getD_some]
  exact Std.TransCmp.isLE_trans hFirst hSecond

/- Comparisons of coherent values can be chained. -/
theorem compareValues_isLE_trans
    {x y z : Json}
    (hDefined :
      ∀ n, .number n ∈ [x, y, z] →
        n.toDouble ≠ .notANumber)
    (hCoherent : Coherent [x, y, z])
    (hFirst : (compareValues x y).isLE = true)
    (hSecond : (compareValues y z).isLE = true) :
    (compareValues x z).isLE = true := by
  rcases hCoherent with hNumbers | hTexts
  · rcases hNumbers x (by simp) with ⟨l, rfl⟩
    rcases hNumbers y (by simp) with ⟨m, rfl⟩
    rcases hNumbers z (by simp) with ⟨n, rfl⟩
    exact
      compareValues_isLE_trans_of_numbers
        (hDefined l (by simp)) (hDefined m (by simp))
        (hDefined n (by simp)) hFirst hSecond
  · rw [hTexts x (by simp) y (by simp)] at hFirst
    rw [hTexts y (by simp) z (by simp)] at hSecond
    rw [hTexts x (by simp) z (by simp)]
    exact Text.order_isLE_trans hFirst hSecond

/- A missing value is behind every other. -/
theorem ascending_isLE_trans
    {x y z : Option Json}
    (hDefined :
      ∀ n, some (.number n) ∈ [x, y, z] →
        n.toDouble ≠ .notANumber)
    (hCoherent : Coherent ([x, y, z].filterMap id))
    (hFirst : (ascending x y).isLE = true)
    (hSecond : (ascending y z).isLE = true) :
    (ascending x z).isLE = true := by
  cases z with
  | none => cases x <;> rfl
  | some c =>
      cases y with
      | none => cases hSecond
      | some b =>
          cases x with
          | none => cases hFirst
          | some a =>
              apply
                compareValues_isLE_trans _ hCoherent hFirst
                  hSecond
              intro n hMem
              apply hDefined n
              simpa using hMem

end Sorting

end Dashboard

------------------------------------------------------------
-- Main Result
------------------------------------------------------------

namespace Dashboard

/- A number that a record has in a field is defined. -/
theorem Store.Defined.toDouble_ne_notANumber
    {record : Record}
    (hDefined : Defined record)
    {field : String}
    {n : JsonNumber}
    (hValue : record.value? field = some (.number n)) :
    n.toDouble ≠ .notANumber := by
  apply hDefined
  rw [Json.mem_memberNumbers_iff]
  exact
    ⟨(field, .number n), Record.mem_of_value?_eq_some hValue,
      by simp [Json.numbers]⟩

namespace Sorting

/- Fewer values are coherent when more of them are. -/
theorem Coherent.mono
    {fewer more : List Json}
    (hSubset : ∀ x ∈ fewer, x ∈ more)
    (hCoherent : Coherent more) :
    Coherent fewer := by
  rcases hCoherent with hNumbers | hTexts
  · exact .inl fun x hX => hNumbers x (hSubset x hX)
  · exact
      .inr fun x hX y hY =>
        hTexts x (hSubset x hX) y (hSubset y hY)

/- Records with coherent values are in one order. -/
theorem ascending_isLE_trans_of_records
    {field : String}
    {a b c : Record}
    (hDefined : ∀ record ∈ [a, b, c], Store.Defined record)
    (hCoherent : Coherent (presentIn field [a, b, c]))
    (hFirst :
      (ascending (a.value? field) (b.value? field)).isLE =
        true)
    (hSecond :
      (ascending (b.value? field) (c.value? field)).isLE =
        true) :
    (ascending (a.value? field) (c.value? field)).isLE =
      true := by
  refine ascending_isLE_trans ?_ hCoherent hFirst hSecond
  intro n hMem
  have hValues :
      some (.number n) ∈
        [a, b, c].map fun record => record.value? field := hMem
  rcases List.mem_map.mp hValues with
    ⟨record, hRecord, hValue⟩
  exact (hDefined record hRecord).toDouble_ne_notANumber hValue

/-
  Every sort compares any two records the same from either
  side.  Three records whose values are coherent are compared
  in one order, in either direction of the sort.
-/
theorem compare_preorder_of_coherent
    (sort : Sorting)
    {a b c : Record}
    (hDefined : ∀ record ∈ [a, b, c], Store.Defined record) :
    (∀ x y, sort.compare y x = (sort.compare x y).swap) ∧
      (Coherent (presentIn sort.field [a, b, c]) →
        sort.compare a b ≠ .gt →
          sort.compare b c ≠ .gt →
            sort.compare a c ≠ .gt) := by
  refine ⟨fun x y => (sort.compare_swap x y).symm, ?_⟩
  intro hCoherent hFirst hSecond
  rcases sort with ⟨field, direction⟩
  cases direction with
  | asc =>
      exact
        Ordering.ne_gt_iff_isLE.mpr
          (ascending_isLE_trans_of_records hDefined hCoherent
            (Ordering.ne_gt_iff_isLE.mp hFirst)
            (Ordering.ne_gt_iff_isLE.mp hSecond))
  | desc =>
      -- The same order of the records in reverse.
      have hReverse :
          ∀ record, record ∈ [c, b, a] → record ∈ [a, b, c] := by
        intro record hMem
        simpa [or_comm, or_assoc, or_left_comm] using hMem
      have hBack :
          Coherent (presentIn field [c, b, a]) := by
        apply hCoherent.mono
        intro value hMem
        rcases List.mem_filterMap.mp hMem with
          ⟨record, hRecord, hValue⟩
        exact
          List.mem_filterMap.mpr
            ⟨record, hReverse record hRecord, hValue⟩
      rw [compare, ascending_swap] at hFirst hSecond ⊢
      exact
        Ordering.ne_gt_iff_isLE.mpr
          (ascending_isLE_trans_of_records
            (fun record hMem =>
              hDefined record (hReverse record hMem))
            hBack
            (Ordering.ne_gt_iff_isLE.mp hSecond)
            (Ordering.ne_gt_iff_isLE.mp hFirst))

/- A record with one value. -/
def sized (value : Json) : Record :=
  [("size", value)]

/- An ascending sort by that value. -/
def bySize : Sorting := ⟨"size", .asc⟩

/-
  Without coherence, comparisons cannot be chained: a text
  that stands between ten and nine makes a cycle.
-/
theorem compare_cycle_of_mixed :
    bySize.compare (sized (.ofNat 10))
        (sized (.string "1a")) ≠ .gt ∧
      bySize.compare (sized (.string "1a"))
          (sized (.ofNat 9)) ≠ .gt ∧
      bySize.compare (sized (.ofNat 10)) (sized (.ofNat 9)) =
        .gt ∧
      ¬ Coherent
        (presentIn bySize.field
          [sized (.ofNat 10), sized (.string "1a"),
            sized (.ofNat 9)]) := by
  have hOrders :
      compareValues (.ofNat 10) (.ofNat 9) ≠
        compareTexts (.ofNat 10) (.ofNat 9) := by
    decide +kernel
  refine
    ⟨by decide +kernel, by decide +kernel,
      by decide +kernel, ?_⟩
  rintro (hNumbers | hTexts)
  · rcases hNumbers (.string "1a") (.tail _ (.head _)) with
      ⟨n, ⟨⟩⟩
  · exact
      hOrders
        (hTexts _ (.head _) _ (.tail _ (.tail _ (.head _))))

theorem defined_sized
    {value : Json}
    (hValue :
      ∀ n ∈ value.numbers, n.toDouble ≠ .notANumber) :
    Store.Defined (sized value) := by
  unfold Store.Defined sized
  rw [Json.memberNumbers, Json.memberNumbers, List.append_nil]
  exact hValue

/- Between ten and twenty, a text is in its place. -/
theorem compare_preorder_of_coherent_sized :
    (∀ record ∈
        [sized (.ofNat 10), sized (.string "1a"),
          sized (.ofNat 20)],
        Store.Defined record) ∧
      Coherent
        (presentIn bySize.field
          [sized (.ofNat 10), sized (.string "1a"),
            sized (.ofNat 20)]) ∧
      bySize.compare (sized (.ofNat 10))
          (sized (.string "1a")) ≠ .gt ∧
      bySize.compare (sized (.string "1a"))
          (sized (.ofNat 20)) ≠ .gt ∧
      bySize.compare (sized (.ofNat 10))
          (sized (.ofNat 20)) ≠ .gt := by
  have hNat :
      ∀ k : Nat, Store.Defined (sized (.ofNat k)) := by
    intro k
    apply defined_sized
    intro n hMem
    rw [List.mem_singleton.mp hMem]
    exact Binary.ofInt_ne_notANumber k
  have hText : Store.Defined (sized (.string "1a")) := by
    apply defined_sized
    rintro n ⟨⟩
  have hDefined :
      ∀ record ∈
        [sized (.ofNat 10), sized (.string "1a"),
          sized (.ofNat 20)],
        Store.Defined record := by
    simp [hNat, hText]
  have hCoherent :
      Coherent [.ofNat 10, .string "1a", .ofNat 20] := by
    right
    decide +kernel
  have hFirst :
      bySize.compare (sized (.ofNat 10))
          (sized (.string "1a")) = .lt := by
    decide +kernel
  have hSecond :
      bySize.compare (sized (.string "1a"))
          (sized (.ofNat 20)) = .lt := by
    decide +kernel
  have hChain :=
    (compare_preorder_of_coherent bySize hDefined).2 hCoherent
      (by simp [hFirst]) (by simp [hSecond])
  exact
    ⟨hDefined, hCoherent, by simp [hFirst], by simp [hSecond],
      hChain⟩

end Sorting

end Dashboard
