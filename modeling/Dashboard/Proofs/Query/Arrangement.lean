import Dashboard.Query.Engine
import Mathlib.Data.List.Basic
import Mathlib.Data.List.Perm.Basic

/-
  What it means to arrange records: to put them in order, and
  to leave those that may stand either way as they were.

  Key definitions include:
    * `level`
    * `Arranges`
    * `Sorting.Follows`

  Main declarations:
    * `Arranges.eq_of_arranges`
    * `Arranges.filter`
    * `Sorting.arranges_sortRows`
-/

------------------------------------------------------------
-- Arrangements
------------------------------------------------------------

namespace Dashboard

variable {α : Type}

/- Two elements that may stand either way. -/
def level (before : α → α → Bool) (a b : α) : Bool :=
  before a b && before b a

/-
  A list arranges another if it has the same elements, every
  one may stand before those behind it, and elements that may
  stand either way are in the order they had.
-/
structure Arranges
    (before : α → α → Bool)
    (rows arranged : List α) : Prop where
  perm : arranged.Perm rows
  ordered : arranged.Pairwise fun a b => before a b = true
  stable :
    ∀ a,
      arranged.filter (level before a) =
        rows.filter (level before a)

namespace Arranges

variable {before : α → α → Bool}

/-
  In two ordered lists of the same elements the heads may
  stand either way, so a stable arrangement makes them equal.
-/
private theorem head_eq_of_perm
    {a b : α}
    {as bs : List α}
    (hRefl : ∀ x ∈ a :: as, before x x = true)
    (hPerm : (a :: as).Perm (b :: bs))
    (hFirst :
      (a :: as).Pairwise fun x y => before x y = true)
    (hSecond :
      (b :: bs).Pairwise fun x y => before x y = true)
    (hStable :
      (a :: as).filter (level before a) =
        (b :: bs).filter (level before a)) :
    a = b := by
  have hSelf : before a a = true := hRefl a List.mem_cons_self
  have hForth : before a b = true := by
    rcases List.mem_cons.mp
        (hPerm.mem_iff.mpr List.mem_cons_self) with
      hSame | hMem
    · rwa [hSame]
    · exact List.rel_of_pairwise_cons hFirst hMem
  have hBack : before b a = true := by
    rcases List.mem_cons.mp
        (hPerm.mem_iff.mp List.mem_cons_self) with
      hSame | hMem
    · rwa [← hSame]
    · exact List.rel_of_pairwise_cons hSecond hMem
  rw [List.filter_cons_of_pos (by simp [level, hSelf]),
    List.filter_cons_of_pos
      (by simp [level, hForth, hBack])] at hStable
  exact (List.cons.inj hStable).1

private theorem eq_of_perm
    {first second : List α}
    (hRefl : ∀ x ∈ first, before x x = true)
    (hPerm : first.Perm second)
    (hFirst : first.Pairwise fun x y => before x y = true)
    (hSecond : second.Pairwise fun x y => before x y = true)
    (hStable :
      ∀ a,
        first.filter (level before a) =
          second.filter (level before a)) :
    first = second := by
  induction first generalizing second with
  | nil => exact (List.nil_perm.mp hPerm).symm
  | cons a as ih =>
      cases second with
      | nil => cases List.perm_nil.mp hPerm
      | cons b bs =>
          obtain rfl : a = b :=
            head_eq_of_perm hRefl hPerm hFirst hSecond
              (hStable a)
          congr 1
          refine
            ih (fun x hMem => hRefl x (.tail _ hMem))
              hPerm.cons_inv hFirst.of_cons hSecond.of_cons ?_
          intro x
          have hBoth := hStable x
          rw [List.filter_cons, List.filter_cons] at hBoth
          split at hBoth
          · exact (List.cons.inj hBoth).2
          · exact hBoth

/- There is at most one arrangement. -/
theorem eq_of_arranges
    {rows first second : List α}
    (hRefl : ∀ x ∈ rows, before x x = true)
    (hFirst : Arranges before rows first)
    (hSecond : Arranges before rows second) :
    first = second :=
  eq_of_perm
    (fun x hMem => hRefl x (hFirst.perm.mem_iff.mp hMem))
    (hFirst.perm.trans hSecond.perm.symm)
    hFirst.ordered hSecond.ordered
    (fun a => (hFirst.stable a).trans (hSecond.stable a).symm)

/- A part of the rows is arranged like all of them. -/
theorem filter
    {rows arranged : List α}
    (hArranges : Arranges before rows arranged)
    (keep : α → Bool) :
    Arranges before (rows.filter keep)
      (arranged.filter keep) := by
  refine
    ⟨hArranges.perm.filter keep, hArranges.ordered.filter keep,
      fun a => ?_⟩
  rw [List.filter_comm, hArranges.stable, List.filter_comm]

end Arranges

end Dashboard

------------------------------------------------------------
-- Sorted Records
------------------------------------------------------------

namespace Dashboard

/-
  On these records, a sort follows an order: it puts a record
  first exactly if the other may not stand before it.
-/
structure Sorting.Follows
    (sort : Sorting)
    (before : Record → Record → Bool)
    (rows : List Record) : Prop where
  trans :
    ∀ {x y z},
      before x y = true → before y z = true →
        before x z = true
  total :
    ∀ x ∈ rows, ∀ y ∈ rows,
      before x y = true ∨ before y x = true
  compare :
    ∀ x ∈ rows, ∀ y ∈ rows,
      sort.compare x y = .lt ↔ before y x = false

namespace Sorting

variable {sort : Sorting}
variable {before : Record → Record → Bool}
variable {rows : List Record}

theorem insertRow_perm
    (row : Record)
    (done : List Record) :
    (sort.insertRow row done).Perm (row :: done) := by
  induction done with
  | nil => exact .refl _
  | cons last rest ih =>
      rw [insertRow]
      split
      · exact (ih.cons last).trans (.swap row last rest)
      · exact .refl _

theorem foldl_insertRow_perm
    (sort : Sorting)
    (rows done : List Record) :
    (rows.foldl (fun done row => sort.insertRow row done)
        done).Perm
      (rows ++ done) := by
  induction rows generalizing done with
  | nil => exact .refl _
  | cons row rest ih =>
      calc
        (rest.foldl (fun done row => sort.insertRow row done)
            (sort.insertRow row done)).Perm
            (rest ++ sort.insertRow row done) := ih _
        List.Perm _ (rest ++ row :: done) :=
          (insertRow_perm row done).append_left rest
        List.Perm _ (row :: rest ++ done) :=
          List.perm_middle

/- A sort keeps the records, whatever their values are. -/
theorem sortRows_perm
    (sort : Sorting)
    (rows : List Record) :
    (sort.sortRows rows).Perm rows := by
  have hFold := foldl_insertRow_perm sort rows []
  rw [List.append_nil] at hFold
  exact (List.reverse_perm _).trans hFold

/- The records are kept with the last one first. -/
theorem pairwise_insertRow
    (hFollows : sort.Follows before rows)
    {row : Record}
    {done : List Record}
    (hRow : row ∈ rows)
    (hDone : ∀ x ∈ done, x ∈ rows)
    (hOrdered :
      done.Pairwise fun x y => before y x = true) :
    (sort.insertRow row done).Pairwise fun x y =>
      before y x = true := by
  induction done with
  | nil => exact List.pairwise_singleton _ _
  | cons last rest ih =>
      rw [List.forall_mem_cons] at hDone
      rcases hDone with ⟨hLast, hRest⟩
      rcases List.pairwise_cons.mp hOrdered with
        ⟨hBehind, hOrderedRest⟩
      have hLess := hFollows.compare row hRow last hLast
      rw [insertRow]
      split
      · rename_i hPasses
        have hBefore : before row last = true :=
          (hFollows.total row hRow last hLast).resolve_right
            (by simp [hLess.mp hPasses])
        refine
          List.pairwise_cons.mpr ⟨?_, ih hRest hOrderedRest⟩
        intro x hMem
        rcases List.mem_cons.mp
            ((insertRow_perm row rest).mem_iff.mp hMem) with
          rfl | hMem
        · exact hBefore
        · exact hBehind x hMem
      · rename_i hStays
        have hBefore : before last row = true := by
          rw [← Bool.not_eq_false]
          exact fun hNot => hStays (hLess.mpr hNot)
        refine List.pairwise_cons.mpr ⟨?_, hOrdered⟩
        intro x hMem
        rcases List.mem_cons.mp hMem with rfl | hMem
        · exact hBefore
        · exact hFollows.trans (hBehind x hMem) hBefore

/- A record passes none that may stand either way with it. -/
theorem filter_insertRow
    (hFollows : sort.Follows before rows)
    {row : Record}
    {done : List Record}
    (hRow : row ∈ rows)
    (hDone : ∀ x ∈ done, x ∈ rows)
    (a : Record) :
    (sort.insertRow row done).filter (level before a) =
      (row :: done).filter (level before a) := by
  induction done with
  | nil => rfl
  | cons last rest ih =>
      rw [List.forall_mem_cons] at hDone
      rcases hDone with ⟨hLast, hRest⟩
      rw [insertRow]
      split
      · rename_i hPasses
        have hNot : before last row = false :=
          (hFollows.compare row hRow last hLast).mp hPasses
        have hApart :
            level before a last = true →
              level before a row = false := by
          intro hLevel
          rw [← Bool.not_eq_true]
          intro hSame
          rw [level, Bool.and_eq_true] at hLevel hSame
          have hBefore : before last row = true :=
            hFollows.trans hLevel.2 hSame.1
          simp [hNot] at hBefore
        rw [List.filter_cons, ih hRest]
        cases hLevel : level before a last with
        | false => simp [List.filter_cons, hLevel]
        | true => simp [hLevel, hApart hLevel]
      · rfl

/- One step of a sort arranges one record more. -/
theorem arranges_insertRow
    (hFollows : sort.Follows before rows)
    {row : Record}
    {seen done : List Record}
    (hRow : row ∈ rows)
    (hMembers : ∀ x ∈ seen, x ∈ rows)
    (hSeen : Arranges before seen done.reverse) :
    Arranges before (seen ++ [row])
      (sort.insertRow row done).reverse := by
  have hDone : ∀ x ∈ done, x ∈ rows := by
    intro x hMem
    apply hMembers
    exact hSeen.perm.mem_iff.mp (List.mem_reverse.mpr hMem)
  refine ⟨?_, ?_, fun a => ?_⟩
  · have hPerm : done.Perm seen :=
      (List.reverse_perm done).symm.trans hSeen.perm
    calc
      (sort.insertRow row done).reverse.Perm
          (sort.insertRow row done) := List.reverse_perm _
      List.Perm _ (row :: done) := insertRow_perm row done
      List.Perm _ (row :: seen) := hPerm.cons row
      List.Perm _ (seen ++ [row]) :=
        (List.perm_append_singleton row seen).symm
  · rw [List.pairwise_reverse]
    exact
      pairwise_insertRow hFollows hRow hDone
        (List.pairwise_reverse.mp hSeen.ordered)
  · have hStable := hSeen.stable a
    rw [List.filter_reverse] at hStable
    rw [List.filter_reverse,
      filter_insertRow hFollows hRow hDone,
      List.filter_append, ← hStable, List.filter_cons,
      List.filter_cons]
    split <;> simp

/- The rest of a sort arranges the rest of the records. -/
theorem arranges_foldl_insertRow
    (hFollows : sort.Follows before rows)
    {seen rest done : List Record}
    (hRows : seen ++ rest = rows)
    (hSeen : Arranges before seen done.reverse) :
    Arranges before rows
      (rest.foldl (fun done row => sort.insertRow row done)
        done).reverse := by
  induction rest generalizing seen done with
  | nil =>
      rw [List.append_nil] at hRows
      rwa [← hRows]
  | cons row rest ih =>
      have hNext : seen ++ [row] ++ rest = rows := by
        rwa [List.append_assoc]
      apply ih hNext
      apply arranges_insertRow hFollows
      · simp [← hNext]
      · intro x hMem
        simp [← hNext, hMem]
      · exact hSeen

/- A sort arranges records whose order it follows. -/
theorem arranges_sortRows
    (hFollows : sort.Follows before rows) :
    Arranges before rows (sort.sortRows rows) :=
  arranges_foldl_insertRow hFollows (List.nil_append rows)
    ⟨.refl _, .nil, fun _ => rfl⟩

end Sorting

end Dashboard
