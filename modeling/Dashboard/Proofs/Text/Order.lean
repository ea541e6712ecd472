import Dashboard.Text.Order
import Mathlib.Data.List.Basic

/-
  The order of texts is the lexicographic order of their code
  points, so any two texts can be compared and comparisons
  can be chained.

  Main declarations:
    * `Text.order_eq_compare`
    * `Text.order_swap`
    * `Text.order_isLE_trans`
-/

------------------------------------------------------------
-- Order By Code Points
------------------------------------------------------------

namespace Dashboard.Text

/- Texts are ordered as the lists of their code points. -/
theorem order_eq_compare (s t : List Char) :
    order s t =
      compare (s.map Char.toNat) (t.map Char.toNat) := by
  induction s generalizing t with
  | nil =>
      cases t with
      | nil => rfl
      | cons b bs => rfl
  | cons a as ih =>
      cases t with
      | nil => rfl
      | cons b bs =>
          rw [List.map_cons, List.map_cons,
            List.compare_cons_cons, ← ih, order]
          cases compare a.toNat b.toNat with
          | lt => rfl
          | eq => rfl
          | gt => rfl

theorem order_swap (s t : List Char) :
    (order s t).swap = order t s := by
  rw [order_eq_compare, order_eq_compare]
  exact Std.OrientedCmp.eq_swap.symm

theorem order_isLE_trans
    {s t u : List Char}
    (hFirst : (order s t).isLE = true)
    (hSecond : (order t u).isLE = true) :
    (order s u).isLE = true := by
  rw [order_eq_compare] at hFirst hSecond ⊢
  exact Std.TransCmp.isLE_trans hFirst hSecond

theorem order_isLE_total (s t : List Char) :
    (order s t).isLE = true ∨ (order t s).isLE = true := by
  rw [← order_swap s t]
  cases order s t with
  | lt => exact .inl rfl
  | eq => exact .inl rfl
  | gt => exact .inr rfl

end Dashboard.Text
