/-
  The order of texts by code points.

  Key definitions include:
    * `Text.order`
-/

------------------------------------------------------------
-- Order
------------------------------------------------------------

namespace Dashboard.Text

/-
  The order of two texts: the first difference decides, and a
  text comes before its continuations.
-/
def order : List Char → List Char → Ordering
  | [], [] => .eq
  | [], _ :: _ => .lt
  | _ :: _, [] => .gt
  | a :: as, b :: bs =>
      match compare a.toNat b.toNat with
      | .eq => order as bs
      | decided => decided

end Dashboard.Text
