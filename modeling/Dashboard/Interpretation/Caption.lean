import Dashboard.Interpretation.Basic

/-
  The title and the description of an interpretation.

  Key definitions include:
    * `Interpretation.makeTitle`
    * `Interpretation.makeDescription`
    * `Interpretation.caption`
-/

------------------------------------------------------------
-- Titles
------------------------------------------------------------

namespace Dashboard

namespace Interpretation

/- The title, such as `Top 5 Users (Filtered) Data`. -/
def makeTitle (i : Interpretation) : String :=
  (match i.limit with
    | some limit => "Top " ++ toString limit.toNat ++ " "
    | none => "") ++
    i.dataset.titleName ++
    (if i.filterList.isEmpty then "" else " (Filtered)") ++
    " " ++ i.component.noun

end Interpretation

end Dashboard

------------------------------------------------------------
-- Descriptions
------------------------------------------------------------

namespace Dashboard

namespace Interpretation

/- What is said about the filters. -/
def filtersPart (i : Interpretation) : List String :=
  if i.filterList.isEmpty then
    []
  else
    ["Filtered: " ++
      ", ".intercalate (i.filterList.map Filter.describe)]

/- What is said about the sort. -/
def sortPart (i : Interpretation) : List String :=
  match i.sort with
  | some sort =>
      ["Sorted by " ++ sort.field ++ " (" ++
        sort.direction.name ++ ")"]
  | none => []

/- What is said about the limit. -/
def limitPart (i : Interpretation) : List String :=
  match i.limit with
  | some limit =>
      ["Showing top " ++ toString limit.toNat ++ " results"]
  | none => []

/- The description of the criteria, if there are any. -/
def makeDescription (i : Interpretation) : String :=
  let parts := i.filtersPart ++ i.sortPart ++ i.limitPart
  if parts.isEmpty then
    "All available data"
  else
    " • ".intercalate parts

/- The interpretation with its title and description. -/
def caption (i : Interpretation) : Interpretation :=
  { i with
    title := i.makeTitle
    description := i.makeDescription }

end Interpretation

end Dashboard
