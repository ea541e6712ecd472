import Dashboard.Interpretation.Caption
import Dashboard.Prompt.Criteria
import Dashboard.Prompt.Presentation
import Dashboard.Prompt.Subject

/-
  Interpreting prompts by fixed rules.

  Key definitions include:
    * `Lexicon.interpret`
    * `Lexicon.interpretAll`

  Every prompt has an interpretation, the empty one too.
-/

------------------------------------------------------------
-- Assembly
------------------------------------------------------------

namespace Dashboard

namespace Prompt

/- A kind of chart, for a chart only. -/
def chart?
    (prompt : Prompt)
    (lexicon : Lexicon) : Option Chart :=
  if prompt.component = .chart then
    some (prompt.chart lexicon)
  else
    none

/- The filters, if there are any. -/
def filters?
    (prompt : Prompt)
    (lexicon : Lexicon)
    (dataset : Dataset) : Option (List Filter) :=
  match prompt.filters lexicon dataset with
  | [] => none
  | filters => some filters

/- The limit, unless it is zero. -/
def positiveLimit? (prompt : Prompt) : Option UInt64 :=
  prompt.limit?.filter (· != 0)

/- The interpretation of a prompt for one dataset. -/
def interpretFor
    (prompt : Prompt)
    (lexicon : Lexicon)
    (dataset : Dataset) : Interpretation :=
  Interpretation.caption
    { component := prompt.component
      dataset := dataset
      chart := prompt.chart? lexicon
      filters := prompt.filters? lexicon dataset
      sort := prompt.sort? lexicon
      limit := prompt.positiveLimit?
      title := ""
      description := "" }

end Prompt

end Dashboard

------------------------------------------------------------
-- Interpretation
------------------------------------------------------------

namespace Dashboard

namespace Lexicon

/- The interpretation for the most likely dataset. -/
def interpret
    (lexicon : Lexicon)
    (written : String) : Interpretation :=
  let prompt := Prompt.ofString written
  prompt.interpretFor lexicon (prompt.dataset lexicon)

/- One interpretation for each dataset of the prompt. -/
def interpretAll
    (lexicon : Lexicon)
    (written : String) : List Interpretation :=
  let prompt := Prompt.ofString written
  (prompt.datasets lexicon).map
    (prompt.interpretFor lexicon)

end Lexicon

end Dashboard
