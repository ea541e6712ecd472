import Dashboard.Lexicon
import Dashboard.Prompt.Basic

/-
  How a prompt wants data to be shown.

  Key definitions include:
    * `Prompt.component`
    * `Prompt.chart`
-/

------------------------------------------------------------
-- Components
------------------------------------------------------------

namespace Dashboard

namespace Prompt

/- Words that ask for a chart. -/
def chartPhrases : List String :=
  ["chart", "graph", "visualization", "visualize", "plot",
    "trend"]

/- Words that ask for a card. -/
def cardPhrases : List String :=
  ["card", "cards", "summary", "overview", "stats",
    "statistics", "kpi", "metric"]

/- Words that ask for a table. -/
def tablePhrases : List String :=
  ["table", "list", "rows", "records"]

/- Words that sound like a filter. -/
def filterPhrases : List String :=
  ["filter", "where", "condition", "above", "below",
    "greater", "less", "equal"]

/- Whether any of the phrases stands in a prompt. -/
def mentionsAny
    (prompt : Prompt)
    (phrases : List String) : Bool :=
  phrases.any prompt.mentions

/-
  Words for a chart come before words for a card, and those
  before words for a table.  Without any, a prompt that
  sounds like a filter asks for a table and every other one
  for a chart.
-/
def component (prompt : Prompt) : Component :=
  if prompt.mentionsAny chartPhrases then
    .chart
  else if prompt.mentionsAny cardPhrases then
    .card
  else if prompt.mentionsAny tablePhrases ||
      prompt.mentionsAny filterPhrases then
    .table
  else
    .chart

end Prompt

end Dashboard

------------------------------------------------------------
-- Charts
------------------------------------------------------------

namespace Dashboard

namespace Prompt

/- The first kind of chart named, or a bar chart. -/
def chart
    (prompt : Prompt)
    (lexicon : Lexicon) : Chart :=
  (prompt.words.findSome? lexicon.chartFor?).getD .bar

end Prompt

end Dashboard
