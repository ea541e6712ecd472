/-
  How data is shown: as a chart, a table or a card.

  Key definitions include:
    * `Component`
    * `Chart`
-/

------------------------------------------------------------
-- Components
------------------------------------------------------------

namespace Dashboard

/- A way to show data. -/
inductive Component where
  | chart
  | table
  | card
deriving DecidableEq, Repr

namespace Component

/- All components. -/
def all : List Component :=
  [chart, table, card]

/- The name of a component. -/
def name : Component → String
  | chart => "chart"
  | table => "table"
  | card => "card"

/- The noun that ends a title. -/
def noun : Component → String
  | chart => "Chart"
  | table => "Data"
  | card => "Summary"

/- The component of a name, which has to be exact. -/
def ofName? (name : String) : Option Component :=
  all.find? fun c => c.name == name

end Component

end Dashboard

------------------------------------------------------------
-- Charts
------------------------------------------------------------

namespace Dashboard

/- A kind of chart. -/
inductive Chart where
  | bar
  | line
  | area
deriving DecidableEq, Repr

namespace Chart

/- All kinds of charts. -/
def all : List Chart :=
  [bar, line, area]

/- The name of a kind of chart. -/
def name : Chart → String
  | bar => "bar"
  | line => "line"
  | area => "area"

/- The kind of chart of a name, which has to be exact. -/
def ofName? (name : String) : Option Chart :=
  all.find? fun c => c.name == name

end Chart

end Dashboard
