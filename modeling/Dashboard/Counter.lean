import Dashboard.Dataset
import Dashboard.Server.Route

/-
  Counters of what the server does.

  Key definitions include:
    * `Counter`
    * `Counters.add`
    * `Counters.value`
    * `Counters.exposition`
-/

------------------------------------------------------------
-- Counters
------------------------------------------------------------

namespace Dashboard

/-
  What is counted: interpretations by their source, uses of
  the rules by their reason, queries by their dataset, and
  requests by route, method and status.
-/
inductive Counter where
  | interpretations (source : String)
  | fallbacks (reason : String)
  | dataQueries (dataset : Dataset)
  | requests (route : Route) (method : String) (status : Nat)
deriving DecidableEq, Repr

namespace Counter

/- The name of a counter. -/
def name : Counter → String
  | interpretations _ => "dashboard_interpretations_total"
  | fallbacks _ => "dashboard_fallbacks_total"
  | dataQueries _ => "dashboard_data_queries_total"
  | requests .. => "dashboard_request_duration_seconds_count"

/- The labels of a counter. -/
def labels : Counter → List (String × String)
  | interpretations source => [("source", source)]
  | fallbacks reason => [("reason", reason)]
  | dataQueries dataset => [("dataset", dataset.name)]
  | requests route method status =>
      [("route", route.path), ("method", method),
        ("status", toString status)]

/- The labels of a counter as they are shown. -/
def labelsText (counter : Counter) : String :=
  ",".intercalate
    (counter.labels.map fun label =>
      label.1 ++ "=\"" ++ label.2 ++ "\"")

/- The line that shows the value of a counter. -/
def line (counter : Counter) (value : Nat) : String :=
  counter.name ++ "\x7b" ++ counter.labelsText ++ "\x7d " ++
    toString value

end Counter

end Dashboard

------------------------------------------------------------
-- Values
------------------------------------------------------------

namespace Dashboard

/- The values of the counters that have been used. -/
abbrev Counters := List (Counter × Nat)

namespace Counters

/- The value of a counter, which is zero at first. -/
def value
    (counters : Counters)
    (counter : Counter) : Nat :=
  (counters.lookup counter).getD 0

/- One more of something. -/
def add (counter : Counter) : Counters → Counters
  | [] => [(counter, 1)]
  | (other, count) :: rest =>
      if counter = other then
        (other, count + 1) :: rest
      else
        (other, count) :: add counter rest

/- One more of each of several things. -/
def addAll
    (counters : Counters)
    (more : List Counter) : Counters :=
  more.foldl (fun sum counter => add counter sum) counters

/- Add a line where it belongs among lines in order. -/
def insertLine
    (line : String) : List String → List String
  | [] => [line]
  | other :: rest =>
      if line < other then
        line :: other :: rest
      else
        other :: insertLine line rest

/- The lines of all counters in order. -/
def lines (counters : Counters) : List String :=
  counters.foldl
    (fun sorted entry =>
      insertLine (entry.1.line entry.2) sorted)
    []

/- The text that shows all counters, one on each line. -/
def exposition (counters : Counters) : String :=
  String.join (counters.lines.map (· ++ "\n"))

end Counters

end Dashboard
