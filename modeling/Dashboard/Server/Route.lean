/-
  The routes of the server.

  Key definitions include:
    * `Route`
    * `Route.ofPath?`
    * `Route.accepts`
-/

------------------------------------------------------------
-- Routes
------------------------------------------------------------

namespace Dashboard

/- What the server can be asked for. -/
inductive Route where
  | interpret
  | data
  | summary
  | schema
  | health
  | readiness
  | metrics
  | reload
deriving DecidableEq, Repr

namespace Route

/- All routes. -/
def all : List Route :=
  [interpret, data, summary, schema, health, readiness,
    metrics, reload]

/- The path of a route. -/
def path : Route → String
  | interpret => "/api/interpret"
  | data => "/api/data"
  | summary => "/api/summary"
  | schema => "/api/schema"
  | health => "/health"
  | readiness => "/ready"
  | metrics => "/metrics"
  | reload => "/admin/reload-config"

/- The route of a path, which has to be exact. -/
def ofPath? (path : String) : Option Route :=
  all.find? fun r => r.path == path

/- Whether a route acts instead of telling something. -/
def isAction : Route → Bool
  | interpret => true
  | reload => true
  | _ => false

/- The methods of a route. -/
def methods (route : Route) : List String :=
  if route.isAction then ["POST"] else ["GET", "HEAD"]

/- Whether a route can be asked for with a method. -/
def accepts (route : Route) (method : String) : Bool :=
  route.methods.contains method

/- The header field that tells the methods of a route. -/
def allowance (route : Route) : List (String × String) :=
  [("allow", ",".intercalate route.methods)]

end Route

end Dashboard
