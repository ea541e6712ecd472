import Dashboard.Http.Message
import Dashboard.Settings.Basic

/-
  Which pages of other origins may use the server.

  Key definitions include:
    * `CrossOrigin`
    * `CrossOrigin.ofSettings?`
    * `CrossOrigin.fields`
    * `CrossOrigin.preflight`
-/

------------------------------------------------------------
-- Policies
------------------------------------------------------------

namespace Dashboard

/-
  A policy for pages of other origins: every origin is
  allowed, or one that is told to everybody, or the members
  of a list, each of which is told about itself.
-/
inductive CrossOrigin where
  | anyone
  | single (origin : String)
  | listed (origins : List String)
deriving DecidableEq, Repr

namespace CrossOrigin

/- The sign for every origin, which no list may hold. -/
def wildcard : String := "*"

/-
  The policy that settings ask for.  Origins that may not
  stand in a header field are left out; there is no policy
  for a list with the sign for every origin.
-/
def ofSettings?
    (settings : ServerSettings) : Option CrossOrigin :=
  let origins :=
    settings.corsOrigins.filter HttpHeader.isLegal
  if !settings.corsEnabled then
    some anyone
  else if origins.isEmpty then
    some (single ServerSettings.defaultOrigin)
  else if origins.contains wildcard then
    none
  else
    some (listed origins)

/- The origin that is told to be allowed, if there is one. -/
def allowed?
    (policy : CrossOrigin)
    (origin : Option String) : Option String :=
  match policy with
  | anyone => some wildcard
  | single allowed => some allowed
  | listed origins => origin.filter origins.contains

/- The header fields of a policy in every response. -/
def fields
    (policy : CrossOrigin)
    (request : HttpRequest) : List (String × String) :=
  (policy.allowed? (request.header? "origin")).toList.map
    fun origin => ("access-control-allow-origin", origin)

/- The methods that a policy allows. -/
def methods : CrossOrigin → String
  | anyone => wildcard
  | _ => "GET,POST,OPTIONS"

/- The response to a question about what is allowed. -/
def preflight
    (policy : CrossOrigin)
    (request : HttpRequest) : HttpResponse :=
  HttpResponse.withHeaders (.bare 200)
    (policy.fields request ++
      [("access-control-allow-methods", policy.methods),
        ("access-control-allow-headers", wildcard)])

end CrossOrigin

end Dashboard
