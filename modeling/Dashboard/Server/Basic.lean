import Dashboard.Server.CrossOrigin
import Dashboard.Server.Endpoint

/-
  The server: requests in, responses out.

  Key definitions include:
    * `Server`
    * `Server.start`
    * `Server.respond`
    * `Server.run`
-/

------------------------------------------------------------
-- Servers
------------------------------------------------------------

namespace Dashboard

/-
  A server: what it keeps between requests, and what is
  settled when it starts, the policy for other origins and
  the time for a request in milliseconds.
-/
structure Server where
  crossOrigin : CrossOrigin
  timeoutMs : Nat
  state : ServerState

/- Why a server cannot start. -/
inductive StartError where
  | server (cause : ServerError)
  | wildcardOrigin
deriving DecidableEq, Repr

/- The error in words. -/
def StartError.message : StartError → String
  | server cause => cause.message
  | wildcardOrigin =>
      "Wildcard origin cannot be one of a list"

namespace Server

/- The server that begins in a state. -/
def ofState (state : ServerState) : Except StartError Server :=
  let settings := state.settings.server
  match CrossOrigin.ofSettings? settings with
  | none => .error .wildcardOrigin
  | some policy =>
      .ok
        { crossOrigin := policy
          timeoutMs := settings.timeoutSeconds.toNat * 1000
          state := state }

/- The server that settings ask for. -/
def start
    (settings : Settings)
    (files : String → Dataset → Option String)
    (exchange : Exchange)
    (observed : Bool) : Except StartError Server :=
  let begun :=
    ServerState.ofSettings settings files exchange observed
  match begun with
  | .error e => .error (.server e)
  | .ok state => ofState state

end Server

end Dashboard

------------------------------------------------------------
-- Requests
------------------------------------------------------------

namespace Dashboard

namespace ServerState

/-
  The response on a route.  A request for no more than the
  header fields is answered without content.
-/
def respondOn
    (state : ServerState)
    (outside : Outside)
    (route : Route)
    (request : HttpRequest) : Reaction :=
  if route.accepts request.method then
    let reaction := state.answer outside route request
    if request.method = "HEAD" then
      ⟨reaction.delay,
        reaction.value.1.map HttpResponse.withoutContent,
        reaction.value.2⟩
    else
      reaction
  else
    .atOnce state
      (HttpResponse.withHeaders (.bare 405) route.allowance)

/-
  The response to a request, which is counted if its path is
  that of a route and there is a response.
-/
def dispatch
    (state : ServerState)
    (outside : Outside)
    (request : HttpRequest) : Reaction :=
  match Route.ofPath? request.path with
  | none => .atOnce state (.bare 404)
  | some route =>
      let reaction := state.respondOn outside route request
      let (response?, next) := reaction.value
      ⟨reaction.delay, response?,
        next.count
          (response?.toList.map fun response =>
            .requests route request.method response.status)⟩

/-
  The response to a request that has so much time.  When the
  time is over, the request leaves no trace.
-/
def serve
    (state : ServerState)
    (timeoutMs : Nat)
    (outside : Outside)
    (request : HttpRequest) :
    Option HttpResponse × ServerState :=
  let reaction := state.dispatch outside request
  if reaction.delay < timeoutMs then
    reaction.value
  else
    (some (.bare 408), state)

end ServerState

namespace Server

/- The response to a question about what is allowed. -/
def preflight
    (server : Server)
    (request : HttpRequest) : HttpResponse :=
  let response := server.crossOrigin.preflight request
  match Route.ofPath? request.path with
  | none => response
  | some route => response.withHeaders route.allowance

/-
  The response to a request, unless answering is aborted, and
  the server after it.
-/
def respond
    (server : Server)
    (outside : Outside)
    (request : HttpRequest) : Option HttpResponse × Server :=
  if request.method = "OPTIONS" then
    (some (server.preflight request), server)
  else
    let (response?, next) :=
      server.state.serve server.timeoutMs outside request
    (response?.map fun response =>
        response.withHeaders
          (server.crossOrigin.fields request),
      { server with state := next })

/- The responses to requests, one after the other. -/
def run
    (server : Server) :
    List (Outside × HttpRequest) →
      List (Option HttpResponse) × Server
  | [] => ([], server)
  | (outside, request) :: rest =>
      let (response?, next) := server.respond outside request
      let (responses, last) := next.run rest
      (response? :: responses, last)

end Server

end Dashboard
