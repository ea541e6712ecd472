import Dashboard.Http.Form
import Dashboard.Http.MediaType
import Dashboard.Http.Message
import Dashboard.Query.Engine
import Dashboard.Query.Parameters
import Dashboard.Server.State
import Dashboard.Summary

/-
  What the server answers on each of its routes.

  Key definitions include:
    * `ServerState.answer`
-/

------------------------------------------------------------
-- Answers
------------------------------------------------------------

namespace Dashboard

/- The response that reports an error. -/
def ServerError.response (e : ServerError) : HttpResponse :=
  .ofJson e.status
    (.ofMembers [("error", .string e.message)])

/-
  A response and the state after it, some time later.  There
  is no response when answering is aborted.
-/
abbrev Reaction :=
  Timed (Option HttpResponse × ServerState)

namespace Reaction

/- A response at once that leaves the state as it is. -/
def atOnce
    (state : ServerState)
    (response : HttpResponse) : Reaction :=
  ⟨0, some response, state⟩

end Reaction

end Dashboard

------------------------------------------------------------
-- Interpretation
------------------------------------------------------------

namespace Dashboard

namespace HttpRequest

/- The greatest number of bytes of a body that is read. -/
def bodyLimit : Nat := 2097152

/- Whether a request says that its body is JSON. -/
def hasJsonBody (request : HttpRequest) : Bool :=
  match request.header? "content-type" with
  | some text =>
      ((MediaType.ofText? text).map MediaType.isJson).getD false
  | none => false

/-
  The JSON value at the beginning of the body.  What follows
  it does not count.
-/
def json? (request : HttpRequest) : Option Json :=
  if request.hasJsonBody &&
      request.body.utf8ByteSize ≤ bodyLimit then
    Json.parseFirst? request.body
  else
    none

/- The prompt in a request, which may not be empty. -/
def prompt? (request : HttpRequest) : Option String := do
  let body ← request.json?
  let prompt ← (← body.member? "prompt").string?
  if prompt = "" then none else some prompt

end HttpRequest

namespace ServerState

/- The interpretations of a prompt. -/
def interpret
    (state : ServerState)
    (request : HttpRequest) : Reaction :=
  match request.prompt? with
  | none =>
      .atOnce state
        (ServerError.invalidRequest "Invalid prompt").response
  | some prompt =>
      let answer := state.service.interpretMany prompt
      let outcome := answer.value
      ⟨answer.delay,
        some
          (.ofJson 200
            (.ofList Interpretation.toJson outcome.result)),
        state.count outcome.counters⟩

end ServerState

end Dashboard

------------------------------------------------------------
-- Data
------------------------------------------------------------

namespace Dashboard

/- The response to a query that names a parameter twice. -/
def repeatedParameter (name : String) : HttpResponse :=
  .plain 400
    ("Failed to deserialize query string: duplicate field " ++
      String.ofList [Char.ofNat 0x60] ++ name ++
      String.ofList [Char.ofNat 0x60])

namespace ServerState

/-
  The parameters of a request for data, or the name of one
  that is given twice.
-/
def dataParameters
    (request : HttpRequest) :
    Except String QueryParameters :=
  let pairs := Form.pairs request.query
  match
    Form.repeated? ["type", "filters", "sort", "limit"] []
      pairs
  with
  | some name => .error name
  | none =>
      let value? := Form.value? pairs
      .ok
        ⟨value? "type", value? "filters", value? "sort",
          value? "limit"⟩

/- The records that a query asks for. -/
def data
    (state : ServerState)
    (request : HttpRequest) : Reaction :=
  match dataParameters request with
  | .error name => .atOnce state (repeatedParameter name)
  | .ok parameters =>
      match Query.ofParameters parameters with
      | .error e => .atOnce state e.toServerError.response
      | .ok query =>
          ⟨state.settings.data.simulatedLatencyMs.toNat,
            some
              (.ofJson 200
                (.ofList Record.toJson
                  (state.store.rows query))),
            state.count [.dataQueries query.dataset]⟩

/-
  The response with the summary of a dataset, unless the
  summary is aborted.
-/
def summaryOf
    (state : ServerState)
    (name : String) : Option HttpResponse :=
  match Dataset.ofName? name with
  | none =>
      some (ServerError.invalidRequest "Invalid data type").response
  | some dataset =>
      match state.store.summary dataset with
      | .error (.data e) => some e.toServerError.response
      | .error .overflow => none
      | .ok summary => some (.ofJson 200 summary.toJson)

/- The summary that a request asks for. -/
def summary
    (state : ServerState)
    (request : HttpRequest) : Reaction :=
  let pairs := Form.pairs request.query
  match Form.repeated? ["type"] [] pairs with
  | some name => .atOnce state (repeatedParameter name)
  | none =>
      ⟨0,
        state.summaryOf ((Form.value? pairs "type").getD ""),
        state⟩

end ServerState

end Dashboard

------------------------------------------------------------
-- Health
------------------------------------------------------------

namespace Dashboard

namespace ServerState

/- The version that the server tells. -/
def version : String := "0.1.0"

/- Whether every dataset has records. -/
def isHealthy (state : ServerState) : Bool :=
  Dataset.all.all fun d => state.store.size d != 0

/- What is told of the size of a dataset. -/
def sizeJson (state : ServerState) (dataset : Dataset) : Json :=
  let size := state.store.size dataset
  .ofMembers
    [("status", .string (if size = 0 then "empty" else "ok")),
      ("count", .ofNat size)]

/- Whether the server lives, with the sizes of datasets. -/
def health (state : ServerState) : HttpResponse :=
  .ofJson (if state.isHealthy then 200 else 503)
    (.ofMembers
      [("status",
          .string
            (if state.isHealthy then
              "healthy"
            else
              "degraded")),
        ("version", .string version),
        ("interpreter", .string state.service.name),
        ("checks",
          .ofMembers
            [("datasets",
                .ofMembers
                  (Dataset.all.map fun d =>
                    (d.name, state.sizeJson d)))])])

end ServerState

end Dashboard

------------------------------------------------------------
-- Readiness
------------------------------------------------------------

namespace Dashboard

/- What the check of readiness finds. -/
inductive Readiness where
  | disabled
  | reachable
  | unreachable
  | timeout
deriving DecidableEq, Repr

namespace Readiness

/- The word for what was found. -/
def word : Readiness → String
  | disabled => "disabled"
  | reachable => "ok"
  | unreachable => "unreachable"
  | timeout => "timeout"

/- Without a model there is nothing to wait for. -/
def isReady : Readiness → Bool
  | disabled => true
  | reachable => true
  | _ => false

/- How long the check waits for a model. -/
def patienceMs : Nat := 2000

/- What the check finds at a hosted stage. -/
def ofStage (stage : HostedStage) : Timed Readiness :=
  if stage.isEnabled then
    match stage.probe.within patienceMs with
    | some true => ⟨stage.probe.delay, reachable⟩
    | some false => ⟨stage.probe.delay, unreachable⟩
    | none => ⟨patienceMs, timeout⟩
  else
    ⟨0, disabled⟩

end Readiness

namespace ServerState

/- Whether the server is ready. -/
def readiness (state : ServerState) : Reaction :=
  let found := Readiness.ofStage state.hosted
  let ready := found.value.isReady
  let stage :=
    Json.ofMembers
      [("status", .string found.value.word),
        ("model", .ofOption .string state.hosted.model?)]
  ⟨found.delay,
    some
      (.ofJson (if ready then 200 else 503)
        (.ofMembers
          [("status",
              .string
                (if ready then "ready" else "not_ready")),
            ("checks",
              .ofMembers [("hosted_interpreter", stage)])])),
    state⟩

end ServerState

end Dashboard

------------------------------------------------------------
-- Administration
------------------------------------------------------------

namespace Dashboard

namespace ServerState

/- The values of the counters, if they are observed. -/
def metrics (state : ServerState) : HttpResponse :=
  if state.observed then
    .ofText 200 "text/plain; version=0.0.4"
      state.counters.exposition
  else
    .plain 503 "metrics disabled"

/- The response that tells how loading went. -/
def loadingReport
    (status : Nat)
    (word message : String) : HttpResponse :=
  .ofJson status
    (.ofMembers
      [("status", .string word),
        ("message", .string message)])

/- Load the settings again. -/
def reloadAnswer
    (state : ServerState)
    (outside : Outside) : Reaction :=
  match state.reload outside with
  | .error e =>
      .atOnce state (loadingReport e.status "error" e.message)
  | .ok next =>
      .atOnce next
        (loadingReport 200 "success"
          "Configuration reloaded successfully")

end ServerState

end Dashboard

------------------------------------------------------------
-- Routes
------------------------------------------------------------

namespace Dashboard

namespace ServerState

/- The answer on a route. -/
def answer
    (state : ServerState)
    (outside : Outside)
    (route : Route)
    (request : HttpRequest) : Reaction :=
  match route with
  | .interpret => state.interpret request
  | .data => state.data request
  | .summary => state.summary request
  | .schema =>
      .atOnce state
        (.ofJson 200
          (.ofList (fun d => (Dataset.schema d).toJson)
            Dataset.all))
  | .health => .atOnce state state.health
  | .readiness => state.readiness
  | .metrics => .atOnce state state.metrics
  | .reload => state.reloadAnswer outside

end ServerState

end Dashboard
