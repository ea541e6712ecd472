import Dashboard.Proofs.Server.Request

/-
  Requests for data: what is left of them in the counters,
  when the server does not delay its answers.

  Key definitions include:
    * `HttpRequest.queriedDataset?`
    * `Server.IsPrompt`

  Main declarations:
    * `Server.respond_data`
-/

------------------------------------------------------------
-- Queried Datasets
------------------------------------------------------------

namespace Dashboard

namespace HttpRequest

/- The dataset that the parameters of a request name. -/
def namedDataset? (request : HttpRequest) : Option Dataset :=
  match ServerState.dataParameters request with
  | .error _ => none
  | .ok parameters =>
      Dataset.ofName? (parameters.dataset.getD "")

/- The dataset that is queried by a request for data. -/
def queriedDataset? (request : HttpRequest) : Option Dataset :=
  if Route.data.accepts request.method then
    request.namedDataset?
  else
    none

end HttpRequest

namespace Counter

/- What counts when a dataset is queried, if one is. -/
def ofQueried (dataset? : Option Dataset) : List Counter :=
  dataset?.toList.map dataQueries

/- Whether a counter is one of requests. -/
def isOfRequests : Counter → Bool
  | requests .. => true
  | _ => false

end Counter

end Dashboard

------------------------------------------------------------
-- The Route Of Data
------------------------------------------------------------

namespace Dashboard

namespace ServerState

variable {state : ServerState}

/-
  Without a delay, the route of data answers at once, and
  counts the dataset if the parameters name one.
-/
theorem data_of_no_latency
    (hLatency : state.settings.data.simulatedLatencyMs = 0)
    (request : HttpRequest) :
    (state.data request).delay = 0 ∧
      (state.data request).value.2 =
        state.count
          (Counter.ofQueried request.namedDataset?) := by
  unfold data HttpRequest.namedDataset?
  cases dataParameters request with
  | error name => exact ⟨rfl, rfl⟩
  | ok parameters =>
      unfold Query.ofParameters
      dsimp only
      cases Dataset.ofName? (parameters.dataset.getD "") with
      | none => exact ⟨rfl, rfl⟩
      | some dataset =>
          dsimp only
          rw [hLatency]
          exact ⟨rfl, rfl⟩

theorem respondOn_data
    (hLatency : state.settings.data.simulatedLatencyMs = 0)
    (outside : Outside)
    (request : HttpRequest) :
    (state.respondOn outside .data request).delay = 0 ∧
      (state.respondOn outside .data request).value.2 =
        state.count
          (Counter.ofQueried request.queriedDataset?) := by
  unfold HttpRequest.queriedDataset?
  cases hMethod : Route.data.accepts request.method with
  | true =>
      have hData := data_of_no_latency hLatency request
      have hOn :=
        state.respondOn_of_accepts outside request hMethod
      rw [hOn.1, hOn.2]
      exact hData
  | false =>
      exact state.respondOn_of_not_accepts outside request
        hMethod

end ServerState

end Dashboard

------------------------------------------------------------
-- Responses
------------------------------------------------------------

namespace Dashboard

namespace Server

/- A server that answers requests for data in time. -/
structure IsPrompt (server : Server) : Prop where
  time : 0 < server.timeoutMs
  latency :
    server.state.settings.data.simulatedLatencyMs = 0

/- Count some things. -/
def count (server : Server) (more : List Counter) : Server :=
  { server with state := server.state.count more }

variable {server : Server}
variable (hPrompt : server.IsPrompt) (outside : Outside)
variable {request : HttpRequest}
variable (hPath : request.path = Route.data.path)

include hPrompt hPath

/-
  A request for data counts the dataset that it queries, and
  perhaps the request itself.
-/
theorem respond_data :
    ∃ more, more.all Counter.isOfRequests = true ∧
      (server.respond outside request).2 =
        (server.count
          (Counter.ofQueried request.queriedDataset?)).count
          more := by
  unfold respond
  split
  · rename_i hOptions
    refine ⟨[], rfl, ?_⟩
    rw [HttpRequest.queriedDataset?, hOptions]
    rfl
  · have hRoute : Route.ofPath? request.path = some .data := by
      rw [hPath]
      decide
    have hOn :=
      ServerState.respondOn_data hPrompt.latency outside
        request
    have hServe :=
      server.state.serve_of_path outside hRoute
        server.timeoutMs
    rw [hOn.1, if_pos hPrompt.time, hOn.2] at hServe
    dsimp only
    rw [hServe]
    refine ⟨_, ?_, rfl⟩
    simp [Counter.isOfRequests]

end Server

end Dashboard
