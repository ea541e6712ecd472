import Dashboard.Server.Basic

/-
  How a request gets to its route, and what is left of it in
  the state: what the route does, and one more request on the
  counters, unless the time runs out.

  Key definitions include:
    * `Server.sampleServer`
    * `Server.saying`

  Main declarations:
    * `ServerState.respondOn_of_accepts`
    * `ServerState.serve_of_path`
    * `ServerState.serve_of_no_path`
-/

------------------------------------------------------------
-- Routes
------------------------------------------------------------

namespace Dashboard

namespace ServerState

variable (state : ServerState) (outside : Outside)
variable (request : HttpRequest)

/- Content or not, the route does the same. -/
theorem respondOn_of_accepts
    {route : Route}
    (hMethod : route.accepts request.method = true) :
    (state.respondOn outside route request).delay =
        (state.answer outside route request).delay ∧
      (state.respondOn outside route request).value.2 =
        (state.answer outside route request).value.2 := by
  unfold respondOn
  rw [if_pos hMethod]
  dsimp only
  split
  · exact ⟨rfl, rfl⟩
  · exact ⟨rfl, rfl⟩

/- Another method is turned away at once. -/
theorem respondOn_of_not_accepts
    {route : Route}
    (hMethod : route.accepts request.method = false) :
    (state.respondOn outside route request).delay = 0 ∧
      (state.respondOn outside route request).value.2 =
        state := by
  unfold respondOn
  rw [hMethod, if_neg Bool.false_ne_true]
  exact ⟨rfl, rfl⟩

end ServerState

end Dashboard

------------------------------------------------------------
-- Requests
------------------------------------------------------------

namespace Dashboard

namespace ServerState

variable (state : ServerState) (outside : Outside)
variable {request : HttpRequest}

theorem serve_of_path
    {route : Route}
    (hPath : Route.ofPath? request.path = some route)
    (timeoutMs : Nat) :
    (state.serve timeoutMs outside request).2 =
      if
        (state.respondOn outside route request).delay <
          timeoutMs
      then
        (state.respondOn outside route request).value.2.count
          ((state.respondOn outside route
              request).value.1.toList.map fun response =>
            .requests route request.method response.status)
      else
        state := by
  unfold serve dispatch
  rw [hPath]
  dsimp only
  split
  · rfl
  · rfl

/- A request to nowhere leaves no trace. -/
theorem serve_of_no_path
    (hPath : Route.ofPath? request.path = none)
    (timeoutMs : Nat) :
    (state.serve timeoutMs outside request).2 = state := by
  unfold serve dispatch
  rw [hPath]
  dsimp only
  split
  · rfl
  · rfl

end ServerState

end Dashboard

------------------------------------------------------------
-- A Sample
------------------------------------------------------------

namespace Dashboard

namespace Server

/- A server with the initial settings that reaches no model. -/
def sampleServer : Server where
  crossOrigin := .anyone
  timeoutMs := 30000
  state :=
    { settings := .initial
      service :=
        .ofSettings .initial fun _ _ => ⟨0, .error .timeout⟩
      hosted :=
        .ofSettings .initial fun _ _ => ⟨0, .error .timeout⟩
      store := .bundled
      observed := true
      counters := [] }

/- There is no settings file but this default one. -/
def saying (file : SettingsFile) : Outside where
  sources :=
    { files := fun name =>
        if name = "default" then file else .absent
      surroundings := none
      assigned := ⟨[], List.nodup_nil⟩ }
  exchange := fun _ _ => ⟨0, .error .timeout⟩

end Server

end Dashboard
