import Dashboard.Proofs.Server.Request
import Dashboard.Proofs.Settings.Loading

/-
  What a server is made of, over any sequence of reloads and
  requests: the settings, the service and the hosted stage
  that is probed always stem from one and the same settings,
  the last ones that could be loaded, and the datasets are
  those of the beginning.

  Key definitions include:
    * `ServerState.uncounted`
    * `ServerState.StemsFrom`
    * `ServerEvent` and `ServerEvent.loaded?`
    * `Server.after` and `Server.afterAll`

  Main declarations:
    * `ServerState.uncounted_serve`
    * `Server.uncounted_after`
    * `Server.stemsFrom_afterAll`
    * `Server.components_of_afterAll`
-/

------------------------------------------------------------
-- Loading
------------------------------------------------------------

namespace Dashboard

/- Settings, with the way to models when they were loaded. -/
abbrev Loaded := Settings × Exchange

/- What can be loaded at some time, if anything can. -/
def Outside.loaded? (outside : Outside) : Option Loaded :=
  match Settings.load outside.sources with
  | .ok settings => some (settings, outside.exchange)
  | .error _ => none

theorem Outside.check_of_loaded?
    {outside : Outside}
    {loaded : Loaded}
    (hLoaded : outside.loaded? = some loaded) :
    loaded.1.check = .ok () := by
  unfold loaded? at hLoaded
  split at hLoaded
  · rename_i hLoad
    cases hLoaded
    exact Settings.check_of_load hLoad
  · cases hLoaded

end Dashboard

------------------------------------------------------------
-- Requests And The State
------------------------------------------------------------

namespace Dashboard

namespace ServerState

/- All of a state but its counters. -/
def uncounted (state : ServerState) : ServerState :=
  { state with counters := [] }

/- The state with what was loaded, if anything was. -/
def adopt
    (state : ServerState)
    (loaded? : Option Loaded) : ServerState :=
  match loaded? with
  | none => state
  | some loaded => state.withSettings loaded.1 loaded.2

@[simp] theorem uncounted_count
    (state : ServerState)
    (more : List Counter) :
    (state.count more).uncounted = state.uncounted := rfl

/- Only reloading changes more than counters. -/
theorem uncounted_answer
    {route : Route}
    (hRoute : route ≠ .reload)
    (state : ServerState)
    (outside : Outside)
    (request : HttpRequest) :
    (state.answer outside route request).value.2.uncounted =
      state.uncounted := by
  cases route with
  | reload => exact absurd rfl hRoute
  | interpret =>
      rw [answer, interpret]
      split
      · rfl
      · rfl
  | data =>
      rw [answer, data]
      split
      · rfl
      · split
        · rfl
        · rfl
  | summary =>
      rw [answer, summary]
      split
      · rfl
      · rfl
  | schema => rfl
  | health => rfl
  | readiness => rfl
  | metrics => rfl

/- Reloading takes no time. -/
theorem answer_reload
    (state : ServerState)
    (outside : Outside)
    (request : HttpRequest) :
    (state.answer outside .reload request).delay = 0 ∧
      (state.answer outside .reload request).value.2 =
        state.adopt outside.loaded? := by
  rw [answer]
  unfold reloadAnswer reload Outside.loaded?
  cases Settings.load outside.sources with
  | error e => exact ⟨rfl, rfl⟩
  | ok settings => exact ⟨rfl, rfl⟩

end ServerState

/- A request to load the settings again. -/
def HttpRequest.asksReload (request : HttpRequest) : Bool :=
  Route.ofPath? request.path == some .reload &&
    Route.reload.accepts request.method

namespace ServerState

theorem uncounted_respondOn
    {route : Route}
    (state : ServerState)
    (outside : Outside)
    (request : HttpRequest)
    (hOther :
      route = .reload →
        route.accepts request.method = false) :
    (state.respondOn outside route request).value.2.uncounted =
      state.uncounted := by
  cases hMethod : route.accepts request.method with
  | false =>
      rw [(state.respondOn_of_not_accepts outside request
        hMethod).2]
  | true =>
      rw [(state.respondOn_of_accepts outside request
        hMethod).2]
      apply uncounted_answer
      intro hRoute
      rw [hOther hRoute] at hMethod
      cases hMethod

/-
  But for the counters, a request leaves the state as it is,
  unless it asks for new settings and these can be loaded.
-/
theorem uncounted_serve
    (state : ServerState)
    (timeoutMs : Nat)
    (outside : Outside)
    (request : HttpRequest) :
    (state.serve timeoutMs outside request).2.uncounted =
      (state.adopt
        (if request.asksReload && 0 < timeoutMs then
          outside.loaded?
        else
          none)).uncounted := by
  cases hPath : Route.ofPath? request.path with
  | none =>
      have hOther : request.asksReload = false := by
        simp [HttpRequest.asksReload, hPath]
      rw [state.serve_of_no_path outside hPath, hOther]
      rfl
  | some route =>
      rw [state.serve_of_path outside hPath]
      cases hReload : request.asksReload with
      | true =>
          rw [HttpRequest.asksReload, Bool.and_eq_true, hPath,
            beq_iff_eq, Option.some.injEq] at hReload
          rcases hReload with ⟨rfl, hMethod⟩
          have hOn :=
            state.respondOn_of_accepts outside request hMethod
          have hAnswer := state.answer_reload outside request
          rw [hOn.1, hOn.2, hAnswer.1, hAnswer.2]
          by_cases hTime : 0 < timeoutMs
          · simp [hTime]
          · simp [hTime, adopt]
      | false =>
          have hOther :
              route = .reload →
                route.accepts request.method = false := by
            rintro rfl
            simpa [HttpRequest.asksReload, hPath] using hReload
          have hSame :=
            state.uncounted_respondOn outside request hOther
          split
          · exact hSame
          · rfl

end ServerState

end Dashboard

------------------------------------------------------------
-- Events
------------------------------------------------------------

namespace Dashboard

/-
  What can happen to a server: somebody has it load its
  settings again, or a request comes in.
-/
inductive ServerEvent where
  | reload (outside : Outside)
  | request (outside : Outside) (request : HttpRequest)

/-
  The settings that an event makes a server adopt, if it
  gives a request so much time.
-/
def ServerEvent.loaded?
    (timeoutMs : Nat)
    (event : ServerEvent) : Option Loaded :=
  match event with
  | .reload outside => outside.loaded?
  | .request outside asked =>
      if asked.asksReload && 0 < timeoutMs then
        outside.loaded?
      else
        none

theorem ServerEvent.check_of_loaded?
    {timeoutMs : Nat}
    {event : ServerEvent}
    {loaded : Loaded}
    (hLoaded : event.loaded? timeoutMs = some loaded) :
    loaded.1.check = .ok () := by
  cases event with
  | reload outside => exact Outside.check_of_loaded? hLoaded
  | request outside request =>
      rw [loaded?] at hLoaded
      split at hLoaded
      · exact Outside.check_of_loaded? hLoaded
      · cases hLoaded

namespace Server

/-
  The server after an event.  Settings that cannot be loaded
  give no other state.
-/
def after (server : Server) : ServerEvent → Server
  | .reload outside =>
      match server.state.reload outside with
      | .error _ => server
      | .ok next => { server with state := next }
  | .request outside request =>
      (server.respond outside request).2

/- The server after several events. -/
def afterAll
    (server : Server)
    (events : List ServerEvent) : Server :=
  events.foldl after server

theorem timeoutMs_after
    (server : Server)
    (event : ServerEvent) :
    (server.after event).timeoutMs = server.timeoutMs := by
  cases event with
  | reload outside =>
      rw [after]
      split
      · rfl
      · rfl
  | request outside request =>
      rw [after, respond]
      split
      · rfl
      · rfl

/-
  One event: but for the counters, the state becomes what the
  adopted settings make of it.
-/
theorem uncounted_after
    (server : Server)
    (event : ServerEvent) :
    (server.after event).state.uncounted =
      (server.state.adopt
        (event.loaded? server.timeoutMs)).uncounted := by
  cases event with
  | reload outside =>
      rw [after, ServerEvent.loaded?]
      unfold ServerState.reload Outside.loaded?
      cases Settings.load outside.sources with
      | error e => rfl
      | ok settings => rfl
  | request outside request =>
      rw [after, ServerEvent.loaded?, respond]
      split
      · rename_i hOptions
        have hOther : request.asksReload = false := by
          rw [HttpRequest.asksReload, hOptions]
          exact Bool.and_false _
        rw [hOther]
        rfl
      · exact server.state.uncounted_serve server.timeoutMs
          outside request

end Server

end Dashboard

------------------------------------------------------------
-- Origins
------------------------------------------------------------

namespace Dashboard

namespace ServerState

/-
  All parts of a state that depend on settings are made from
  the same loaded ones: the settings it tells, the vocabulary
  and the hosted stage that prompts are read with, and the
  hosted stage that the check of readiness asks.
-/
structure StemsFrom
    (state : ServerState)
    (loaded : Loaded) : Prop where
  settings : state.settings = loaded.1
  lexicon :
    state.service.lexicon =
      .ofVocabulary loaded.1.interpreter.vocabulary
  hosted :
    state.service.hosted =
      .ofSettings loaded.1.interpreter.hosted loaded.2
  probed :
    state.hosted =
      .ofSettings loaded.1.interpreter.hosted loaded.2

theorem stemsFrom_of_ofSettings
    {settings : Settings}
    {files : String → Dataset → Option String}
    {exchange : Exchange}
    {observed : Bool}
    {state : ServerState}
    (hBegin :
      ofSettings settings files exchange observed =
        .ok state) :
    state.StemsFrom (settings, exchange) := by
  unfold ofSettings at hBegin
  split at hBegin
  · cases hBegin
  · cases hBegin
    exact ⟨rfl, rfl, rfl, rfl⟩

/- Counters do not matter to where a state stems from. -/
theorem StemsFrom.of_uncounted_eq
    {first second : ServerState}
    {loaded : Loaded}
    (hStems : first.StemsFrom loaded)
    (hSame : second.uncounted = first.uncounted) :
    second.StemsFrom loaded := by
  have hSettings := congrArg ServerState.settings hSame
  have hService := congrArg ServerState.service hSame
  have hHosted := congrArg ServerState.hosted hSame
  refine ⟨?_, ?_, ?_, ?_⟩
  · exact hSettings.trans hStems.settings
  · exact (congrArg Service.lexicon hService).trans
      hStems.lexicon
  · exact (congrArg Service.hosted hService).trans
      hStems.hosted
  · exact hHosted.trans hStems.probed

theorem StemsFrom.adopt
    {state : ServerState}
    {loaded : Loaded}
    (hStems : state.StemsFrom loaded)
    (loaded? : Option Loaded) :
    (state.adopt loaded?).StemsFrom
      (loaded?.getD loaded) := by
  cases loaded? with
  | none => exact hStems
  | some other => exact ⟨rfl, rfl, rfl, rfl⟩

theorem store_adopt
    (state : ServerState)
    (loaded? : Option Loaded) :
    (state.adopt loaded?).store = state.store := by
  cases loaded? with
  | none => rfl
  | some loaded => rfl

end ServerState

end Dashboard

------------------------------------------------------------
-- Runs
------------------------------------------------------------

namespace Dashboard

namespace Server

theorem timeoutMs_afterAll
    (server : Server)
    (events : List ServerEvent) :
    (server.afterAll events).timeoutMs = server.timeoutMs := by
  induction events generalizing server with
  | nil => rfl
  | cons event rest ih =>
      exact (ih (server.after event)).trans
        (server.timeoutMs_after event)

/- What the events make a server adopt, one after the other. -/
def allLoaded
    (server : Server)
    (events : List ServerEvent) : List Loaded :=
  events.filterMap (·.loaded? server.timeoutMs)

/- One event keeps all parts together. -/
theorem stemsFrom_after
    {server : Server}
    {loaded : Loaded}
    (hStems : server.state.StemsFrom loaded)
    (event : ServerEvent) :
    (server.after event).state.StemsFrom
      ((event.loaded? server.timeoutMs).getD loaded) :=
  (hStems.adopt _).of_uncounted_eq
    (server.uncounted_after event)

theorem store_after
    (server : Server)
    (event : ServerEvent) :
    (server.after event).state.store = server.state.store := by
  have hSame :=
    congrArg ServerState.store (server.uncounted_after event)
  exact hSame.trans (ServerState.store_adopt _ _)

/- So do all events, with what was adopted last. -/
theorem stemsFrom_afterAll
    {server : Server}
    {loaded : Loaded}
    (hStems : server.state.StemsFrom loaded)
    (events : List ServerEvent) :
    (server.afterAll events).state.StemsFrom
      ((server.allLoaded events).getLastD loaded) := by
  induction events generalizing server loaded with
  | nil => exact hStems
  | cons event rest ih =>
      have hNext := ih (stemsFrom_after hStems event)
      unfold allLoaded at hNext ⊢
      rw [timeoutMs_after] at hNext
      rw [List.filterMap_cons]
      cases hLoaded : event.loaded? server.timeoutMs with
      | none =>
          rw [hLoaded] at hNext
          exact hNext
      | some other =>
          rw [hLoaded] at hNext
          rw [List.getLastD_cons]
          exact hNext

theorem store_afterAll
    (server : Server)
    (events : List ServerEvent) :
    (server.afterAll events).state.store =
      server.state.store := by
  induction events generalizing server with
  | nil => rfl
  | cons event rest ih =>
      exact (ih (server.after event)).trans
        (server.store_after event)

/- What has been adopted is valid. -/
theorem check_of_mem_allLoaded
    {server : Server}
    {events : List ServerEvent}
    {loaded : Loaded}
    (hMem : loaded ∈ server.allLoaded events) :
    loaded.1.check = .ok () := by
  rcases List.mem_filterMap.mp hMem with
    ⟨event, _, hLoaded⟩
  exact ServerEvent.check_of_loaded? hLoaded

/- An event that loads nothing leaves all parts alone. -/
theorem uncounted_after_of_loaded?_eq_none
    {server : Server}
    {event : ServerEvent}
    (hLoaded : event.loaded? server.timeoutMs = none) :
    (server.after event).state.uncounted =
      server.state.uncounted := by
  rw [uncounted_after, hLoaded]
  rfl

/-
  Over any reloads and requests, the settings, the service
  and the hosted stage that is probed stem from the settings
  that were loaded last, or from those of the beginning.
  Those that were loaded are valid, and when nothing is loaded
  all three stay.  The datasets never change.
-/
theorem components_of_afterAll
    {settings : Settings}
    {files : String → Dataset → Option String}
    {exchange : Exchange}
    {observed : Bool}
    {server : Server}
    (hBegin :
      ServerState.ofSettings settings files exchange
          observed =
        .ok server.state)
    (events : List ServerEvent) :
    (server.afterAll events).state.StemsFrom
        ((server.allLoaded events).getLastD
          (settings, exchange)) ∧
      (∀ loaded ∈ server.allLoaded events,
        loaded.1.check = .ok ()) ∧
      (∀ event,
        event.loaded? server.timeoutMs = none →
          ((server.afterAll events).after
              event).state.uncounted =
            (server.afterAll events).state.uncounted) ∧
      (server.afterAll events).state.store =
        server.state.store := by
  have hStems := ServerState.stemsFrom_of_ofSettings hBegin
  refine ⟨?_, ?_, ?_, ?_⟩
  · exact stemsFrom_afterAll hStems events
  · intro loaded hMem
    exact check_of_mem_allLoaded hMem
  · intro event hLoaded
    rw [← server.timeoutMs_afterAll events] at hLoaded
    exact uncounted_after_of_loaded?_eq_none hLoaded
  · exact server.store_afterAll events

/- A table that sets the port of the server. -/
def tableOfPort (port : Nat) : SettingsFile :=
  .table [("server", .object [("port", .ofNat port)])]

/-
  A valid file is loaded on request; one that is no table and
  an invalid one are not, and a request for records comes in
  between.
-/
def sampleEvents : List ServerEvent :=
  [.request (saying (tableOfPort 9000))
      ⟨"POST", "/admin/reload-config", "", [], ""⟩,
    .request (saying .broken)
      ⟨"POST", "/admin/reload-config", "", [], ""⟩,
    .request (saying .absent)
      ⟨"GET", "/api/data", "type=sales", [], ""⟩,
    .reload (saying (tableOfPort 0))]

/- The port of the valid file stays. -/
theorem components_of_afterAll_port :
    (sampleServer.afterAll
          sampleEvents).state.settings.server.port = 9000 ∧
      (sampleServer.afterAll sampleEvents).state.store =
        .bundled := by
  have hBegin :
      ServerState.ofSettings .initial (fun _ _ => none)
          (fun _ _ => ⟨0, .error .timeout⟩) true =
        .ok sampleServer.state := rfl
  have hAll := components_of_afterAll hBegin sampleEvents
  refine ⟨?_, hAll.2.2.2⟩
  rw [hAll.1.settings]
  decide +kernel

end Server

end Dashboard
