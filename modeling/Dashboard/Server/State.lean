import Dashboard.Hosted.Service
import Dashboard.Settings.Loading
import Dashboard.Store.Bundled

/-
  What the server keeps between requests.

  Key definitions include:
    * `Outside`
    * `ServerState`
    * `ServerState.ofSettings`
    * `ServerState.reload`
-/

------------------------------------------------------------
-- States
------------------------------------------------------------

namespace Dashboard

/-
  What the server finds outside of itself when it looks: the
  sources of its settings, and the way to models.
-/
structure Outside where
  sources : Sources
  exchange : Exchange

/-
  The state of the server.  The hosted stage stands twice:
  in the service, and where the check of readiness asks it.
-/
structure ServerState where
  settings : Settings
  service : Service
  hosted : HostedStage
  store : Store
  observed : Bool
  counters : Counters

namespace ServerState

/- Count some things. -/
def count
    (state : ServerState)
    (more : List Counter) : ServerState :=
  { state with counters := state.counters.addAll more }

/- The state with another hosted stage. -/
def withHosted
    (state : ServerState)
    (stage : HostedStage) : ServerState :=
  { state with
    service := { state.service with hosted := stage }
    hosted := stage }

/- The state with other settings, and what follows of them. -/
def withSettings
    (state : ServerState)
    (settings : Settings)
    (exchange : Exchange) : ServerState :=
  let service :=
    Service.ofSettings settings.interpreter exchange
  { state with
    settings := settings
    service := service
    hosted := service.hosted }

end ServerState

end Dashboard

------------------------------------------------------------
-- Beginning
------------------------------------------------------------

namespace Dashboard

/-
  The store that settings ask for, when a directory holds
  these files.
-/
def DataSettings.store
    (settings : DataSettings)
    (files : String → Dataset → Option String) :
    Except DataError Store :=
  match settings.directory with
  | none => .ok .bundled
  | some directory => Store.ofFiles (files directory)

namespace ServerState

/- The state that the server begins with. -/
def ofSettings
    (settings : Settings)
    (files : String → Dataset → Option String)
    (exchange : Exchange)
    (observed : Bool) : Except ServerError ServerState :=
  match settings.data.store files with
  | .error e => .error e.toServerError
  | .ok store =>
      let service :=
        Service.ofSettings settings.interpreter exchange
      .ok
        { settings := settings
          service := service
          hosted := service.hosted
          store := store
          observed := observed
          counters := [] }

end ServerState

end Dashboard

------------------------------------------------------------
-- Reloading
------------------------------------------------------------

namespace Dashboard

namespace ServerState

/-
  Load the settings again.  The datasets stay, and so does
  all else when loading fails.
-/
def reload
    (state : ServerState)
    (outside : Outside) : Except ServerError ServerState :=
  match Settings.load outside.sources with
  | .error e => .error (.settings e)
  | .ok settings =>
      .ok (state.withSettings settings outside.exchange)

end ServerState

end Dashboard
