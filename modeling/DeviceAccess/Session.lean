import DeviceAccess.Settings.Connection
import DeviceAccess.Settings.Search

/-!
# Sessions

A program that runs for a while keeps its settings, the private hosts of services and the latest
enrollment, and asks for directions under them. A step that fails leaves the session as it was.
-/

namespace DeviceAccess

/-- What a running program keeps. -/
structure Session where
  settings : Settings
  overrides : Overrides
  enrollment : Enrollment

namespace Session

/-! ## §1 Changes -/

/-- A session before anything was set or refreshed. -/
def start : Session :=
  { settings := .default, overrides := .empty, enrollment := .disabled }

/-- The session under the settings of a configuration file, which are checked. Private hosts that
were added before are forgotten; the enrollment stays until it is refreshed. -/
def configure (s : Session) (text : String) : Except Fault Session := do
  let settings ← SettingsSearch.default.read text
  let overrides ← settings.overrides Endpoint.wellKnown
  return { s with settings, overrides }

/-- The session with the enrollment made anew. -/
def refresh (s : Session) (store : CertificateStore) : Except Fault Session := do
  return { s with enrollment := ← s.settings.refreshWith store }

/-- The session with the private host of a service. -/
def register (s : Session) (service privateHost : String) : Except Fault Session := do
  return { s with overrides := ← s.overrides.register service privateHost }

/-! ## §2 Runs -/

/-- A change that a session can be asked for. -/
inductive Step where
  | configure (text : String)
  | refresh (store : CertificateStore)
  | register (service privateHost : String)

/-- Takes a step. -/
def perform (s : Session) : Step → Except Fault Session
  | .configure text => s.configure text
  | .refresh store => s.refresh store
  | .register service privateHost => s.register service privateHost

/-- The session after a step, which may have failed. -/
def after (s : Session) (step : Step) : Session :=
  match s.perform step with
  | .ok next => next
  | .error _ => s

/-- The session after steps from the start. -/
def run (steps : List Step) : Session := steps.foldl after start

/-! ## §3 Directions -/

/-- The directions for a service under the latest enrollment. -/
def directions (s : Session) (service : Endpoint) : Directions :=
  Directions.build s.settings.route s.enrollment
    (s.overrides.resolve service s.enrollment.state)

end Session

end DeviceAccess
