import DeviceAccess.Helper.Version
import DeviceAccess.Settings.Basic
import DeviceAccess.Text.Blank

/-!
# Checking settings

Problems make a configuration invalid, and all of them are reported at once. Warnings name entries
that have no effect; they never make a configuration invalid.
-/

namespace DeviceAccess

open Text

/-! ## §1 Problems -/

/-- A section with access settings. -/
inductive AccessSection where
  | choice
  | machineRule
  | userRule
  deriving DecidableEq, Repr

/-- The name of a section. -/
def AccessSection.name : AccessSection → String
  | choice => "access"
  | machineRule => "machine_policy"
  | userRule => "user_policy"

/-- Why a configuration is invalid. -/
inductive SettingsProblem where
  | privateEndpoint (place : AccessSection) (host : String)
  | overrideService
  | overrideHost (host : String)
  | hostName
  | extensionId
  | minVersion (version : String)
  deriving DecidableEq, Repr

/-- The wording of a problem. -/
def SettingsProblem.message : SettingsProblem → String
  | privateEndpoint place host =>
    place.name ++ ".private_service_connect_endpoint '" ++ host ++ "' is not a valid host"
  | overrideService => "access.psc_overrides.canonical_host is required"
  | overrideHost host => "access.psc_overrides.psc_host '" ++ host ++ "' is not a valid host"
  | hostName => "helper.host_name is required"
  | extensionId => "helper.extension_id is required"
  | minVersion version => "helper.min_version '" ++ version ++ "' is not a version"

/-- The text is a host. -/
def isHost (text : String) : Bool := (Host.parse text).toBool

namespace Settings

/-- The problem of a private endpoint: a text that is not blank must be a host. -/
def endpointProblems (place : AccessSection) (endpoint : Option String) : List SettingsProblem :=
  match endpoint.bind nonBlank? with
  | some host => if isHost host then [] else [.privateEndpoint place host]
  | none => []

/-- The problems of the private host of a service. -/
def overrideProblems (o : ServiceOverride) : List SettingsProblem :=
  (if (nonBlank? o.service).isNone then [.overrideService] else []) ++
    (if isHost (trimText o.privateHost) then [] else [.overrideHost o.privateHost])

/-- The problems of the helper. -/
def helperProblems (h : HelperSettings) : List SettingsProblem :=
  (if h.hostName.isEmpty then [.hostName] else []) ++
    (if h.extensionId.isEmpty then [.extensionId] else []) ++
    (match h.minVersion with
      | some version => if (Version.parse? version).isSome then [] else [.minVersion version]
      | none => [])

/-- All problems. -/
def problems (s : Settings) : List SettingsProblem :=
  endpointProblems .choice s.access.privateEndpoint ++
    endpointProblems .machineRule s.machineRule.privateEndpoint ++
    endpointProblems .userRule s.userRule.privateEndpoint ++
    s.access.overrides.flatMap overrideProblems ++ helperProblems s.helper

/-- Refuses a configuration with problems. -/
def validate (s : Settings) : Except Fault Unit :=
  match s.problems with
  | [] => .ok ()
  | problems =>
    let lines := problems.map fun p => "\n  - " ++ p.message
    .error (.settings ("Configuration validation failed:" ++ String.join lines))

end Settings

/-! ## §2 Warnings -/

/-- What in a configuration has no effect. -/
inductive SettingsWarning where
  | selector (place : AccessSection)
  | entryName (scope : Scope) (name : String)
  | entrySelector (scope : Scope) (name : String)
  deriving DecidableEq, Repr

/-- The wording of a warning. -/
def SettingsWarning.message : SettingsWarning → String
  | selector place =>
    place.name ++ ".device_certificate_selector is not a valid certificate selector"
  | entryName scope name =>
    "policy." ++ scope.text ++ "." ++ name ++ ": entry names must be numbers"
  | entrySelector scope name =>
    "policy." ++ scope.text ++ "." ++ name ++ " is not a valid certificate selector"

namespace Settings

/-- The text is a selector. -/
def isSelector (text : String) : Bool := (Selector.parse? text).isSome

/-- The warning about a selector that cannot be read. -/
def selectorWarnings (place : AccessSection) (selector : Option String) : List SettingsWarning :=
  match selector with
  | some text => if isSelector text then [] else [.selector place]
  | none => []

/-- The name consists of digits. -/
def isNumberName (name : String) : Bool := !name.isEmpty && name.toList.all Char.isDigit

/-- The warning about an entry of a policy. -/
def entryWarnings (scope : Scope) (entry : String × String) : List SettingsWarning :=
  if !isNumberName entry.1 then [.entryName scope entry.1]
  else if !isSelector entry.2 then [.entrySelector scope entry.1]
  else []

/-- All warnings. -/
def warnings (s : Settings) : List SettingsWarning :=
  selectorWarnings .choice s.access.selector ++ selectorWarnings .machineRule s.machineRule.selector ++
    selectorWarnings .userRule s.userRule.selector ++
    s.policy.machine.entries.flatMap (entryWarnings .machine) ++
    s.policy.user.entries.flatMap (entryWarnings .user)

end Settings

end DeviceAccess
