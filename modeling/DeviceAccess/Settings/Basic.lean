import DeviceAccess.KeyMap
import DeviceAccess.LogLevel
import DeviceAccess.Policy

/-!
# Settings

What a configuration file sets: the choices of the user, what administrators put in their place for
the machine and for the user, the selection policy, the helper, and logging. Everything has a
default, so that an empty file is a configuration.
-/

namespace DeviceAccess

/-! ## §1 Sections -/

/-- The private host of one service. -/
structure ServiceOverride where
  service : String
  privateHost : String
  deriving DecidableEq, Repr

/-- The choices of the user. -/
structure AccessChoice where
  authentication : Bool
  selector : Option String
  privateEndpoint : Option String
  overrides : List ServiceOverride
  deriving DecidableEq, Repr

/-- What an administrator puts in the place of choices of the user. -/
structure AccessRule where
  authentication : Option Bool
  selector : Option String
  privateEndpoint : Option String
  deriving DecidableEq, Repr

/-- The named selectors of both scopes. -/
structure PolicyLists where
  machine : KeyMap String
  user : KeyMap String
  deriving DecidableEq

/-- How the helper is found, and what is asked of it. -/
structure HelperSettings where
  enabled : Bool
  hostName : String
  extensionId : String
  manifestPath : Option String
  executable : Option String
  minVersion : Option String
  deriving DecidableEq, Repr

/-- What is logged, and where. -/
structure LogSettings where
  level : LogLevel
  asJson : Bool
  path : Option String
  deriving DecidableEq, Repr

/-- A configuration. -/
structure Settings where
  access : AccessChoice
  policy : PolicyLists
  machineRule : AccessRule
  userRule : AccessRule
  helper : HelperSettings
  log : LogSettings
  deriving DecidableEq

/-! ## §2 Defaults -/

/-- A user who has chosen nothing. -/
def AccessChoice.default : AccessChoice :=
  { authentication := false, selector := none, privateEndpoint := none, overrides := [] }

/-- An administrator who has set nothing. -/
def AccessRule.default : AccessRule :=
  { authentication := none, selector := none, privateEndpoint := none }

/-- No selectors. -/
def PolicyLists.default : PolicyLists := { machine := .empty, user := .empty }

/-- The name under which the helper is registered. -/
def defaultHostName : String := "com.google.secure_connect.native_helper"

/-- The extension that the helper is registered for. -/
def defaultExtensionId : String := "callobklhcbilhphinckomhgkigmfocg"

/-- The helper that is asked unless the file says otherwise. -/
def HelperSettings.default : HelperSettings :=
  { enabled := true, hostName := defaultHostName, extensionId := defaultExtensionId,
    manifestPath := none, executable := none, minVersion := none }

namespace LogSettings

/-- Logging at a level, to where errors go. -/
def atLevel (level : LogLevel) : LogSettings := { level, asJson := false, path := none }

/-- Logging unless the file says otherwise. -/
def default : LogSettings := atLevel .info

end LogSettings

/-- The configuration of an empty file. -/
def Settings.default : Settings :=
  { access := .default, policy := .default, machineRule := .default, userRule := .default,
    helper := .default, log := .default }

/-! ## §3 The policy -/

namespace PolicyLists

/-- The named selectors of a scope. -/
def ofScope (p : PolicyLists) : Scope → KeyMap String
  | .machine => p.machine
  | .user => p.user

/-- The named selectors of a scope as a source. -/
def source (p : PolicyLists) (scope : Scope) : PolicySource :=
  { scope, values := (p.ofScope scope).entries }

end PolicyLists

/-- The policy of the administrators, entries for the machine first. -/
def Settings.selectionPolicy (s : Settings) : Policy :=
  Policy.ofSources [s.policy.source .machine, s.policy.source .user]

end DeviceAccess
