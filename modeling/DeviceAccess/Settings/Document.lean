import DeviceAccess.Document.Record
import DeviceAccess.Fault
import DeviceAccess.Settings.Basic
import DeviceAccess.Toml.Printer
import DeviceAccess.Toml.Reader

/-!
# Settings and configuration files

Reading a configuration file into settings and writing settings as one. Every section is a record:
it may leave fields out, but has no others. A written file has all sections in a fixed order, without
the fields that are not set.

A file that is refused gets one text, whichever rule of the notation or of the sections it breaks and
wherever it does so.
-/

namespace DeviceAccess.Settings

open Record (optional? orDefault?)
open Toml

/-! ## §1 Reading -/

/-- How records are written in a configuration file. -/
def records : RecordRules := { repeats := false, others := false, extraItems := true }

/-- The fields of a section. -/
def fieldsOf? (names : List String) (v : Toml.Value) : Option (List (Option Toml.Value)) :=
  Record.fields? records some names v

/-- The key under which a point in time stands where a table of texts is expected. -/
def momentKey : String := "$__toml_private_datetime"

/-- A table of texts. A point in time counts as a table of its own kind. -/
def texts? : Toml.Value → Option (KeyMap String)
  | .object members => KeyMap.ofMembers? Toml.Value.string? members
  | .leaf (.moment spelling) => some (KeyMap.ofList [(momentKey, spelling)])
  | _ => none

/-- A level by its name, or as a table of one empty entry under the name. -/
def level? : Toml.Value → Option LogLevel
  | .leaf (.string name) => LogLevel.ofName? name
  | .object [(name, .object [])] => LogLevel.ofName? name
  | .object [(name, .array [])] => LogLevel.ofName? name
  | _ => none

/-- The private host of one service; both fields must be set. -/
def override? (v : Toml.Value) : Option ServiceOverride := do
  match ← fieldsOf? ["canonical_host", "psc_host"] v with
  | [some service, some privateHost] =>
    return { service := ← service.string?, privateHost := ← privateHost.string? }
  | _ => none

/-- The private hosts of services. -/
def overrides? : Toml.Value → Option (List ServiceOverride)
  | .array items => items.mapM override?
  | _ => none

/-- The choices of the user. -/
def access? (v : Toml.Value) : Option AccessChoice := do
  let names := ["device_certificate_authentication", "device_certificate_selector",
    "private_service_connect_endpoint", "psc_overrides"]
  match ← fieldsOf? names v with
  | [authentication, selector, privateEndpoint, overrides] =>
    return { authentication := ← orDefault? false Toml.Value.bool? authentication
             selector := ← optional? Toml.Value.string? selector
             privateEndpoint := ← optional? Toml.Value.string? privateEndpoint
             overrides := ← orDefault? [] overrides? overrides }
  | _ => none

/-- What an administrator sets. -/
def rule? (v : Toml.Value) : Option AccessRule := do
  let names := ["device_certificate_authentication", "device_certificate_selector",
    "private_service_connect_endpoint"]
  match ← fieldsOf? names v with
  | [authentication, selector, privateEndpoint] =>
    return { authentication := ← optional? Toml.Value.bool? authentication
             selector := ← optional? Toml.Value.string? selector
             privateEndpoint := ← optional? Toml.Value.string? privateEndpoint }
  | _ => none

/-- The named selectors. -/
def policy? (v : Toml.Value) : Option PolicyLists := do
  match ← fieldsOf? ["machine", "user"] v with
  | [machine, user] =>
    return { machine := ← orDefault? .empty texts? machine
             user := ← orDefault? .empty texts? user }
  | _ => none

/-- The settings of the helper. -/
def helper? (v : Toml.Value) : Option HelperSettings := do
  let names := ["enabled", "host_name", "extension_id", "manifest_path", "executable",
    "min_version"]
  match ← fieldsOf? names v with
  | [enabled, hostName, extensionId, manifestPath, executable, minVersion] =>
    return { enabled := ← orDefault? true Toml.Value.bool? enabled
             hostName := ← orDefault? defaultHostName Toml.Value.string? hostName
             extensionId := ← orDefault? defaultExtensionId Toml.Value.string? extensionId
             manifestPath := ← optional? Toml.Value.string? manifestPath
             executable := ← optional? Toml.Value.string? executable
             minVersion := ← optional? Toml.Value.string? minVersion }
  | _ => none

/-- The settings of logging. -/
def log? (v : Toml.Value) : Option LogSettings := do
  match ← fieldsOf? ["level", "json_format", "path"] v with
  | [level, asJson, path] =>
    return { level := ← orDefault? .info level? level
             asJson := ← orDefault? false Toml.Value.bool? asJson
             path := ← optional? Toml.Value.string? path }
  | _ => none

/-- The settings of a document. -/
def ofValue? (v : Toml.Value) : Option Settings := do
  match ← fieldsOf? ["access", "policy", "machine_policy", "user_policy", "helper", "logging"] v with
  | [access, policy, machineRule, userRule, helper, log] =>
    return { access := ← orDefault? .default access? access
             policy := ← orDefault? .default policy? policy
             machineRule := ← orDefault? .default rule? machineRule
             userRule := ← orDefault? .default rule? userRule
             helper := ← orDefault? .default helper? helper
             log := ← orDefault? .default log? log }
  | _ => none

/-- Reads a configuration file. -/
def parse (text : String) : Except Fault Settings :=
  match (Toml.parse? text).bind ofValue? with
  | some s => .ok s
  | none => .error (.settings "Invalid TOML: not a configuration")

/-! ## §2 Writing -/

/-- An entry with a text, if there is one. -/
def textEntry (key : String) (s : Option String) : List (String × Plain) :=
  (s.map fun text => (key, Plain.string text)).toList

/-- An entry with a truth value, if there is one. -/
def boolEntry (key : String) (b : Option Bool) : List (String × Plain) :=
  (b.map fun value => (key, Plain.bool value)).toList

/-- The section with a name on the top level. -/
def topSection (name : String) (entries : List (String × Plain)) : Section :=
  { path := [name], doubled := false, entries }

/-- The sections of the choices of the user. -/
def accessSections (a : AccessChoice) : List Section :=
  topSection "access"
      (boolEntry "device_certificate_authentication" (some a.authentication) ++
        textEntry "device_certificate_selector" a.selector ++
        textEntry "private_service_connect_endpoint" a.privateEndpoint) ::
    a.overrides.map fun o =>
      { path := ["access", "psc_overrides"], doubled := true,
        entries := textEntry "canonical_host" (some o.service) ++
          textEntry "psc_host" (some o.privateHost) }

/-- The section of a scope, if it has selectors. -/
def scopeSections (scope : Scope) (selectors : KeyMap String) : List Section :=
  if selectors.isEmpty then []
  else
    [{ path := ["policy", scope.text], doubled := false,
       entries := selectors.entries.map fun (name, text) => (name, Plain.string text) }]

/-- The sections of the named selectors, at least one. -/
def policySections (p : PolicyLists) : List Section :=
  let sections := scopeSections .machine p.machine ++ scopeSections .user p.user
  if sections.isEmpty then [topSection "policy" []] else sections

/-- The section of what an administrator sets. -/
def ruleSection (name : String) (r : AccessRule) : Section :=
  topSection name
    (boolEntry "device_certificate_authentication" r.authentication ++
      textEntry "device_certificate_selector" r.selector ++
      textEntry "private_service_connect_endpoint" r.privateEndpoint)

/-- The section of the helper. -/
def helperSection (h : HelperSettings) : Section :=
  topSection "helper"
    (boolEntry "enabled" (some h.enabled) ++ textEntry "host_name" (some h.hostName) ++
      textEntry "extension_id" (some h.extensionId) ++ textEntry "manifest_path" h.manifestPath ++
      textEntry "executable" h.executable ++ textEntry "min_version" h.minVersion)

/-- The section of logging. -/
def logSection (l : LogSettings) : Section :=
  topSection "logging"
    (textEntry "level" (some l.level.name) ++ boolEntry "json_format" (some l.asJson) ++
      textEntry "path" l.path)

/-- The sections of a configuration file. -/
def sections (s : Settings) : List Section :=
  accessSections s.access ++ policySections s.policy ++
    [ruleSection "machine_policy" s.machineRule, ruleSection "user_policy" s.userRule,
      helperSection s.helper, logSection s.log]

/-- The configuration file with the settings. -/
def text (s : Settings) : String := writeSections s.sections

end DeviceAccess.Settings
