import DeviceAccess.Json.Printer
import DeviceAccess.Settings.Basic

/-!
# Settings as a document

All sections in a fixed order. What is not set is left out, and so are empty lists and tables; only
the log file stands there in any case.
-/

namespace DeviceAccess

open Json

/-- A member with a text, if there is one. -/
def textMember (key : String) (s : Option String) : List (String × Value) :=
  (s.map fun text => (key, Value.string text)).toList

/-- A member with a truth value, if there is one. -/
def boolMember (key : String) (b : Option Bool) : List (String × Value) :=
  (b.map fun value => (key, Value.bool value)).toList

/-- A member with a table of texts, unless it is empty. -/
def tableMember (key : String) (m : KeyMap String) : List (String × Value) :=
  if m.isEmpty then []
  else [(key, .object (m.entries.map fun (name, text) => (name, Value.string text)))]

/-- The private host of a service as a document. -/
def ServiceOverride.json (o : ServiceOverride) : Value :=
  .object (textMember "canonical_host" (some o.service) ++ textMember "psc_host" (some o.privateHost))

/-- The choices of the user as a document. -/
def AccessChoice.json (a : AccessChoice) : Value :=
  .object
    (boolMember "device_certificate_authentication" (some a.authentication) ++
      textMember "device_certificate_selector" a.selector ++
      textMember "private_service_connect_endpoint" a.privateEndpoint ++
      if a.overrides.isEmpty then []
      else [("psc_overrides", .array (a.overrides.map ServiceOverride.json))])

/-- What an administrator sets as a document. -/
def AccessRule.json (r : AccessRule) : Value :=
  .object
    (boolMember "device_certificate_authentication" r.authentication ++
      textMember "device_certificate_selector" r.selector ++
      textMember "private_service_connect_endpoint" r.privateEndpoint)

/-- The named selectors as a document. -/
def PolicyLists.json (p : PolicyLists) : Value :=
  .object (tableMember "machine" p.machine ++ tableMember "user" p.user)

/-- The settings of the helper as a document. -/
def HelperSettings.json (h : HelperSettings) : Value :=
  .object
    (boolMember "enabled" (some h.enabled) ++ textMember "host_name" (some h.hostName) ++
      textMember "extension_id" (some h.extensionId) ++ textMember "manifest_path" h.manifestPath ++
      textMember "executable" h.executable ++ textMember "min_version" h.minVersion)

/-- The settings of logging as a document. -/
def LogSettings.json (l : LogSettings) : Value :=
  .object
    [("level", Value.string l.level.name), ("json_format", Value.bool l.asJson),
      ("path", Value.optional l.path)]

/-- The settings as a document. -/
def Settings.json (s : Settings) : Value :=
  .object
    [("access", s.access.json), ("policy", s.policy.json), ("machine_policy", s.machineRule.json),
      ("user_policy", s.userRule.json), ("helper", s.helper.json), ("logging", s.log.json)]

end DeviceAccess
