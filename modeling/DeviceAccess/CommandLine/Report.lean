import DeviceAccess.Directions
import DeviceAccess.Helper.Advice
import DeviceAccess.Json.Printer
import DeviceAccess.Settings.Effective

/-!
# Reports

How the command line shows results: as lines with a label, or as a document whose members are in the
order of their names.
-/

namespace DeviceAccess.CommandLine

open Json

/-! ## §1 Names -/

/-- The name of a state in documents. -/
def stateName : EnrollmentState → String
  | .disabled => "Disabled"
  | .notEnrolled => "NotEnrolled"
  | .enrolled => "Enrolled"

/-- The name of the rule that picked a certificate. -/
def sourceName : EnrollmentSource → String
  | .customSelector => "CustomSelector"
  | .builtInSelector => "DefaultSelector"
  | .policy => "EnterprisePolicy"

/-- The name of a kind of endpoint in documents. -/
def endpointKindName : EndpointKind → String
  | .tls => "Tls"
  | .mutualTls => "MutualTls"
  | .privateConnection => "PrivateServiceConnect"

/-- The text of a truth value. -/
def boolText (b : Bool) : String := if b then "true" else "false"

/-! ## §2 Lines -/

/-- Lines, each with its end. -/
def lines (ls : List String) : String := String.join (ls.map fun l => l ++ "\n")

/-- The lines of directions. -/
def directionsLines (d : Directions) : List String :=
  ["Endpoint:           " ++ d.endpoint.address.text,
    "Endpoint type:      " ++ d.endpoint.kind.text,
    "Bypass proxy:       " ++ boolText d.bypassProxy,
    "Client certificate: " ++ boolText d.showCertificate] ++
  match d.certificate with
  | some c =>
    ["  Subject:          " ++ c.subject.text, "  Thumbprint:       " ++ c.thumbprint]
  | none => []

/-- The lines of an enrollment. -/
def enrollmentLines (e : Enrollment) : List String :=
  ["State:       " ++ e.state.text] ++
  match e with
  | .enrolled c source =>
    ["Source:      " ++ sourceName source, "Subject:     " ++ c.subject.text,
      "Issuer:      " ++ c.issuer.text, "Thumbprint:  " ++ c.thumbprint]
  | _ => []

/-- The lines of what the helper says. -/
def helperLines : HelperStatus → List String
  | .skipped => []
  | .notInstalled => ["Helper:      not installed"]
  | .installed version advice =>
    ["Helper:      " ++ version, "Enroll:      " ++ if advice then "advised" else "not advised"]

/-- A value with its source in brackets. -/
def sourced (value : String) (source : SettingSource) : String :=
  value ++ " (" ++ source.text ++ ")"

/-- The lines of settings. -/
def settingsLines (s : Settings) : List String :=
  let e := s.effective
  ["Device certificate authentication: " ++
      sourced (boolText e.authentication.value) e.authentication.source,
    "Device certificate selector:       " ++
      sourced (e.selector.value.getD "(built-in)") e.selector.source,
    "Service route:                     " ++ sourced s.route.text e.privateEndpoint.source,
    "Policy entries:                    " ++ toString s.selectionPolicy.entries.length,
    "Log level:                         " ++ s.log.level.name]

/-! ## §3 Documents -/

/-- A document, or the absent value. -/
def orNull {α : Type} (f : α → Value) (a : Option α) : Value := (a.map f).getD .null

/-- A certificate as a document. -/
def certificateDocument (c : Certificate) : Value :=
  .object
    [("issuer", Value.string c.issuer.text), ("subject", Value.string c.subject.text),
      ("thumbprint", Value.string c.thumbprint)]

/-- Directions as a document. -/
def directionsDocument (d : Directions) : Value :=
  .object
    [("attach_client_certificate", Value.bool d.showCertificate),
      ("bypass_proxy", Value.bool d.bypassProxy),
      ("client_certificate", orNull certificateDocument d.certificate),
      ("endpoint", Value.string d.endpoint.address.text),
      ("endpoint_type", Value.string (endpointKindName d.endpoint.kind))]

/-- What the helper says as a document. -/
def helperDocument : HelperStatus → Value
  | .skipped => Value.string "Skipped"
  | .notInstalled => Value.string "NotInstalled"
  | .installed version advice =>
    .object
      [("Installed",
        .object [("should_enroll", Value.bool advice), ("version", Value.string version)])]

/-- An enrollment with advice as a document. -/
def reportDocument (r : EnrollmentReport) : Value :=
  .object
    [("certificate", orNull certificateDocument r.enrollment.certificate?),
      ("helper", helperDocument r.helper),
      ("source", orNull (Value.string ∘ sourceName) r.enrollment.source?),
      ("state", Value.string (stateName r.enrollment.state))]

end DeviceAccess.CommandLine
