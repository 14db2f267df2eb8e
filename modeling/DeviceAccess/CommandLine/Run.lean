import DeviceAccess.CommandLine.Invocation
import DeviceAccess.CommandLine.Report
import DeviceAccess.Probe
import DeviceAccess.Script.Program
import DeviceAccess.Settings.Connection
import DeviceAccess.Settings.Helper
import DeviceAccess.Settings.Json
import DeviceAccess.Settings.Search

/-!
# Running the program

A run as a function: from the arguments, what can be seen of the surroundings, how connecting goes,
and what programs do, to the output and the way the run ends. The certificates of a run are those of its
arguments: the system has no store of its own, as on every Unix.
-/

namespace DeviceAccess.CommandLine

/-! ## §1 Outcomes -/

/-- How a run ends. -/
inductive Verdict where
  /-- The run did what was asked, and the answer is positive. -/
  | success
  /-- The run did what was asked, and the answer is negative. -/
  | failure
  /-- Something went wrong. -/
  | fault (message : String)
  /-- The arguments were against the rules. -/
  | usage
  deriving DecidableEq, Repr

namespace Verdict

/-- The number that the run ends with. -/
def code : Verdict → Nat
  | success => 0
  | failure | fault _ => 1
  | usage => 2

/-- What went wrong. -/
def message? : Verdict → Option String
  | fault message => some message
  | _ => none

/-- A positive or negative answer. -/
def ofBool (b : Bool) : Verdict := if b then success else failure

end Verdict

/-- What a run says, and how it ends. -/
structure Outcome where
  output : String
  verdict : Verdict
  deriving DecidableEq, Repr

namespace Outcome

/-- Says something and ends well. -/
def shows (output : String) : Outcome := { output, verdict := .success }

/-- Gives an answer and ends with it. -/
def answers (output : String) (b : Bool) : Outcome := { output, verdict := .ofBool b }

/-- Says nothing and ends with a message. -/
def fails (message : String) : Outcome := { output := "", verdict := .fault message }

/-- Goes on with a value, or ends with what went wrong. -/
def after {α : Type} (r : Except Fault α) (next : α → Outcome) : Outcome :=
  match r with
  | .ok a => next a
  | .error fault => fails fault.message

/-- The answer whether something fits. -/
def fits (b : Bool) : Outcome := answers (if b then "match\n" else "no match\n") b

end Outcome

/-! ## §2 Certificates -/

/-- How armoured certificates begin. -/
def armourMark : List Char := "-----BEGIN".toList

/-- The certificate in a file, armoured or as it is. -/
def readCertificate (files : Files) (path : String) : Except Fault Certificate := do
  let octets ← (files.read path).mapError Fault.io
  match Text.textOfUtf8? octets with
  | some text =>
    if Text.containsRun armourMark text.toList then Certificate.ofArmoured text
    else Certificate.ofOctets octets
  | none => Certificate.ofOctets octets

/-- The store with the certificates of an invocation. -/
def Invocation.store (i : Invocation) (files : Files) : Except Fault CertificateStore := do
  let machine ← i.machineCertificates.mapM (readCertificate files)
  let user ← i.userCertificates.mapM (readCertificate files)
  return { machine := .ok machine, user := .ok user }

/-! ## §3 Tasks -/

/-- How connecting to a host and port goes within a number of seconds. -/
abbrev Connect := Nat → String → Nat → ProbeOutcome

/-- Shows how to connect. -/
def showDirections (d : Directions) : ReportFormat → Outcome
  | .text => .shows (lines (directionsLines d))
  | .json => .shows (lines [(directionsDocument d).pretty])

/-- Shows an enrollment with advice. -/
def showEnrollment (r : EnrollmentReport) : ReportFormat → Outcome
  | .text => .shows (lines (enrollmentLines r.enrollment ++ helperLines r.helper))
  | .json => .shows (lines [(reportDocument r).pretty])

/-- Shows settings. -/
def showSettings (s : Settings) : SettingsFormat → Outcome
  | .toml => .shows s.text
  | .json => .shows (lines [s.json.pretty])
  | .text => .shows (lines (settingsLines s))

/-- The enrollment, for a user with the advice of the helper. -/
def enrollmentReport (s : Settings) (store : CertificateStore) (env : Surroundings)
    (programs : Programs) (user : Option String) : Except Fault EnrollmentReport :=
  match user with
  | some user => s.refreshWithAdvice store env.files programs env.home user
  | none => (s.refreshWith store).map fun enrollment => { enrollment, helper := .skipped }

/-- Holds an address and the certificate in a file against a selector. -/
def trySelector (files : Files) (selector certificate address : String) : Outcome :=
  match Selector.parse? selector with
  | none => .fails (Fault.settings "Invalid certificate selector").message
  | some s =>
    .after (readCertificate files certificate) fun c =>
      match Url.parse address with
      | .ok u => .fits (s.accepts u c)
      | .error fault => .fails fault.message

/-- Asks the helper for its version. -/
def pingHelper (s : Settings) (env : Surroundings) (programs : Programs) : Outcome :=
  match s.helper.program? env.files env.home with
  | none => .answers "Native helper is not installed\n" false
  | some p =>
    .after p.link fun link =>
      match (link.availability (p.transport programs)).1 with
      | .ok version => .shows (p.path ++ " (version " ++ version ++ ")\n")
      | .error fault =>
        if fault.isHelperUnavailable then
          .answers ("Native helper unavailable: " ++ fault.message ++ "\n") false
        else .fails fault.message

/-- Connects to an endpoint. -/
def tryEndpoint (connect : Connect) (endpoint : ResolvedEndpoint) (seconds : Nat) : Outcome :=
  let outcome := probe (connect seconds) endpoint
  .answers (endpoint.text ++ ": " ++ outcome.text ++ "\n") outcome.isReachable

/-- Checks settings. -/
def checkSettings (path : Option String) (s : Settings) : Outcome :=
  let opening := lines (path.map fun p => "Validating " ++ p).toList
  match s.validate with
  | .error fault => { output := opening, verdict := .fault fault.message }
  | .ok () =>
    let warnings := s.warnings.map fun w => "Warning: " ++ w.message ++ " (ignored)"
    .shows (opening ++ lines (warnings ++ ["Configuration is valid"]))

/-- Does what an invocation asks for. -/
def perform (i : Invocation) (env : Surroundings) (connect : Connect) (programs : Programs)
    (s : Settings) : Outcome :=
  match i.task with
  | .resolve address format =>
    .after (s.directions (i.store env.files) address) (showDirections · format)
  | .enrollment user format =>
    .after (i.store env.files) fun store =>
      .after (enrollmentReport s store env programs user) (showEnrollment · format)
  | .compare pattern address =>
    .after (UrlPattern.parse pattern) fun p => .fits (p.acceptsText address)
  | .select selector certificate address => trySelector env.files selector certificate address
  | .pingHelper => pingHelper s env programs
  | .probe address seconds =>
    .after (s.directions (i.store env.files) address) fun d =>
      tryEndpoint connect d.endpoint seconds
  | .checkSettings => checkSettings i.settingsPath s
  | .showSettings format => showSettings s format

/-! ## §4 Runs -/

/-- The search for the settings. Settings that are to be checked are not checked before. -/
def Invocation.search (i : Invocation) : SettingsSearch :=
  { SettingsSearch.default with
    path := i.settingsPath
    validates := i.task != .checkSettings }

/-- What is logged: less if the run is to be quiet, more if it is to be verbose. -/
def Invocation.logging (i : Invocation) (l : LogSettings) : LogSettings :=
  if i.quiet then { l with level := .error }
  else if i.verbose then { l with level := .debug }
  else l

/-- Opens the log. -/
def openLog (files : Files) (l : LogSettings) : Except Fault Unit :=
  match l.path with
  | none => .ok ()
  | some path =>
    (files.canAppend path).mapError fun fault =>
      .settings ("Failed to open log file " ++ path ++ ": " ++ fault.message)

/-- Runs an invocation. -/
def Invocation.run (i : Invocation) (env : Surroundings) (connect : Connect)
    (programs : Programs) : Outcome :=
  .after (i.search.loadOrDefault env) fun s =>
    .after (openLog env.files (i.logging s.log)) fun _ => perform i env connect programs s

/-- The name of the program. -/
def programName : String := "device-trust"

/-- The version of the program. -/
def programVersion : String := "0.1.0"

/-- How the program is used. -/
def help : String :=
  lines
    ["Usage: device-trust [OPTIONS] <COMMAND>", "", "Commands:",
      "  resolve     How to connect to the service at an address",
      "  enrollment  The enrollment of the device",
      "  match       Hold an address against a pattern",
      "  selector    Hold an address and a certificate against a selector",
      "  helper      Talk to the helper",
      "  probe       Connect to the endpoint that an address is resolved to",
      "  config      Check or show the settings", "", "Options:",
      "  -c, --config <PATH>        The configuration file",
      "      --machine-cert <PATH>  A certificate of the machine",
      "      --user-cert <PATH>     A certificate of the user",
      "  -v, --verbose              Log more", "  -q, --quiet                Log errors only",
      "  -h, --help                 Show this text", "  -V, --version              Show the version"]

/-- The outcome of a run that did not begin. -/
def Refusal.outcome : Refusal → Outcome
  | usage => { output := "", verdict := .usage }
  | help => .shows CommandLine.help
  | version path =>
    .shows (String.intercalate "-" (programName :: path) ++ " " ++ programVersion ++ "\n")

/-- Runs the program, which can start the scripts among the files unless told otherwise. -/
def run (args : List String) (env : Surroundings) (connect : Connect)
    (programs : Programs := Script.programs env.files) : Outcome :=
  match Invocation.ofArguments args with
  | .ok i => i.run env connect programs
  | .error refusal => refusal.outcome

/-! ## §5 What a run looks at -/

/-- The paths that lead to the settings. -/
def Invocation.settingsPaths (i : Invocation) (env : Surroundings) : List String :=
  match i.settingsPath, env.environment i.search.variableName with
  | some path, _ => [path]
  | none, some path => [path]
  | none, none => SettingsSearch.usualPaths env

/-- The paths of the certificates that an invocation names. -/
def Invocation.certificatePaths (i : Invocation) : List String :=
  i.machineCertificates ++ i.userCertificates ++
    match i.task with
    | .select _ certificate _ => [certificate]
    | _ => []

/-- The path of the log and that of its folder. -/
def logPaths (l : LogSettings) : List String :=
  l.path.toList ++ (l.path.bind Path.parent?).toList

/-- The paths that an invocation may look at. Those that depend on the content of files are there as
soon as `env` shows that content. -/
def Invocation.paths (i : Invocation) (env : Surroundings) : List String :=
  i.settingsPaths env ++ i.certificatePaths ++
    match i.search.loadOrDefault env with
    | .error _ => []
    | .ok s =>
      let search := s.helper.manifestSearch env.home
      logPaths s.log ++ search.paths ++ (s.helper.locate env.files env.home).toList

end DeviceAccess.CommandLine
