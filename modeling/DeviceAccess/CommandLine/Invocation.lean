import DeviceAccess.CommandLine.Arguments
import DeviceAccess.Text.Decimal

/-!
# Invocations

What the program can be asked for on its command line: one of its tasks, and options that all tasks
share.
-/

namespace DeviceAccess.CommandLine

open Text

/-! ## §1 Tasks -/

/-- How results are written. -/
inductive ReportFormat where
  | text
  | json
  deriving DecidableEq, Repr

/-- The format of a name. -/
def ReportFormat.ofName? (name : String) : Option ReportFormat :=
  if name = "text" then some text else if name = "json" then some json else none

/-- How settings are written. -/
inductive SettingsFormat where
  | text
  | json
  | toml
  deriving DecidableEq, Repr

/-- The format of a name. -/
def SettingsFormat.ofName? (name : String) : Option SettingsFormat :=
  if name = "text" then some text
  else if name = "json" then some json
  else if name = "toml" then some toml
  else none

/-- What the program does. -/
inductive Task where
  /-- Shows how to connect to the service at an address. -/
  | resolve (address : String) (format : ReportFormat)
  /-- Shows the enrollment, for a user with the advice of the helper. -/
  | enrollment (user : Option String) (format : ReportFormat)
  /-- Holds an address against a pattern. -/
  | compare (pattern address : String)
  /-- Holds an address and the certificate in a file against a selector. -/
  | select (selector certificate address : String)
  /-- Asks the helper for its version. -/
  | pingHelper
  /-- Connects to the endpoint that an address is resolved to. -/
  | probe (address : String) (seconds : Nat)
  /-- Checks the settings. -/
  | checkSettings
  /-- Shows the settings. -/
  | showSettings (format : SettingsFormat)
  deriving DecidableEq, Repr

/-- A run of the program. -/
structure Invocation where
  settingsPath : Option String
  machineCertificates : List String
  userCertificates : List String
  verbose : Bool
  quiet : Bool
  task : Task
  deriving DecidableEq, Repr

/-! ## §2 Rules -/

/-- Any value. -/
def anyValue (_ : String) : Bool := true

/-- A path. -/
def isPath (value : String) : Bool := !value.isEmpty

/-- A number of seconds. -/
def isSeconds (value : String) : Bool := (word64? value.toList).isSome

/-- An option with a value, at most once. -/
def single (name : String) (letter : Option Char) (admits : String → Bool) : OptionRule :=
  { name, letter, kind := .single, admits }

/-- The options that all commands share. -/
def sharedOptions : List OptionRule :=
  [single "config" (some 'c') isPath,
    { name := "machine-cert", letter := none, kind := .repeated, admits := isPath },
    { name := "user-cert", letter := none, kind := .repeated, admits := isPath },
    { name := "verbose", letter := some 'v', kind := .flag, admits := anyValue },
    { name := "quiet", letter := some 'q', kind := .flag, admits := anyValue },
    { name := "help", letter := some 'h', kind := .help, admits := anyValue },
    { name := "version", letter := some 'V', kind := .version, admits := anyValue }]

/-- The option for the way results are written. -/
def formatOption (admits : String → Bool) : OptionRule := single "format" none admits

/-- The option for the way reports are written. -/
def reportOption : OptionRule := formatOption fun name => (ReportFormat.ofName? name).isSome

/-- A command without commands below it. -/
def leaf (options : List OptionRule) (required : List String) (places : Nat) : CommandRules :=
  .mk (options ++ sharedOptions) required places []

/-- A command with commands below it. -/
def group (commands : List (String × CommandRules)) : CommandRules :=
  .mk sharedOptions [] 0 commands

/-- The rules of the program. -/
def rules : CommandRules :=
  group
    [("resolve", leaf [reportOption] [] 1),
      ("enrollment", leaf [single "user-id" none anyValue, reportOption] [] 0),
      ("match", leaf [single "pattern" (some 'p') anyValue] ["pattern"] 1),
      ("selector",
        leaf
          [single "selector" (some 's') anyValue, single "cert" none isPath,
            single "url" none anyValue]
          ["selector", "cert", "url"] 0),
      ("helper", group [("ping", leaf [] [] 0)]),
      ("probe", leaf [single "timeout" none isSeconds] [] 1),
      ("config",
        group
          [("validate", leaf [] [] 0),
            ("show", leaf [formatOption fun name => (SettingsFormat.ofName? name).isSome] [] 0)])]

/-! ## §3 From arguments to invocations -/

/-- How long a probe waits unless told otherwise, in seconds. -/
def defaultSeconds : Nat := 5

namespace Reading

/-- The way reports are written. -/
def reportFormat (r : Reading) : ReportFormat :=
  ((r.value? "format").bind ReportFormat.ofName?).getD .text

/-- The way settings are written. -/
def settingsFormat (r : Reading) : SettingsFormat :=
  ((r.value? "format").bind SettingsFormat.ofName?).getD .toml

/-- How long a probe waits. -/
def seconds (r : Reading) : Nat :=
  ((r.value? "timeout").bind fun value => word64? value.toList).getD defaultSeconds

/-- The task that the commands name. -/
def task? (r : Reading) : Option Task :=
  match r.path, r.places with
  | ["resolve"], [address] => some (.resolve address r.reportFormat)
  | ["enrollment"], [] => some (.enrollment (r.value? "user-id") r.reportFormat)
  | ["match"], [address] => (r.value? "pattern").map (Task.compare · address)
  | ["selector"], [] => do
    return .select (← r.value? "selector") (← r.value? "cert") (← r.value? "url")
  | ["helper", "ping"], [] => some .pingHelper
  | ["probe"], [address] => some (.probe address r.seconds)
  | ["config", "validate"], [] => some .checkSettings
  | ["config", "show"], [] => some (.showSettings r.settingsFormat)
  | _, _ => none

end Reading

/-- The run that arguments ask for. -/
def Invocation.ofArguments (args : List String) : Except Refusal Invocation := do
  let r ← read rules args
  match r.task? with
  | none => throw .usage
  | some task =>
    return { settingsPath := r.value? "config"
             machineCertificates := r.values "machine-cert"
             userCertificates := r.values "user-cert"
             verbose := r.has "verbose"
             quiet := r.has "quiet"
             task }

end DeviceAccess.CommandLine
