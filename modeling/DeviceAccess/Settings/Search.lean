import DeviceAccess.Files
import DeviceAccess.Settings.Check
import DeviceAccess.Settings.Document

/-!
# Finding the configuration file

The file is the one whose path is given, else the one that an environment variable names, else the
first that exists of the usual ones. A file that is given or named must exist; only if none is, and
no usual one exists, defaults may stand in. The usual places are those of a Unix system.
-/

namespace DeviceAccess

/-- What a program sees of its surroundings: files, folders of the user, and variables. -/
structure Surroundings where
  files : Files
  home : Option String
  configHome : Option String
  environment : String → Option String

/-- How the configuration file is found, and whether its settings are checked. -/
structure SettingsSearch where
  path : Option String
  variableName : String
  validates : Bool
  deriving DecidableEq, Repr

namespace SettingsSearch

/-- The variable that names the configuration file unless another is set. -/
def defaultVariable : String := "DEVICE_TRUST_CONFIG"

/-- The search that is not told anything. -/
def default : SettingsSearch := { path := none, variableName := defaultVariable, validates := true }

/-- The name of the configuration file in the working folder. -/
def localName : String := "device-trust.toml"

/-- The folder of the user for configuration files: the one that is set, if it begins at the root, or
else the usual one. -/
def configFolder? (env : Surroundings) : Option String :=
  match env.configHome.filter Path.isAbsolute with
  | some folder => some folder
  | none => env.home.map (Path.join · ".config")

/-- The usual places of the file, in the order in which they are tried. -/
def usualPaths (env : Surroundings) : List String :=
  let inside (folder inner : String) : String := Path.join (Path.join folder inner) "config.toml"
  ["/etc/device-trust/config.toml"] ++
    ((configFolder? env).map (inside · "device-trust")).toList ++
    (env.home.map (inside · ".device-trust")).toList ++ [localName]

/-- The fault of a file that is not there. -/
def missing (message : String) : Fault := .settings message

/-- The path of the file. -/
def find (s : SettingsSearch) (env : Surroundings) : Except Fault String :=
  match s.path, env.environment s.variableName with
  | some path, _ =>
    if env.files.exists_ path then .ok path
    else .error (missing ("Configuration file not found: " ++ path))
  | none, some path =>
    if env.files.exists_ path then .ok path
    else
      .error (missing ("Configuration file from " ++ s.variableName ++ " not found: " ++ path))
  | none, none =>
    match (usualPaths env).find? env.files.exists_ with
    | some path => .ok path
    | none =>
      let lines := (usualPaths env).map fun path => "\n  - " ++ path
      .error (missing ("No configuration file found. Searched:" ++ String.join lines))

/-- Reads settings, and checks them if that is wanted. -/
def read (s : SettingsSearch) (text : String) : Except Fault Settings := do
  let settings ← Settings.parse text
  if s.validates then settings.validate
  return settings

/-- Reads the settings of a file. -/
def readFile (s : SettingsSearch) (env : Surroundings) (path : String) : Except Fault Settings :=
  match env.files.readText path with
  | .ok text => s.read text
  | .error fault =>
    .error (.settings ("Failed to read " ++ path ++ ": " ++ fault.message))

/-- Finds the file and reads its settings. -/
def load (s : SettingsSearch) (env : Surroundings) : Except Fault Settings := do
  s.readFile env (← s.find env)

/-- Like `load`, with the defaults if no file is given or named and no usual one exists. -/
def loadOrDefault (s : SettingsSearch) (env : Surroundings) : Except Fault Settings :=
  -- a file that is asked for by name must be there
  if s.path.isSome || (env.environment s.variableName).isSome then s.load env
  else
    match (usualPaths env).find? env.files.exists_ with
    | some path => s.readFile env path
    | none => .ok Settings.default

/-- The file can be found. -/
def isFound (s : SettingsSearch) (env : Surroundings) : Bool := (s.find env).toBool

end SettingsSearch

end DeviceAccess
