import DeviceAccess.Document.Record
import DeviceAccess.Files
import DeviceAccess.Json.Strict

/-!
# Finding the helper

The helper is registered with a manifest: a document that names it, says where its program is and
which extensions may talk to it. The program of the first manifest that fits is the helper; manifests
that cannot be read or belong to something else are passed over.

A document that is no manifest gets one text, whatever is wrong with it. The folders that are searched
are those of a Linux system.
-/

namespace DeviceAccess

/-- A manifest. -/
structure Manifest where
  name : String
  path : String
  kind : String
  allowedOrigins : List String
  deriving DecidableEq, Repr

namespace Manifest

/-! ## §1 Reading -/

/-- A list of texts. -/
def texts? : Json.Shape → Option (List String)
  | .array items => items.mapM Json.Shape.string?
  | _ => none

/-- Reads a manifest from its shape. Without a list of extensions any may talk to the helper. -/
def ofShape? (shape : Json.Shape) : Option Manifest := do
  match ← Record.fields? .once Json.key? ["name", "path", "type", "allowed_origins"] shape with
  | [some name, some path, some kind, origins] =>
    return { name := ← Json.Shape.string? name
             path := ← Json.Shape.string? path
             kind := ← Json.Shape.string? kind
             allowedOrigins := ← Record.orDefault? [] texts? origins }
  | _ => none

/-- Reads a manifest. -/
def parse? (text : String) : Option Manifest := (Json.shape? text.toList).bind ofShape?

/-- The only way of talking to a helper. -/
def standardKind : String := "stdio"

/-- Reads the manifest at a path and checks its kind. -/
def load (files : Files) (path : String) : Except Fault Manifest := do
  let text ← (files.readText path).mapError Fault.io
  match parse? text with
  | none => throw (.json "not a manifest")
  | some m =>
    if m.kind = standardKind then return m
    else
      throw (.unavailable
        ("Unsupported native messaging host type '" ++ m.kind ++ "' in " ++ path))

/-- The program of a manifest; a relative path starts from the folder of the manifest. -/
def executable (m : Manifest) (manifestPath : String) : String :=
  if Path.isAbsolute m.path then m.path
  else
    match Path.parent? manifestPath with
    | some folder => Path.join folder m.path
    | none => m.path

end Manifest

/-! ## §2 Locating -/

/-- The origin of requests that come from an extension. -/
def extensionOrigin (extensionId : String) : String := "chrome-extension://" ++ extensionId ++ "/"

/-- Where manifests of a host are looked for. -/
def standardManifestPaths (home : Option String) (hostName : String) : List String :=
  let file := hostName ++ ".json"
  let ofUser :=
    home.map fun h => Path.join (Path.join h ".config/google-chrome/NativeMessagingHosts") file
  ofUser.toList ++ [Path.join "/etc/opt/chrome/native-messaging-hosts" file]

/-- What identifies the helper, and where its manifest may be. -/
structure ManifestSearch where
  hostName : String
  extensionId : String
  paths : List String
  deriving DecidableEq, Repr

namespace ManifestSearch

/-- The origin that the helper is called from. -/
def origin (s : ManifestSearch) : String := extensionOrigin s.extensionId

/-- The manifest is that of the host, and the extension may talk to it. -/
def admits (s : ManifestSearch) (m : Manifest) : Bool :=
  m.name == s.hostName && (m.allowedOrigins.isEmpty || m.allowedOrigins.contains s.origin)

/-- The program of the manifest at a path, if the manifest can be read and fits. -/
def programAt? (s : ManifestSearch) (files : Files) (path : String) : Option String :=
  if files.exists_ path then
    match Manifest.load files path with
    | .ok m => if s.admits m then some (m.executable path) else none
    | .error _ => none
  else none

/-- The program of the first manifest that fits. -/
def locate (s : ManifestSearch) (files : Files) : Option String :=
  s.paths.findSome? (s.programAt? files)

end ManifestSearch

end DeviceAccess
