import DeviceAccess.Helper.Advice
import DeviceAccess.Helper.Manifest
import DeviceAccess.Helper.Program
import DeviceAccess.Settings.Effective

/-!
# The configured helper

The settings say which program the helper is, or by which manifests it is found, and which version it
must have. If the helper is turned off there is none.
-/

namespace DeviceAccess

/-! ## §1 Programs -/

/-- The program of a helper: where it is, the origin that it is told, and the version that it must
have. -/
structure HelperProgram where
  path : String
  origin : Option String
  minVersion : Option String
  deriving DecidableEq, Repr

namespace HelperProgram

/-- The way to the program. -/
def transport (p : HelperProgram) (programs : Programs) : Transport Unit :=
  Program.transport programs p.path p.origin.toList

/-- A client that asks for the minimum version. -/
def client (p : HelperProgram) : Except Fault Client :=
  match p.minVersion with
  | some version => Client.start.requiring version
  | none => .ok Client.start

/-- A link to the program before the first request. -/
def link (p : HelperProgram) : Except Fault (Link Unit) :=
  p.client.map fun client => { client, peer := () }

end HelperProgram

/-- The enrollment with the advice of a helper program, if there is one. -/
def refreshWithProgram (settings : EnrollmentSettings) (policy : Policy) (store : CertificateStore)
    (programs : Programs) (program : Option HelperProgram) (user : String) :
    Except Fault EnrollmentReport :=
  match program with
  | none => (refreshWithHelper settings policy store noHelper user none).1
  | some p => do
    let link ← p.link
    (refreshWithHelper settings policy store (p.transport programs) user (some link)).1
where
  noHelper : Transport Unit := fun _ _ => (.error noSuchFile, ())

/-! ## §2 Settings -/

namespace HelperSettings

/-- The origin that the helper is called from. -/
def origin (h : HelperSettings) : String := extensionOrigin h.extensionId

/-- Where the manifest of the helper may be. -/
def manifestSearch (h : HelperSettings) (home : Option String) : ManifestSearch :=
  { hostName := h.hostName
    extensionId := h.extensionId
    paths :=
      match h.manifestPath with
      | some path => [path]
      | none => standardManifestPaths home h.hostName }

/-- Where the program of the helper is. -/
def locate (h : HelperSettings) (files : Files) (home : Option String) : Option String :=
  match h.executable with
  | some path => some path
  | none => (h.manifestSearch home).locate files

/-- The program of the helper, whether or not the helper is turned on. -/
def program? (h : HelperSettings) (files : Files) (home : Option String) : Option HelperProgram :=
  (h.locate files home).map fun path =>
    { path, origin := some h.origin, minVersion := h.minVersion }

end HelperSettings

/-- The enrollment with the advice of the configured helper. -/
def Settings.refreshWithAdvice (s : Settings) (store : CertificateStore) (files : Files)
    (programs : Programs) (home : Option String) (user : String) :
    Except Fault EnrollmentReport :=
  let program := if s.helper.enabled then s.helper.program? files home else none
  refreshWithProgram s.enrollmentSettings s.selectionPolicy store programs program user

end DeviceAccess
