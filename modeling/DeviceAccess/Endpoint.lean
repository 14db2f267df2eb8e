import DeviceAccess.Fault
import DeviceAccess.Text.Cut
import DeviceAccess.Url.Reader
import DeviceAccess.Url.Substitution

/-!
# Service endpoints

A service has a public address for ordinary connections and one for connections on which the client
shows a certificate. Services below `googleapis.com` have the latter under a name of its own; all
others have one address for both.
-/

namespace DeviceAccess

open Text

/-- The public addresses of a service. -/
structure Endpoint where
  tls : Url
  mtls : Url
  deriving DecidableEq, Repr

namespace Endpoint

/-! ## §1 The address for client certificates -/

/-- The end of the names of services with two addresses. -/
def serviceSuffix : List Char := ".googleapis.com".toList

/-- What marks a name as that for client certificates. -/
def mtlsMark : List Char := ".mtls".toList

/-- The name for client certificates that belongs to a name in small letters, if there is one. -/
def mtlsName? (host : List Char) : Option (List Char) :=
  match dropFinalRun? serviceSuffix host with
  | none => none
  | some service =>
    if service.isEmpty || (dropFinalRun? mtlsMark service).isSome then none
    else some (service ++ mtlsMark ++ serviceSuffix)

/-- The address for client certificates. -/
def mtlsAddress (u : Url) : Url :=
  match u.host with
  | some (.domain name) =>
    match mtlsName? (lower name.toList) with
    | some mtls => u.replaceHost (.domain (String.ofList mtls))
    | none => u
  | _ => u

/-! ## §2 Building and asking -/

/-- The endpoint with a given address for ordinary connections. -/
def ofUrl (tls : Url) : Endpoint := { tls, mtls := mtlsAddress tls }

/-- Reads the address of an endpoint. -/
def parse (text : String) : Except Fault Endpoint := (liftUrl (Url.parse text)).map ofUrl

/-- The host of the service in small letters. -/
def host (e : Endpoint) : String := lowerText e.tls.hostText

/-- An address with a rooted path on a web server. -/
def webAddress (host path : String) : Url :=
  { scheme := "https"
    authority := some ⟨"", "", some (.domain host), none⟩
    path := path
    query := none
    fragment := none }

/-- The services that are known without being set, by host and path. -/
def wellKnownServices : List (String × String) :=
  [("compute.googleapis.com", "/compute/v1/"), ("oslogin.googleapis.com", "/"),
    ("oauth2.googleapis.com", "/"), ("openidconnect.googleapis.com", "/"),
    ("cloudresourcemanager.googleapis.com", "/"), ("logging.googleapis.com", "/"),
    ("iap.googleapis.com", "/")]

/-- The endpoints that are known without being set. -/
def wellKnown : List Endpoint :=
  wellKnownServices.map fun (host, path) => ofUrl (webAddress host path)

end Endpoint

end DeviceAccess
