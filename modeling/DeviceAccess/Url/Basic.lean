import DeviceAccess.Url.Host

/-!
# Addresses of services

An address has a scheme, a path, and perhaps an authority, a query and a fragment. The parts are
kept as they are written: percent-encoded, with the scheme and, for special schemes, the host in
small letters, and without a port that is the default of the scheme.
-/

namespace DeviceAccess

open Text

/-- Who is addressed: credentials, a host and a port. The host is missing where nothing stands
between the slashes, as in `file:///x`. -/
structure Authority where
  username : String
  password : String
  host : Option Host
  port : Option Nat
  deriving DecidableEq, Repr

/-- An address. -/
structure Url where
  scheme : String
  authority : Option Authority
  path : String
  query : Option String
  fragment : Option String
  deriving DecidableEq, Repr

namespace Url

/-! ## §1 Schemes -/

/-- The schemes whose addresses always have a host and a rooted path, and the file scheme. -/
def isSpecial (scheme : String) : Bool :=
  ["http", "https", "ws", "wss", "ftp", "file"].contains scheme

/-- The port that a scheme uses when none is written. -/
def defaultPort? (scheme : String) : Option Nat :=
  if scheme == "http" || scheme == "ws" then some 80
  else if scheme == "https" || scheme == "wss" then some 443
  else if scheme == "ftp" then some 21
  else none

/-! ## §2 Parts -/

/-- The host, if there is one. -/
def host (u : Url) : Option Host := u.authority.bind Authority.host

/-- The host as it is written, empty if there is none. -/
def hostText (u : Url) : String :=
  match u.host with
  | some h => h.text
  | none => ""

/-- The port that is written. -/
def port (u : Url) : Option Nat := u.authority.bind Authority.port

/-- The port that is written, or else the default of the scheme. -/
def effectivePort? (u : Url) : Option Nat :=
  match u.port with
  | some p => some p
  | none => defaultPort? u.scheme

/-- The address is a scheme and a name of that scheme, such as a mailbox: it has neither an
authority nor a rooted path. -/
def isName (u : Url) : Bool :=
  u.authority.isNone && u.path.toList.head? != some '/'

/-! ## §3 Writing -/

/-- Credentials, host and port as they are written. -/
def Authority.toChars (a : Authority) : List Char :=
  let password := if a.password.isEmpty then [] else [':'] ++ a.password.toList
  let credentials :=
    if a.username.isEmpty && a.password.isEmpty then []
    else a.username.toList ++ password ++ ['@']
  let host := (a.host.map Host.toChars).getD []
  let port := (a.port.map fun p => [':'] ++ decimal p).getD []
  credentials ++ host ++ port

/-- The address as it is written. -/
def toChars (u : Url) : List Char :=
  u.scheme.toList ++ [':'] ++
    ((u.authority.map fun a => ['/', '/'] ++ Authority.toChars a).getD []) ++
    u.path.toList ++
    ((u.query.map fun q => ['?'] ++ q.toList).getD []) ++
    ((u.fragment.map fun f => ['#'] ++ f.toList).getD [])

/-- The address as it is written. -/
def text (u : Url) : String := String.ofList u.toChars

end Url

end DeviceAccess
