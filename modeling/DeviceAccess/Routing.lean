import DeviceAccess.Endpoint
import DeviceAccess.Enrollment
import DeviceAccess.KeyMap

/-!
# Routing

Where requests to a service go. A private host that is registered for the service always wins; else
an enrolled device uses the address for client certificates, and any other the ordinary one.

- `Route` says whether traffic is meant to go through a private connection at all.
- `Overrides` holds the private hosts by the names of the services that they stand in for.
- `Overrides.resolve` decides about one service.
-/

namespace DeviceAccess

open Text

/-! ## §1 Routes -/

/-- How traffic is meant to go: over the public endpoints, or through a private connection to a
host. -/
inductive Route where
  | direct
  | privateConnection (host : String)
  deriving DecidableEq, Repr

namespace Route

/-- The route of a setting: without a host, or with a blank one, there is no private connection. -/
def ofSetting (host : Option String) : Route :=
  match host.bind nonBlank? with
  | some h => .privateConnection h
  | none => .direct

/-- Traffic is meant to go through a private connection. -/
def isPrivate : Route → Bool
  | direct => false
  | privateConnection _ => true

/-- The host of the private connection. -/
def host? : Route → Option String
  | direct => none
  | privateConnection h => some h

/-- The name of a route. -/
def text : Route → String
  | direct => "public"
  | privateConnection h => "psc:" ++ h

end Route

/-! ## §2 Private hosts of services -/

/-- The private hosts by the names of services in small letters. -/
structure Overrides where
  hosts : KeyMap Host
  deriving DecidableEq

namespace Overrides

/-- No service has a private host. -/
def empty : Overrides := ⟨.empty⟩

/-- The form in which names of services are held. -/
def keyOf (service : String) : String := lowerText (trimText service)

/-- Registers the private host of a service, in place of an earlier one. -/
def register (o : Overrides) (service privateHost : String) : Except Fault Overrides := do
  let host ← liftUrl (Host.parse (trimText privateHost))
  return ⟨o.hosts.insert (keyOf service) host⟩

/-- The private host of a service, whose name may be in any case. -/
def find? (o : Overrides) (service : String) : Option Host := o.hosts.get? (lowerText service)

/-- How many services have a private host. -/
def size (o : Overrides) : Nat := o.hosts.size

/-- Registers the private host of a route for every endpoint. -/
def applyRoute (o : Overrides) (route : Route) (endpoints : List Endpoint) :
    Except Fault Overrides :=
  match route with
  | .direct => .ok o
  | .privateConnection host => endpoints.foldlM (fun o e => o.register e.host host) o

end Overrides

/-! ## §3 Resolution -/

/-- How an endpoint is reached. -/
inductive EndpointKind where
  | tls
  | mutualTls
  | privateConnection
  deriving DecidableEq, Repr

/-- The short name of a kind. -/
def EndpointKind.text : EndpointKind → String
  | tls => "TLS"
  | mutualTls => "mTLS"
  | privateConnection => "PSC"

/-- Where requests go. -/
structure ResolvedEndpoint where
  address : Url
  kind : EndpointKind
  deriving DecidableEq, Repr

namespace ResolvedEndpoint

/-- The host that requests go to. -/
def host (e : ResolvedEndpoint) : String := e.address.hostText

/-- The address with its kind. -/
def text (e : ResolvedEndpoint) : String := e.address.text ++ " (" ++ e.kind.text ++ ")"

end ResolvedEndpoint

namespace Overrides

/-- The endpoint at the private host of a service. An address without a place for a host has
none. -/
def privateEndpoint? (o : Overrides) (service : Endpoint) : Option ResolvedEndpoint := do
  let host ← o.find? service.host
  let address ← service.tls.withHost? host
  return { address, kind := .privateConnection }

/-- The public endpoint of a service. -/
def publicEndpoint (service : Endpoint) (state : EnrollmentState) : ResolvedEndpoint :=
  if state = .enrolled then { address := service.mtls, kind := .mutualTls }
  else { address := service.tls.withLowerHost, kind := .tls }

/-- Decides where requests to a service go. -/
def resolve (o : Overrides) (service : Endpoint) (state : EnrollmentState) : ResolvedEndpoint :=
  (o.privateEndpoint? service).getD (publicEndpoint service state)

end Overrides

end DeviceAccess
