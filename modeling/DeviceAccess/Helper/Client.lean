import DeviceAccess.Helper.Message
import DeviceAccess.Helper.Version

/-!
# Talking to the helper

A client numbers its requests from one on, and a number is used up even if the request fails. A
client may ask for a minimum version, and then a helper that is older, or whose version cannot be
read, counts as missing.

The way to the helper is a `Transport`: a function from a request and the state of the other side to
the answer and the next state.
-/

namespace DeviceAccess

open Text

/-- A way to a helper whose state is of type `σ`. -/
abbrev Transport (σ : Type) := Octets → σ → Except IoFault Octets × σ

/-- What a client remembers: the number of the next request and the minimum version. -/
structure Client where
  nextId : UInt32
  minimum : Option Version
  deriving DecidableEq, Repr

namespace Client

/-- A client without minimum version. -/
def start : Client := { nextId := 1, minimum := none }

/-- The client that asks for a minimum version. -/
def requiring (c : Client) (version : String) : Except Fault Client :=
  match Version.parse? version with
  | some minimum => .ok { c with minimum := some minimum }
  | none => .error (.settings ("Invalid helper version '" ++ version ++ "'"))

/-- Hands out the next request. -/
def issue (c : Client) (command : Command) : Request × Client :=
  ({ id := c.nextId, command }, { c with nextId := c.nextId + 1 })

/-- A helper that cannot be started is missing; any other fault is one of talking to it. -/
def lost (fault : IoFault) : Fault :=
  if fault.kind = .notFound ∨ fault.kind = .permissionDenied then .unavailable fault.message
  else .helperIo fault

/-- What an answer says. -/
def interpret {β : Type} (decode : Json.Value → Option β) (answer : Except IoFault Octets) :
    Except Fault β :=
  match answer with
  | .error fault => .error (lost fault)
  | .ok octets =>
    match Response.ofOctets? octets with
    | some response => response.outcome decode
    | none => .error Response.unreadable

/-- The version passes the minimum, if there is one. -/
def admits (c : Client) (version : String) : Bool :=
  match c.minimum with
  | none => true
  | some minimum =>
    match Version.parse? version with
    | some actual => actual.isAtLeast minimum
    | none => false

/-- The fault of a helper that does not pass the minimum version. -/
def tooOld (c : Client) (version : String) : Fault :=
  .unavailable
    ("Native helper version " ++ version ++ " is older than " ++
      (c.minimum.map Version.text).getD "")

end Client

/-! ## §1 Calls -/

/-- A client and the state of the other side. -/
structure Link (σ : Type) where
  client : Client
  peer : σ

namespace Link

variable {σ β : Type}

/-- Sends one request and reads the answer. -/
def call (transport : Transport σ) (command : Command) (decode : Json.Value → Option β)
    (link : Link σ) : Except Fault β × Link σ :=
  let (request, client) := link.client.issue command
  let (answer, peer) := transport request.octets link.peer
  (Client.interpret decode answer, { client, peer })

/-- Asks for the version. -/
def ping (transport : Transport σ) : Link σ → Except Fault String × Link σ :=
  call transport .ping Result.version?

/-- Asks whether the device should be enrolled for a user. -/
def shouldEnroll (transport : Transport σ) (user : String) : Link σ → Except Fault Bool × Link σ :=
  call transport (.shouldEnroll user) Result.advice?

/-- Asks for attributes of the device. -/
def deviceInfo (transport : Transport σ) (attributes : List String) :
    Link σ → Except Fault (KeyMap String) × Link σ :=
  call transport (.deviceInfo attributes) Result.attributes?

/-- Asks for the version and checks it. -/
def availability (transport : Transport σ) (link : Link σ) : Except Fault String × Link σ :=
  match ping transport link with
  | (.ok version, next) =>
    if next.client.admits version then (.ok version, next)
    else (.error (next.client.tooOld version), next)
  | failed => failed

end Link

end DeviceAccess
