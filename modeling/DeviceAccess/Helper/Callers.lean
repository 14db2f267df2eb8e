import Mathlib.Logic.Function.Basic
import DeviceAccess.Helper.Client

/-!
# Many callers of one client

Callers of one client share the number of the next request and nothing else. A caller takes a number,
hands a request with that number to the transport, waits for the answer and makes something of it.
Taking a number is one step; between any two steps of one caller the others may take theirs.

- `Call` is what a caller asks of the client, and `Call.conclude` what it makes of the answer.
- `Call.perform` is the same call made on a link that nobody shares.
- `Callers.Step` has one rule for each step of a caller, and `Callers.Run` puts them together.
-/

namespace DeviceAccess

open Text

/-! ## §1 Calls -/

/-- What a caller asks of the client. -/
inductive Call where
  | ping
  | shouldEnroll (user : String)
  | deviceInfo (attributes : List String)
  | availability
  deriving DecidableEq, Repr

namespace Call

/-- What a call gives if all goes well. -/
def Value : Call → Type
  | ping => String
  | shouldEnroll _ => Bool
  | deviceInfo _ => KeyMap String
  | availability => String

/-- The command of the one request that a call sends. -/
def command : Call → Command
  | ping => .ping
  | shouldEnroll user => .shouldEnroll user
  | deviceInfo attributes => .deviceInfo attributes
  | availability => .ping

/-- What a caller of `c` makes of the answer to its request. -/
def conclude (c : Client) : (call : Call) → Except IoFault Octets → Except Fault call.Value
  | ping, answer => Client.interpret Result.version? answer
  | shouldEnroll _, answer => Client.interpret Result.advice? answer
  | deviceInfo _, answer => Client.interpret Result.attributes? answer
  | availability, answer =>
    match Client.interpret Result.version? answer with
    | .ok version => if c.admits version then .ok version else .error (c.tooOld version)
    | .error fault => .error fault

/-- The call on a link that nobody shares. -/
def perform {σ : Type} (transport : Transport σ) :
    (call : Call) → Link σ → Except Fault call.Value × Link σ
  | ping => Link.ping transport
  | shouldEnroll user => Link.shouldEnroll transport user
  | deviceInfo attributes => Link.deviceInfo transport attributes
  | availability => Link.availability transport

end Call

/-! ## §2 Callers -/

/-- Where a caller stands. -/
inductive Stage where
  | idle
  | numbered (call : Call) (request : Request)
  | waiting (call : Call) (request : Request)
  deriving DecidableEq, Repr

namespace Stage

/-- The message that a caller has still to send. -/
def unsent : Stage → List Octets
  | idle => []
  | numbered _ request => [request.octets]
  | waiting _ _ => []

end Stage

/-- A client and where each of its callers stands. -/
structure Callers (ι : Type) where
  client : Client
  stage : ι → Stage

namespace Callers

variable {ι : Type}

/-- A fresh client that nobody has called. -/
def start (minimum : Option Version) : Callers ι where
  client := { Client.start with minimum }
  stage _ := .idle

/-! ## §3 What can be seen -/

/-- What can be seen of a step. -/
inductive Event (ι : Type) where
  | number (caller : ι) (call : Call) (request : Request)
  | send (caller : ι) (message : Octets)
  | finish (caller : ι) (call : Call) (outcome : Except Fault call.Value)
  | abandon (caller : ι)

namespace Event

/-- Whose step it was. -/
def caller : Event ι → ι
  | number who _ _ => who
  | send who _ => who
  | finish who _ _ => who
  | abandon who => who

/-- The request that was handed out. -/
def request? : Event ι → Option Request
  | number _ _ request => some request
  | _ => none

/-- The message that was sent. -/
def message? : Event ι → Option Octets
  | send _ message => some message
  | _ => none

end Event

/-- The requests handed out, oldest first. -/
def handedOut (events : List (Event ι)) : List Request := events.filterMap Event.request?

/-- The messages sent, oldest first. -/
def messages (events : List (Event ι)) : List Octets := events.filterMap Event.message?

variable [DecidableEq ι]

/-- What one caller did. -/
def eventsOf (who : ι) (events : List (Event ι)) : List (Event ι) :=
  events.filter fun event => event.caller = who

/-! ## §4 Steps -/

/-- One caller goes to another stage. -/
def moved (s : Callers ι) (who : ι) (stage : Stage) : Callers ι :=
  { s with stage := Function.update s.stage who stage }

/-- The steps of callers. Nothing is assumed of the answer to a message, and a caller may also give
up while it waits. -/
inductive Step : Callers ι → Event ι → Callers ι → Prop where
  /-- A call begins: the number is read and advanced in one step. -/
  | number {s : Callers ι} (who : ι) (call : Call) {request : Request} {client : Client}
      (hidle : s.stage who = .idle) (hissue : s.client.issue call.command = (request, client)) :
      Step s (.number who call request) ({ s with client }.moved who (.numbered call request))
  /-- The request is written and handed to the transport. -/
  | send {s : Callers ι} (who : ι) {call : Call} {request : Request}
      (hstage : s.stage who = .numbered call request) :
      Step s (.send who request.octets) (s.moved who (.waiting call request))
  /-- The transport answers, or fails. -/
  | finish {s : Callers ι} (who : ι) {call : Call} {request : Request}
      (hstage : s.stage who = .waiting call request) (answer : Except IoFault Octets) :
      Step s (.finish who call (call.conclude s.client answer)) (s.moved who .idle)
  /-- The call is given up. -/
  | abandon {s : Callers ι} (who : ι) {call : Call} {request : Request}
      (hstage : s.stage who = .waiting call request) :
      Step s (.abandon who) (s.moved who .idle)

/-- The runs of callers, with what can be seen of them, oldest first. -/
inductive Run (s : Callers ι) : List (Event ι) → Callers ι → Prop where
  | refl : Run s [] s
  | step {events : List (Event ι)} {t u : Callers ι} {event : Event ι} (h : Run s events t)
      (hstep : Step t event u) : Run s (events ++ [event]) u

end Callers

end DeviceAccess
