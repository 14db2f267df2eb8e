import DeviceAccess.Fault
import DeviceAccess.Routing

/-!
# Probes

A probe opens a connection to the host and port of an endpoint and closes it again. How connecting
goes is a parameter, so that a probe itself is a plain function.
-/

namespace DeviceAccess

/-- The result of a probe. -/
inductive ProbeOutcome where
  | reachable
  | unreachable (reason : String)
  | timedOut
  deriving DecidableEq, Repr

namespace ProbeOutcome

/-- The connection was accepted. -/
def isReachable (o : ProbeOutcome) : Bool := o == .reachable

/-- The wording of a result. -/
def text : ProbeOutcome → String
  | reachable => "reachable"
  | unreachable reason => "unreachable: " ++ reason
  | timedOut => "timed out"

end ProbeOutcome

/-- The host and port that a probe connects to, or why there are none. -/
def probeTarget (endpoint : ResolvedEndpoint) : Except String (String × Nat) :=
  match endpoint.address.host, endpoint.address.effectivePort? with
  | none, _ => .error (endpoint.address.text ++ " has no host")
  | some _, none => .error (endpoint.address.text ++ " has no port")
  | some host, some port => .ok (host.text, port)

/-- Probes an endpoint. -/
def probe (connect : String → Nat → ProbeOutcome) (endpoint : ResolvedEndpoint) : ProbeOutcome :=
  match probeTarget endpoint with
  | .ok (host, port) => connect host port
  | .error reason => .unreachable reason

end DeviceAccess
