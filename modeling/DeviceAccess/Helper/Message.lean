import DeviceAccess.Document.Record
import DeviceAccess.Fault
import DeviceAccess.Json.Printer
import DeviceAccess.Json.Strict
import DeviceAccess.KeyMap

/-!
# Messages

A request is a document with a number, the version of the protocol, the name of a command and the
arguments of the command. A response repeats the number and holds a text that says what went wrong,
or a result.
-/

namespace DeviceAccess

open Text

/-! ## §1 Requests -/

/-- What the helper can be asked. -/
inductive Command where
  | ping
  | shouldEnroll (user : String)
  | deviceInfo (attributes : List String)
  deriving DecidableEq, Repr

namespace Command

/-- The name of a command. -/
def name : Command → String
  | ping => "ping"
  | shouldEnroll _ => "shouldEnrollDevice"
  | deviceInfo _ => "deviceInfo"

/-- The arguments of a command. -/
def arguments : Command → List (String × Json.Value)
  | ping => []
  | shouldEnroll user => [("userId", .string user)]
  | deviceInfo attributes => [("attributes", .array (attributes.map Json.Value.string))]

end Command

/-- The version of the protocol. -/
def protocolVersion : Nat := 1

/-- A command with the number of the request. -/
structure Request where
  id : UInt32
  command : Command
  deriving DecidableEq, Repr

namespace Request

/-- The document of a request. -/
def toValue (r : Request) : Json.Value :=
  .object
    ([("commandId", Json.Value.nat r.id.toNat), ("protocolVersion", Json.Value.nat protocolVersion),
      ("type", Json.Value.string r.command.name)] ++ r.command.arguments)

/-- The request in one line. -/
def text (r : Request) : String := r.toValue.compact

/-- The request as it is sent. -/
def octets (r : Request) : Octets := utf8Text r.text

end Request

/-! ## §2 Responses -/

/-- An answer of the helper. -/
structure Response where
  id : Nat
  protocolVersion : Nat
  error : Option String
  result : Json.Value

namespace Response

/-- A number of thirty-two bits. -/
def number? : Json.Shape → Option Nat
  | .leaf (.number spelling) =>
    match natOfDigits? spelling with
    | some n => if n < limit32 then some n else none
    | none => none
  | _ => none

/-- A text, or the absent value. -/
def textOrNull? : Json.Shape → Option (Option String)
  | .leaf .null => some none
  | shape => (Json.Shape.string? shape).map some

/-- Reads a response from its shape. Only the number must be there. -/
def ofShape? (shape : Json.Shape) : Option Response := do
  let names := ["commandId", "protocolVersion", "error", "result"]
  match ← Record.fields? .once Json.key? names shape with
  | [some id, version, error, result] =>
    return { id := ← number? id
             protocolVersion := ← Record.orDefault? 0 number? version
             error := ← Record.orDefault? none textOrNull? error
             result := ← Record.orDefault? .null (Json.Shape.value? 1) result }
  | _ => none

/-- Reads a response. -/
def parse? (cs : List Char) : Option Response := (Json.shape? cs).bind ofShape?

/-- Reads a response from octets. -/
def ofOctets? (octets : Octets) : Option Response := (ofUtf8? octets).bind parse?

/-- The fault of a document without the expected form. -/
def unreadable : Fault := .json "unexpected document"

/-- The result as `decode` reads it. A text that is not empty means that the request was refused. -/
def outcome {β : Type} (decode : Json.Value → Option β) (r : Response) : Except Fault β :=
  match r.error.filter (· != "") with
  | some message => .error (.rejected r.id message)
  | none =>
    match decode r.result with
    | some value => .ok value
    | none => .error unreadable

end Response

/-! ## §3 Results -/

namespace Result

/-- How a result is written: of a repeated field the last counts, and no item is left over. -/
def records : RecordRules := { repeats := true, others := true, extraItems := false }

/-- The field of a result with one field. -/
def field? (name : String) (result : Json.Value) : Option (Option Json.Value) :=
  match Record.fields? records some [name] result with
  | some [value] => some value
  | _ => none

/-- The version of the helper. -/
def version? (result : Json.Value) : Option String := do
  (← ← field? "version" result).string?

/-- Whether the device should be enrolled. -/
def advice? (result : Json.Value) : Option Bool := do
  (← ← field? "shouldEnroll" result).bool?

/-- The members of an object of texts. -/
def texts? : Json.Value → Option (KeyMap String)
  | .object members => KeyMap.ofMembers? Json.Value.string? members
  | _ => none

/-- The attributes of the device; none may be given. -/
def attributes? (result : Json.Value) : Option (KeyMap String) := do
  Record.orDefault? .empty texts? (← field? "attributes" result)

end Result

end DeviceAccess
