import DeviceAccess.Fault
import DeviceAccess.Text.Decimal
import DeviceAccess.Text.Utf8

/-!
# Frames

Messages to and from the helper travel in frames: four octets with the length of the message, least
significant first and with a sign, and then the message. A message has at most one mebioctet.

`write` refuses a message that is too long and `read` a length that is negative or too large; a
stream that ends inside a frame is at its end.
-/

namespace DeviceAccess.Frame

open Text

/-- The length of the longest message. -/
def maxLength : Nat := 1024 * 1024

/-- A number below 2^32 in four octets, least significant first. -/
def lengthOctets (n : Nat) : Octets :=
  [UInt8.ofNat (n % 256), UInt8.ofNat (n / 256 % 256), UInt8.ofNat (n / 65536 % 256),
    UInt8.ofNat (n / 16777216 % 256)]

/-- The number that four octets denote, least significant first; from 2^31 on it is negative. -/
def lengthOf (a b c d : UInt8) : Int :=
  let n := a.toNat + 256 * b.toNat + 65536 * c.toNat + 16777216 * d.toNat
  if n < limit31 then n else (n : Int) - limit32

/-- The frame of a message. -/
def octets (message : Octets) : Octets := lengthOctets message.length ++ message

/-- The frame of a message that is not too long. -/
def write (message : Octets) : Except IoFault Octets :=
  if message.length ≤ maxLength then .ok (octets message)
  else
    .error {
      kind := .invalidInput
      message := "message too large: " ++ toString message.length ++ " bytes" }

/-- The fault of a stream that ends too early. -/
def ended : IoFault := { kind := .unexpectedEof, message := "early eof" }

/-- The fault of a length that no message has. -/
def badLength (n : Int) : IoFault :=
  { kind := .invalidData, message := "invalid message length: " ++ toString n }

/-- Reads the first message of a stream. -/
def read (stream : Octets) : Except IoFault (Octets × Octets) :=
  match stream with
  | a :: b :: c :: d :: rest =>
    let n := lengthOf a b c d
    if n < 0 || maxLength < n then .error (badLength n)
    else if n.toNat ≤ rest.length then .ok (rest.take n.toNat, rest.drop n.toNat)
    else .error ended
  | _ => .error ended

end DeviceAccess.Frame
