import DeviceAccess.Text.Ascii
import DeviceAccess.Text.Utf8

/-!
# Percent encoding

Each part of an address has a set of ASCII characters that it spells as `%` and two capital
hexadecimal digits. Every part spells characters beyond ASCII so, octet by octet of their UTF-8
form. The sets grow from the controls to the userinfo.
-/

namespace DeviceAccess.Url

open Text

/-! ## §1 The sets -/

/-- Controls and the delete character; they are spelled out in every part. -/
def escapedEverywhere (c : Char) : Bool := c.toNat < 0x20 || c.toNat == 0x7F

/-- Spelled out in the query of an address. -/
def escapedInQuery (c : Char) : Bool :=
  escapedEverywhere c || [' ', '"', '#', '<', '>'].contains c

/-- Spelled out in the query of an address with a special scheme. -/
def escapedInSpecialQuery (c : Char) : Bool := escapedInQuery c || c == '\''

/-- Spelled out in a fragment. -/
def escapedInFragment (c : Char) : Bool :=
  escapedEverywhere c || [' ', '"', '<', '>', '`'].contains c

/-- Spelled out in a path. -/
def escapedInPath (c : Char) : Bool :=
  escapedInFragment c || ['#', '?', '{', '}'].contains c

/-- Spelled out in a user name or a password. -/
def escapedInUserinfo (c : Char) : Bool :=
  escapedInPath c || ['/', ':', ';', '=', '@', '[', '\\', ']', '^', '|'].contains c

/-! ## §2 Writing and reading -/

/-- The percent spelling of an octet. -/
def percentOctet (b : UInt8) : List Char :=
  ['%', (hexDigit (b.toNat / 16)).toUpper, (hexDigit (b.toNat % 16)).toUpper]

/-- A character as it stands in a part that escapes a set of ASCII characters. -/
def percentChar (escaped : Char → Bool) (c : Char) : List Char :=
  if 0x80 ≤ c.toNat || escaped c then (utf8 [c]).flatMap percentOctet else [c]

/-- A text as it stands in a part that escapes a set of ASCII characters. -/
def percentEncode (escaped : Char → Bool) (cs : List Char) : List Char :=
  cs.flatMap (percentChar escaped)

/-- The octets that a text stands for when each `%` with two hexadecimal digits is one octet. -/
def percentDecode : List Char → Octets
  | [] => []
  | '%' :: hi :: lo :: rest =>
    match digitValue? hi, digitValue? lo with
    | some h, some l => UInt8.ofNat (h * 16 + l) :: percentDecode rest
    | _, _ => utf8 ['%'] ++ percentDecode (hi :: lo :: rest)
  | c :: rest => utf8 [c] ++ percentDecode rest

end DeviceAccess.Url
