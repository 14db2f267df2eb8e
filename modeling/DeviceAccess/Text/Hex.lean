import DeviceAccess.Text.Ascii
import DeviceAccess.Text.Utf8

/-!
# Octets in hexadecimal

The two-digit spelling of octets, in capitals where a thumbprint is shown and in either case where
octets are read.
-/

namespace DeviceAccess.Text

/-- The two digits of an octet, high half first. -/
def octetHex (b : UInt8) : List Char := [hexDigit (b.toNat / 16), hexDigit (b.toNat % 16)]

/-- Octets in small hexadecimal digits. -/
def hexOf (octets : Octets) : List Char := octets.flatMap octetHex

/-- Octets in capital hexadecimal digits. -/
def upperHexOf (octets : Octets) : List Char := upper (hexOf octets)

/-- The octets that pairs of digits spell. -/
def octetsOfHex? : List Char → Option Octets
  | [] => some []
  | [_] => none
  | hi :: lo :: rest =>
    match digitValue? hi, digitValue? lo, octetsOfHex? rest with
    | some h, some l, some bs => some (UInt8.ofNat (h * 16 + l) :: bs)
    | _, _, _ => none

end DeviceAccess.Text
