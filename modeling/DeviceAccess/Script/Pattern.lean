import DeviceAccess.Text.Utf8

/-!
# Patterns of choices

A star stands for any text, a question mark for any octet, and everything else for itself.
-/

namespace DeviceAccess.Script

open Text

/-- A part of a pattern. -/
inductive Glob where
  | any
  | one
  | octet (b : UInt8)
  deriving DecidableEq, Repr

/-- Some end of a text has a property. -/
def someEnd (p : Octets → Bool) : Octets → Bool
  | [] => p []
  | b :: rest => p (b :: rest) || someEnd p rest

/-- The whole of a text matches a pattern. -/
def Glob.accepts : List Glob → Octets → Bool
  | [], octets => octets.isEmpty
  | .any :: rest, octets => someEnd (Glob.accepts rest) octets
  | .one :: rest, octets =>
    match octets with
    | _ :: more => Glob.accepts rest more
    | [] => false
  | .octet b :: rest, octets =>
    match octets with
    | c :: more => b == c && Glob.accepts rest more
    | [] => false

end DeviceAccess.Script
