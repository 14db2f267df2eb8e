import DeviceAccess.Text.Ascii

/-!
# Decimal numbers

Bounded unsigned numbers as they stand in ports, versions and policy entries: one leading `+` is
accepted, leading zeros are accepted, and a number that does not fit its width is refused.
-/

namespace DeviceAccess.Text

/-- The number that a non-empty run of decimal digits denotes. -/
def natOfDigits? (cs : List Char) : Option Nat :=
  if !cs.isEmpty && cs.all Char.isDigit then some (digitsValue 10 cs) else none

/-- An unsigned number below `bound`, with one leading `+` allowed. -/
def boundedNat? (bound : Nat) (cs : List Char) : Option Nat :=
  let digits :=
    match cs with
    | '+' :: rest => rest
    | _ => cs
  match natOfDigits? digits with
  | some n => if n < bound then some n else none
  | none => none

/-- The first number that does not fit sixteen bits. -/
def limit16 : Nat := 0x1_0000

/-- The first number that does not fit thirty-one bits. -/
def limit31 : Nat := 0x8000_0000

/-- The first number that does not fit thirty-two bits. -/
def limit32 : Nat := 0x1_0000_0000

/-- The first number that does not fit sixty-three bits. -/
def limit63 : Nat := 0x8000_0000_0000_0000

/-- The first number that does not fit sixty-four bits. -/
def limit64 : Nat := 0x1_0000_0000_0000_0000

/-- A number of sixteen bits. -/
def word16? (cs : List Char) : Option Nat := boundedNat? limit16 cs

/-- A number of sixty-four bits. -/
def word64? (cs : List Char) : Option Nat := boundedNat? limit64 cs

/-- The decimal digits of a number. -/
def decimal (n : Nat) : List Char := Nat.toDigits 10 n

example : word16? "+00443".toList = some 443 := by decide
example : word16? "65536".toList = none := by decide

end DeviceAccess.Text
