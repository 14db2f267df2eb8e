/-!
# ASCII letters and digits

Host names, schemes and the keys of distinguished names ignore the case of the twenty-six ASCII
letters and of no other character. This module holds that case map on texts, the comparison it
induces and the value of a digit in a base up to sixteen.
-/

namespace DeviceAccess.Text

/-! ## §1 Case -/

/-- A list of characters with its ASCII capitals made small. -/
def lower (cs : List Char) : List Char := cs.map Char.toLower

/-- A list of characters with its small ASCII letters made capital. -/
def upper (cs : List Char) : List Char := cs.map Char.toUpper

/-- A text with its ASCII capitals made small. -/
def lowerText (s : String) : String := String.ofList (lower s.toList)

/-- A text with its small ASCII letters made capital. -/
def upperText (s : String) : String := String.ofList (upper s.toList)

/-- Two texts are the same letter by letter when ASCII case is ignored. -/
def sameIgnoringCase (s t : String) : Bool := lowerText s == lowerText t

/-- No ASCII capital occurs. -/
def hasNoCapital (cs : List Char) : Bool := cs.all fun c => !c.isUpper

theorem lower_append (s t : List Char) : lower (s ++ t) = lower s ++ lower t := by
  simp [lower]

theorem length_lower (s : List Char) : (lower s).length = s.length := by
  simp [lower]

/-! ## §2 Digits -/

/-- The value of a digit `0`–`9`, `a`–`f` or `A`–`F`. -/
def digitValue? (c : Char) : Option Nat :=
  if '0' ≤ c ∧ c ≤ '9' then some (c.toNat - '0'.toNat)
  else if 'a' ≤ c ∧ c ≤ 'f' then some (c.toNat - 'a'.toNat + 10)
  else if 'A' ≤ c ∧ c ≤ 'F' then some (c.toNat - 'A'.toNat + 10)
  else none

/-- The character is a digit of the base. -/
def isDigitOf (base : Nat) (c : Char) : Bool :=
  match digitValue? c with
  | some v => v < base
  | none => false

/-- A hexadecimal digit in either case. -/
def isHexDigit (c : Char) : Bool := (digitValue? c).isSome

/-- The number that a run of digits denotes, most significant first; other characters count as
zero and do not occur where this is called. -/
def digitsValue (base : Nat) (cs : List Char) : Nat :=
  cs.foldl (fun acc c => acc * base + (digitValue? c).getD 0) 0

/-- The small hexadecimal digit of a value below sixteen. -/
def hexDigit (n : Nat) : Char :=
  if n < 10 then Char.ofNat ('0'.toNat + n) else Char.ofNat ('a'.toNat + (n - 10))

/-- A number in small hexadecimal digits, at least `width` of them. -/
def hexText (width n : Nat) : List Char :=
  let digits := Nat.toDigits 16 n
  List.replicate (width - digits.length) '0' ++ digits

end DeviceAccess.Text
