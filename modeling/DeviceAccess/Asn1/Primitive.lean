import DeviceAccess.Asn1.Element
import DeviceAccess.Text.Cut
import DeviceAccess.Text.Decimal

/-!
# Primitive values

Integers, truth values, bit strings, object identifiers and times, each in its one distinguished
form. Times are seconds since the beginning of 1970; earlier ones are not read.
-/

namespace DeviceAccess.Asn1

open Text

/-! ## §1 Integers, truth values, bit strings -/

/-- The content of an integer in as few octets as possible. -/
def isIntegerContent (content : Octets) : Bool :=
  match content with
  | [] => false
  | [_] => true
  | a :: b :: _ => !((a == 0 && b < 0x80) || (a == 0xFF && 0x80 ≤ b))

/-- Reads a truth value: all bits set or none. -/
def boolean? (e : Element) : Option Bool :=
  if e.tag == boolean then
    match e.content with
    | [0x00] => some false
    | [0xFF] => some true
    | _ => none
  else none

/-- The content of a bit string: how many bits of the last octet are unused, then the octets. -/
def isBitStringContent (content : Octets) : Bool :=
  match content with
  | [] => false
  | unused :: octets => unused ≤ 7 && (unused == 0 || !octets.isEmpty)

/-- The element is a bit string. -/
def isBitString (e : Element) : Bool := e.tag == bitString && isBitStringContent e.content

/-! ## §2 Object identifiers -/

/-- An object identifier, as it is encoded. -/
structure Oid where
  octets : Octets
  deriving DecidableEq, Repr

/-- The arcs behind the first two, in base 128 with a mark on all octets but the last. An arc has at
most five octets, and the fifth a small value; arithmetic is modulo the width of a word. -/
def laterArcs? (octets : Octets) : Option (List Nat) :=
  go 0 0 octets
where
  go (count value : Nat) : Octets → Option (List Nat)
    | [] => if count = 0 then some [] else none
    | b :: rest =>
      -- the fifth octet can only hold what is left of thirty-two bits
      if 4 ≤ count && 16 ≤ b.toNat then none
      else
        let next := (value * 128 + b.toNat % 128) % limit32
        if b.toNat < 128 then (go 0 0 rest).map (next :: ·) else go (count + 1) next rest

/-- All arcs of an identifier. -/
def Oid.arcs? (oid : Oid) : Option (List Nat) :=
  match oid.octets with
  | [] => none
  | root :: rest =>
    if 119 < root.toNat then none
    else (laterArcs? rest).map fun later => root.toNat / 40 :: root.toNat % 40 :: later

/-- The dotted form. -/
def Oid.text (oid : Oid) : String :=
  String.ofList (joinWith ['.'] ((oid.arcs?.getD []).map decimal))

/-- Reads an object identifier of three to thirty-nine octets. -/
def oid? (e : Element) : Option Oid :=
  if e.tag == objectId && 3 ≤ e.content.length && e.content.length ≤ 39 &&
      (Oid.arcs? ⟨e.content⟩).isSome
  then some ⟨e.content⟩
  else none

/-! ## §3 Times -/

/-- The year has a 29 February. -/
def isLeapYear (year : Nat) : Bool := year % 4 == 0 && (year % 100 != 0 || year % 400 == 0)

/-- How many days a month has. -/
def daysInMonth (year month : Nat) : Nat :=
  if month = 2 then (if isLeapYear year then 29 else 28)
  else if [4, 6, 9, 11].contains month then 30
  else 31

/-- How many leap years lie between the beginning of the calendar and a year. -/
def leapYearsBefore (year : Nat) : Nat := (year - 1) / 4 - (year - 1) / 100 + (year - 1) / 400

/-- The seconds from the beginning of 1970 to a moment, if there is such a moment. -/
def secondsSince1970? (year month day hour minute second : Nat) : Option Nat :=
  if 1970 ≤ year && 1 ≤ month && month ≤ 12 && 1 ≤ day && day ≤ daysInMonth year month &&
      hour < 24 && minute < 60 && second < 60
  then
    let years := (year - 1970) * 365 + (leapYearsBefore year - leapYearsBefore 1970)
    let months :=
      ((List.range (month - 1)).map fun m => daysInMonth year (m + 1)).foldl (· + ·) 0
    some ((((years + months + (day - 1)) * 24 + hour) * 60 + minute) * 60 + second)
  else none

/-- The numbers that pairs of decimal digits denote. -/
def digitPairs? : List Char → Option (List Nat)
  | [] => some []
  | [_] => none
  | a :: b :: rest =>
    if a.isDigit && b.isDigit then (digitPairs? rest).map (digitsValue 10 [a, b] :: ·) else none

/-- Octets read as ASCII. -/
def asciiOf (octets : Octets) : List Char := octets.map fun b => Char.ofNat b.toNat

/-- Reads a time in either form. A year of two digits from 50 on lies in the last century. -/
def time? (e : Element) : Option Nat :=
  match (asciiOf e.content).reverse with
  | 'Z' :: digits =>
    match digitPairs? digits.reverse with
    | some [y, month, day, hour, minute, second] =>
      if e.tag == utcTime then
        secondsSince1970? (if 50 ≤ y then 1900 + y else 2000 + y) month day hour minute second
      else none
    | some [century, y, month, day, hour, minute, second] =>
      if e.tag == generalizedTime then
        secondsSince1970? (century * 100 + y) month day hour minute second
      else none
    | _ => none
  | _ => none

example : secondsSince1970? 2024 1 1 0 0 0 = some 1704067200 := by decide

end DeviceAccess.Asn1
