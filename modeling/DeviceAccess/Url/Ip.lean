import DeviceAccess.Text.Cut
import DeviceAccess.Text.Decimal

/-!
# Internet addresses

Addresses of four octets and of eight groups, with the two ways to read the former: the strict
dotted form, and the lenient form of hosts, where a part may be octal or hexadecimal and the last
part fills the octets that are left.
-/

namespace DeviceAccess

open Text

/-- An address of four octets. -/
structure Ipv4 where
  value : UInt32
  deriving DecidableEq, Repr

/-- An address of eight groups of sixteen bits. -/
structure Ipv6 where
  groups : List UInt16
  length_groups : groups.length = 8
  deriving DecidableEq, Repr

/-- An address of either kind. -/
inductive Ip where
  | v4 (address : Ipv4)
  | v6 (address : Ipv6)
  deriving DecidableEq, Repr

/-! ## §1 Four octets -/

namespace Ipv4

/-- The address with four given octets. -/
def ofOctets (a b c d : Nat) : Ipv4 := ⟨UInt32.ofNat (((a * 256 + b) * 256 + c) * 256 + d)⟩

/-- The dotted form. -/
def toChars (ip : Ipv4) : List Char :=
  let n := ip.value.toNat
  joinWith ['.'] ([n / 0x100_0000, n / 0x1_0000 % 256, n / 256 % 256, n % 256].map decimal)

/-- An octet in one to three digits without a superfluous zero. -/
def strictOctet? (cs : List Char) : Option Nat :=
  match natOfDigits? cs with
  | some n =>
    if cs.length ≤ 3 && n < 256 && (cs.length == 1 || cs.head? != some '0') then some n else none
  | none => none

/-- Reads the strict dotted form. -/
def ofDotted? (cs : List Char) : Option Ipv4 :=
  match (pieces '.' cs).mapM strictOctet? with
  | some [a, b, c, d] => some (ofOctets a b c d)
  | _ => none

/-- A part of the lenient form: hexadecimal behind `0x`, octal behind `0`, else decimal. -/
def lenientPart? (cs : List Char) : Option Nat :=
  let read (base : Nat) (digits : List Char) : Option Nat :=
    if digits.all (isDigitOf base) then some (digitsValue base digits) else none
  match cs with
  | [] => none
  | '0' :: 'x' :: digits => read 16 digits
  | '0' :: 'X' :: digits => read 16 digits
  | '0' :: d :: digits => read 8 (d :: digits)
  | digits => read 10 digits

/-- The parts of the lenient form; one dot at the end is allowed. -/
def lenientParts (cs : List Char) : List (List Char) :=
  match (pieces '.' cs).reverse with
  | [] :: rest => rest.reverse
  | parts => parts.reverse

/-- Reads the lenient form. All parts but the last are octets, and the last fits what is left. -/
def ofLenient? (cs : List Char) : Option Ipv4 :=
  match (lenientParts cs).mapM lenientPart? with
  | none => none
  | some numbers =>
    match numbers.reverse with
    | [] => none
    | last :: leading =>
      if numbers.length ≤ 4 && leading.all (· < 256) && last < Nat.pow 256 (5 - numbers.length) then
        let weighted := (leading.reverse.zipIdx).map fun (n, i) => n * Nat.pow 256 (3 - i)
        some ⟨UInt32.ofNat (weighted.foldl (· + ·) last)⟩
      else none

/-- A host whose last label is a number can only be an address in the lenient form. -/
def endsInNumber (cs : List Char) : Bool :=
  match (lenientParts cs).reverse with
  | [] => false
  | last :: _ =>
    (!last.isEmpty && last.all Char.isDigit) || (lenientPart? last).isSome

end Ipv4

/-! ## §2 Eight groups -/

namespace Ipv6

/-- A group of one to four hexadecimal digits. -/
def group? (cs : List Char) : Option UInt16 :=
  if !cs.isEmpty && cs.length ≤ 4 && cs.all isHexDigit then
    some (UInt16.ofNat (digitsValue 16 cs))
  else none

/-- The groups that colons separate; with `dottedTail`, an address of four octets may stand for the
last two. -/
def groups? (dottedTail : Bool) (cs : List Char) : Option (List UInt16) :=
  if cs.isEmpty then some []
  else go (pieces ':' cs)
where
  go : List (List Char) → Option (List UInt16)
    | [] => some []
    | [last] =>
      match group? last with
      | some g => some [g]
      | none =>
        if dottedTail then
          (Ipv4.ofDotted? last).map fun ip =>
            [UInt16.ofNat (ip.value.toNat / 65536), UInt16.ofNat (ip.value.toNat % 65536)]
        else none
    | piece :: rest =>
      match group? piece, go rest with
      | some g, some gs => some (g :: gs)
      | _, _ => none

/-- The address with the given groups, if there are eight. -/
def ofGroups? (groups : List UInt16) : Option Ipv6 :=
  if h : groups.length = 8 then some ⟨groups, h⟩ else none

/-- Reads an address. `::` stands once for one or more groups of zero. -/
def ofChars? (cs : List Char) : Option Ipv6 :=
  match cutAtRun? [':', ':'] cs with
  | none => (groups? true cs).bind ofGroups?
  | some (front, back) =>
    match groups? false front, groups? true back with
    | some before, some after =>
      if before.length + after.length < 8 then
        ofGroups? (before ++ List.replicate (8 - before.length - after.length) 0 ++ after)
      else none
    | _, _ => none

/-- How many groups of zero the list begins with. -/
def zeroRun (groups : List UInt16) : Nat := (groups.takeWhile (· == 0)).length

/-- The place and length of the longest run of zero groups, the first of several. -/
def longestZeroRun (groups : List UInt16) : Nat × Nat :=
  go 0 groups (0, 0)
where
  go (at_ : Nat) : List UInt16 → Nat × Nat → Nat × Nat
    | [], best => best
    | g :: gs, best =>
      let run := zeroRun (g :: gs)
      go (at_ + 1) gs (if best.2 < run then (at_, run) else best)

/-- The canonical form, with `::` for the longest run of two or more zero groups. -/
def toChars (ip : Ipv6) : List Char :=
  let shown (groups : List UInt16) : List Char :=
    joinWith [':'] (groups.map fun g => hexText 1 g.toNat)
  let (start, count) := longestZeroRun ip.groups
  if count < 2 then shown ip.groups
  else shown (ip.groups.take start) ++ [':', ':'] ++ shown (ip.groups.drop (start + count))

end Ipv6

/-- Reads an address of either kind in its strict form. -/
def Ip.ofChars? (cs : List Char) : Option Ip :=
  match Ipv4.ofDotted? cs with
  | some ip => some (.v4 ip)
  | none => (Ipv6.ofChars? cs).map .v6

end DeviceAccess
