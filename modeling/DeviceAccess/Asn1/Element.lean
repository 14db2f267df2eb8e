import DeviceAccess.Text.Utf8

/-!
# Elements of the distinguished encoding

An element is a tag octet, a length and that many octets of content. Only the distinguished form is
read: definite lengths in as few octets as possible, and tags whose number fits the tag octet and,
for universal tags, is one that the encoding knows.

`readElement?` gives the first element and the rest, which is shorter, and `elements?` reads a
sequence of octets as nothing but elements.
-/

namespace DeviceAccess.Asn1

open Text

/-! ## §1 Tags -/

/-- A tag octet. -/
abbrev Tag := UInt8

/-- The universal tags of the types that certificates are made of. -/
def boolean : Tag := 0x01
def integer : Tag := 0x02
def bitString : Tag := 0x03
def octetString : Tag := 0x04
def objectId : Tag := 0x06
def utcTime : Tag := 0x17
def generalizedTime : Tag := 0x18
def sequence : Tag := 0x30
def set : Tag := 0x31

/-- The universal tags that may occur at all. -/
def universalTags : List Tag :=
  [0x01, 0x02, 0x03, 0x04, 0x05, 0x06, 0x09, 0x0A, 0x0C, 0x12, 0x13, 0x14, 0x15, 0x16, 0x17,
    0x18, 0x1A, 0x1B, 0x1E, 0x30, 0x31]

/-- The number in the low five bits of a tag. -/
def tagNumber (t : Tag) : Nat := t.toNat % 32

/-- The tag announces elements as its content. -/
def isConstructed (t : Tag) : Bool := t.toNat / 32 % 2 == 1

/-- The tag has a meaning only in its place. -/
def isContextual (t : Tag) : Bool := t.toNat / 64 == 2

/-- The octet is a tag. -/
def isTag (t : Tag) : Bool :=
  if t.toNat < 64 then universalTags.contains t else tagNumber t != 31

/-! ## §2 Lengths -/

/-- The number that octets denote, most significant first. -/
def octetsValue (octets : Octets) : Nat := octets.foldl (fun acc b => acc * 256 + b.toNat) 0

/-- The octets of a number, most significant first, without superfluous zeros. -/
def numberOctets (n : Nat) : Octets :=
  if n < 256 then [UInt8.ofNat n] else numberOctets (n / 256) ++ [UInt8.ofNat (n % 256)]
termination_by n
decreasing_by omega

/-- A length as it is written. -/
def lengthOctets (n : Nat) : Octets :=
  if n < 128 then [UInt8.ofNat n]
  else
    let digits := numberOctets n
    UInt8.ofNat (128 + digits.length) :: digits

/-- The largest length that is read. -/
def maxLength : Nat := 0xFFFFFFF

/-- Reads a length in its shortest form. -/
def readLength? : Octets → Option (Nat × Octets)
  | [] => none
  | b :: rest =>
    if b.toNat < 128 then some (b.toNat, rest)
    else
      let count := b.toNat - 128
      if count = 0 || 4 < count || rest.length < count then none
      else
        let n := octetsValue (rest.take count)
        -- of all spellings of a length only the one that is written is read
        if n ≤ maxLength && lengthOctets n == b :: rest.take count then
          some (n, rest.drop count)
        else none

/-! ## §3 Elements -/

/-- A tag with its content. -/
structure Element where
  tag : Tag
  content : Octets
  deriving DecidableEq, Repr

/-- The element as it is written. -/
def Element.octets (e : Element) : Octets :=
  e.tag :: (lengthOctets e.content.length ++ e.content)

/-- Reads the first element. -/
def readElement? : Octets → Option (Element × Octets)
  | [] => none
  | t :: afterTag =>
    if isTag t then
      match readLength? afterTag with
      | some (n, rest) =>
        if n ≤ rest.length then some (⟨t, rest.take n⟩, rest.drop n) else none
      | none => none
    else none

theorem readLength?_le {octets rest : Octets} {n : Nat}
    (h : readLength? octets = some (n, rest)) : rest.length ≤ octets.length := by
  cases octets with
  | nil => simp [readLength?] at h
  | cons b tail =>
    simp only [readLength?] at h
    split at h
    · simp only [Option.some.injEq, Prod.mk.injEq] at h
      simp [← h.2]
    · split at h
      · exact absurd h (by simp)
      · split at h
        · simp only [Option.some.injEq, Prod.mk.injEq] at h
          simp only [← h.2, List.length_drop, List.length_cons]
          omega
        · exact absurd h (by simp)

/-- What is left behind an element is shorter. -/
theorem readElement?_lt {octets rest : Octets} {e : Element}
    (h : readElement? octets = some (e, rest)) : rest.length < octets.length := by
  cases octets with
  | nil => simp [readElement?] at h
  | cons t tail =>
    simp only [readElement?] at h
    split at h
    · split at h
      · rename_i n after read
        split at h
        · simp only [Option.some.injEq, Prod.mk.injEq] at h
          have shorter := readLength?_le read
          simp only [← h.2, List.length_drop, List.length_cons]
          omega
        · exact absurd h (by simp)
      · exact absurd h (by simp)
    · exact absurd h (by simp)

/-- Reads octets as a list of elements. -/
def elements? (octets : Octets) : Option (List Element) :=
  if octets.isEmpty then some []
  else
    match _read : readElement? octets with
    | some (e, rest) => (elements? rest).map (e :: ·)
    | none => none
termination_by octets.length
decreasing_by exact readElement?_lt ‹_›

/-- Reads octets as one element and nothing else. -/
def element? (octets : Octets) : Option Element :=
  match readElement? octets with
  | some (e, []) => some e
  | _ => none

/-- The elements that an element of the given tag holds. -/
def Element.parts? (e : Element) (tag : Tag) : Option (List Element) :=
  if e.tag == tag then elements? e.content else none

/-- The content of an element of the given tag. -/
def Element.contentOf? (e : Element) (tag : Tag) : Option Octets :=
  if e.tag == tag then some e.content else none

end DeviceAccess.Asn1
