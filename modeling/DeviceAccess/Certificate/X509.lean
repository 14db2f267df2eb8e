import DeviceAccess.Asn1.Primitive

/-!
# The structure of a certificate

Reading the encoded certificate down to what selection needs: the two names, the period of
validity and the extensions. Everything else is read only to see that it is there in its form.
-/

namespace DeviceAccess.X509

open Asn1 Text

/-- An attribute of a name: its kind, and its value of any type. -/
structure Attribute where
  kind : Oid
  value : Element
  deriving DecidableEq, Repr

/-- A name: sets of attributes, in the order of the name; each set is in the order of its
encoding. -/
abbrev Name := List (List Attribute)

/-- An extension: its kind and its content. -/
structure Extension where
  kind : Oid
  content : Octets
  deriving DecidableEq, Repr

/-- The parts of a certificate that matter here. -/
structure Structure where
  issuer : Name
  subject : Name
  notBefore : Nat
  notAfter : Nat
  extensions : List Extension
  deriving DecidableEq, Repr

/-! ## §1 Names -/

/-- Reads an attribute. -/
def attribute? (e : Element) : Option Attribute :=
  match e.parts? Asn1.sequence with
  | some [kind, value] => (oid? kind).map fun oid => ⟨oid, value⟩
  | _ => none

/-- The first octet sequence does not come behind the second in the order of octets. -/
def octetsLe : Octets → Octets → Bool
  | [], _ => true
  | _ :: _, [] => false
  | a :: as, b :: bs => a < b || (a == b && octetsLe as bs)

/-- No member equals the one behind it. -/
def noNeighboursEqual : List Octets → Bool
  | a :: b :: rest => a != b && noNeighboursEqual (b :: rest)
  | _ => true

/-- Reads a set of attributes. The members are put into the order of their encodings, and none may
occur twice. -/
def attributeSet? (e : Element) : Option (List Attribute) := do
  let members ← e.parts? Asn1.set
  -- the order in which members were written is not that of the name
  let sorted := members.mergeSort fun a b => octetsLe a.octets b.octets
  if noNeighboursEqual (sorted.map Element.octets) then sorted.mapM attribute? else none

/-- Reads a name. -/
def name? (e : Element) : Option Name := do
  (← e.parts? Asn1.sequence).mapM attributeSet?

/-! ## §2 Other parts -/

/-- The element names an algorithm, with at most one parameter. -/
def isAlgorithm (e : Element) : Bool :=
  match e.parts? Asn1.sequence with
  | some [kind] | some [kind, _] => (oid? kind).isSome
  | _ => false

/-- The element is a public key with its algorithm. -/
def isPublicKey (e : Element) : Bool :=
  match e.parts? Asn1.sequence with
  | some [algorithm, key] => isAlgorithm algorithm && isBitString key
  | _ => false

/-- The element is a serial number of at most twenty-one octets. -/
def isSerialNumber (e : Element) : Bool :=
  e.tag == Asn1.integer && isIntegerContent e.content && e.content.length ≤ 21

/-- Reads a period: a beginning and an end. -/
def validity? (e : Element) : Option (Nat × Nat) :=
  match e.parts? Asn1.sequence with
  | some [start, stop] =>
    match time? start, time? stop with
    | some a, some b => some (a, b)
    | _, _ => none
  | _ => none

/-- Reads an extension; whether it is critical may be left out. -/
def extension? (e : Element) : Option Extension :=
  match e.parts? Asn1.sequence with
  | some [kind, value] => build kind value
  | some [kind, critical, value] => if (boolean? critical).isSome then build kind value else none
  | _ => none
where
  build (kind value : Element) : Option Extension :=
    match oid? kind, value.contentOf? octetString with
    | some oid, some content => some ⟨oid, content⟩
    | _, _ => none

/-- Reads a list of extensions. -/
def extensions? (e : Element) : Option (List Extension) := do
  (← e.parts? Asn1.sequence).mapM extension?

/-! ## §3 Parts in their place -/

/-- The part with a number given by its place, if the next elements hold it. Parts of smaller
numbers before it are passed over. -/
def takePart (number : Nat) : List Element → Option Element × List Element
  | [] => (none, [])
  | e :: rest =>
    if !isContextual e.tag || number < tagNumber e.tag then (none, e :: rest)
    else if tagNumber e.tag == number then (some e, rest)
    else takePart number rest

/-- The one element that a wrapped part holds. -/
def unwrapped? (e : Element) : Option Element :=
  if isConstructed e.tag then element? e.content else none

/-- The part is missing or an identifier in the form of a bare bit string. -/
def isUniqueId (part : Option Element) : Bool :=
  part.all fun e => !isConstructed e.tag && isBitStringContent e.content

/-- The part is missing or wraps one of the three versions. -/
def isVersion (part : Option Element) : Bool :=
  part.all fun e =>
    match unwrapped? e with
    | some v => v.tag == Asn1.integer && [[0], [1], [2]].contains v.content
    | none => false

/-- Reads the part that is signed. -/
def body? (e : Element) : Option Structure := do
  let parts ← e.parts? Asn1.sequence
  let (version, parts) := takePart 0 parts
  guard (isVersion version)
  match parts with
  | serial :: algorithm :: issuer :: validity :: subject :: key :: parts =>
    guard (isSerialNumber serial && isAlgorithm algorithm && isPublicKey key)
    let issuer ← name? issuer
    let subject ← name? subject
    let (notBefore, notAfter) ← validity? validity
    let (issuerId, parts) := takePart 1 parts
    let (subjectId, parts) := takePart 2 parts
    let (wrapped, parts) := takePart 3 parts
    guard (isUniqueId issuerId && isUniqueId subjectId && parts.isEmpty)
    let extensions ←
      match wrapped with
      | none => pure []
      | some part => (unwrapped? part).bind extensions?
    return { issuer, subject, notBefore, notAfter, extensions }
  | _ => none

/-- Reads a certificate: the signed part, the algorithm and the signature. -/
def ofOctets? (octets : Octets) : Option Structure := do
  match (← element? octets).parts? Asn1.sequence with
  | some [body, algorithm, signature] =>
    guard (isAlgorithm algorithm && isBitString signature)
    body? body
  | _ => none

/-! ## §4 What the key may be used for -/

/-- The kind of the extension that lists the uses of the key. -/
def extendedKeyUsage : Oid := ⟨[0x55, 0x1D, 0x25]⟩

/-- The use of proving who a client is. -/
def clientAuthentication : Oid := ⟨[0x2B, 0x06, 0x01, 0x05, 0x05, 0x07, 0x03, 0x02]⟩

/-- The uses that an extension lists, if its content is such a list. -/
def Extension.uses? (x : Extension) : Option (List Oid) := do
  if x.kind == extendedKeyUsage then
    let list ← element? x.content
    (← list.parts? Asn1.sequence).mapM oid?
  else none

/-- Some extension permits the key to prove who a client is. -/
def Structure.permitsClientAuthentication (s : Structure) : Bool :=
  s.extensions.any fun x => (x.uses?.getD []).contains clientAuthentication

end DeviceAccess.X509
