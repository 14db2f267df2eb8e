import DeviceAccess.Certificate.Base64
import DeviceAccess.Certificate.Sha1
import DeviceAccess.Certificate.X509
import DeviceAccess.DistinguishedName
import DeviceAccess.Fault
import DeviceAccess.Text.Hex
import DeviceAccess.Unicode.Category

/-!
# Certificates

A certificate is its encoding together with what the encoding says. Selection looks at the names of
issuer and subject, at the thumbprint, and at whether the key may be used to prove who a client is.
Two certificates are the same if their encodings are.

An encoding that is refused gets one text, whichever rule it breaks, and so do letters that stand for
no octets.
-/

namespace DeviceAccess

open Text

/-- A certificate. -/
structure Certificate where
  octets : Octets
  body : X509.Structure
  reads : X509.ofOctets? octets = some body

namespace Certificate

/-! ## §1 Names -/

/-- The keys of the attributes that have one. -/
def keys : List (String × String) :=
  [("2.5.4.3", "CN"), ("2.5.4.10", "O"), ("2.5.4.11", "OU"), ("2.5.4.7", "L"), ("2.5.4.6", "C"),
    ("2.5.4.8", "S"), ("2.5.4.9", "STREET"), ("0.9.2342.19200300.100.1.25", "DC"),
    ("1.2.840.113549.1.9.1", "E"), ("2.5.4.5", "SERIALNUMBER"), ("2.5.4.12", "T"),
    ("2.5.4.42", "G"), ("2.5.4.4", "SN")]

/-- The key of an attribute: its own, or else its identifier. -/
def keyOf (kind : Asn1.Oid) : String :=
  let dotted := kind.text
  (keys.lookup dotted).getD dotted

/-- The component of an attribute, if its value is readable as text. -/
def component? (a : X509.Attribute) : Option (String × String) :=
  (textOfUtf8? a.value.content).map fun text => (keyOf a.kind, text)

/-- The distinguished name of an encoded name. -/
def nameOf (name : X509.Name) : DistinguishedName :=
  ⟨name.flatten.filterMap component?⟩

/-- The name of whom the certificate is about. -/
def subject (c : Certificate) : DistinguishedName := nameOf c.body.subject

/-- The name of who issued the certificate. -/
def issuer (c : Certificate) : DistinguishedName := nameOf c.body.issuer

/-! ## §2 Thumbprint, validity, use -/

/-- Octets in the form in which thumbprints are shown. -/
def thumbprintText (octets : Octets) : String := String.ofList (upperHexOf octets)

/-- The fingerprint of the encoding. -/
def thumbprint (c : Certificate) : String := thumbprintText (Sha1.digest c.octets)

/-- The beginning of the period of validity, in seconds since 1970. -/
def notBefore (c : Certificate) : Nat := c.body.notBefore

/-- The end of the period of validity, in seconds since 1970. -/
def notAfter (c : Certificate) : Nat := c.body.notAfter

/-- The moment lies in the period of validity, both ends included. -/
def isValidAt (c : Certificate) (seconds : Int) : Bool :=
  c.notBefore ≤ seconds && seconds ≤ c.notAfter

/-- The key may be used to prove who a client is. A certificate that does not list its uses permits
none. -/
def provesClient (c : Certificate) : Bool := c.body.permitsClientAuthentication

/-- Two certificates are the same if their encodings are. -/
instance : BEq Certificate := ⟨fun a b => a.octets == b.octets⟩

/-! ## §3 Reading -/

/-- Reads an encoded certificate. -/
def ofOctets (octets : Octets) : Except Fault Certificate :=
  match h : X509.ofOctets? octets with
  | some body => .ok ⟨octets, body, h⟩
  | none => .error (.certificate "malformed encoding")

/-- The lines around an armoured certificate. -/
def armourBegin : List Char := "-----BEGIN CERTIFICATE-----".toList
def armourEnd : List Char := "-----END CERTIFICATE-----".toList

/-- Reads the first armoured certificate of a text. Blanks inside do not count. -/
def ofArmoured (text : String) : Except Fault Certificate :=
  match cutAtRun? armourBegin text.toList with
  | none => .error (.certificate "No PEM certificate block")
  | some (_, body) =>
    match cutAtRun? armourEnd body with
    | none => .error (.certificate "Unterminated PEM block")
    | some (letters, _) =>
      match Base64.decode? (letters.filter (!isAsciiBlank ·)) with
      | none => .error (.certificate "Invalid PEM: malformed letters")
      | some octets => ofOctets octets

/-! ## §4 Describing -/

/-- A character of a quoted text in a description. Marks that combine with the character before and
characters that leave no visible trace are shown by their number. -/
def describeChar (c : Char) : List Char :=
  if c == '\x00' then ['\\', '0']
  else if c == '\t' then ['\\', 't']
  else if c == '\n' then ['\\', 'n']
  else if c == '\r' then ['\\', 'r']
  else if c == '"' || c == '\\' then ['\\', c]
  else if Unicode.graphemeExtenders.contains c || Unicode.unprintable.contains c then
    ['\\', 'u', '\x7b'] ++ hexText 1 c.toNat ++ ['\x7d']
  else [c]

/-- A quoted text in a description. -/
def describeText (s : String) : List Char :=
  ['"'] ++ s.toList.flatMap describeChar ++ ['"']

/-- The certificate in one line for diagnostics. -/
def description (c : Certificate) : String :=
  String.ofList ("Certificate \x7b subject: ".toList ++ describeText c.subject.text ++
    ", issuer: ".toList ++ describeText c.issuer.text ++
    ", thumbprint: ".toList ++ describeText c.thumbprint ++ " \x7d".toList)

end Certificate

end DeviceAccess
