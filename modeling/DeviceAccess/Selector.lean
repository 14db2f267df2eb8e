import DeviceAccess.Certificate.Basic
import DeviceAccess.Document.Record
import DeviceAccess.Json.Lenient
import DeviceAccess.NameFilter
import DeviceAccess.Pattern

/-!
# Certificate selectors

A selector says for which addresses which certificates are offered: a pattern of addresses, and
conditions on issuer, subject and thumbprint. Administrators write selectors by hand, in the lenient
notation:

    { "pattern": "https://[*.]example.org",
      "filter": { "ISSUER": { "CN": "Example CA" }, "SUBJECT": { "O": "Acme" } } }

A text that cannot be read selects nothing and is no fault.
-/

namespace DeviceAccess

open Text

/-- The conditions on a certificate. -/
structure CertificateFilter where
  issuer : Option NameFilter
  subject : Option NameFilter
  thumbprint : Option String
  deriving DecidableEq

namespace CertificateFilter

/-- No condition. -/
def empty : CertificateFilter := { issuer := none, subject := none, thumbprint := none }

/-- The names and the thumbprint meet every condition. -/
def accepts (f : CertificateFilter) (issuer subject : DistinguishedName) (thumbprint : String) :
    Bool :=
  f.issuer.all (·.accepts issuer) && f.subject.all (·.accepts subject) &&
    f.thumbprint.all (sameIgnoringCase · thumbprint)

/-- The document of a filter, without the conditions that are not given. -/
def toValue (f : CertificateFilter) : Json.Value :=
  .object
    ((f.issuer.map fun n => ("ISSUER", n.toValue)).toList ++
      (f.subject.map fun n => ("SUBJECT", n.toValue)).toList ++
      (f.thumbprint.map fun t => ("THUMBPRINT", Json.Value.string t)).toList)

end CertificateFilter

/-- A pattern of addresses with conditions on the certificate. -/
structure Selector where
  pattern : UrlPattern
  filter : CertificateFilter
  deriving DecidableEq

namespace Selector

/-! ## §1 Reading -/

/-- How records are written in a selector. -/
def records : RecordRules := { repeats := false, others := true, extraItems := true }

/-- A field that may be missing or absent. -/
def nullable? {β : Type} (read : Json.Value → Option β) : Option Json.Value → Option (Option β) :=
  Record.orDefault? none (Json.Value.nullable? read)

/-- Reads the conditions on a certificate. -/
def filterOf? (document : Json.Value) : Option CertificateFilter := do
  match ← Record.fields? records some ["ISSUER", "SUBJECT", "THUMBPRINT"] document with
  | [issuer, subject, thumbprint] =>
    return { issuer := ← nullable? NameFilter.ofValue? issuer
             subject := ← nullable? NameFilter.ofValue? subject
             thumbprint := ← nullable? Json.Value.string? thumbprint }
  | _ => none

/-- Reads a selector from a document. Without a pattern it is for every web address. -/
def ofValue? (document : Json.Value) : Option Selector := do
  match ← Record.fields? records some ["pattern", "filter"] document with
  | [pattern, filter] =>
    let pattern ← nullable? Json.Value.string? pattern
    let filter ← nullable? filterOf? filter
    let pattern ←
      match pattern with
      | none => some UrlPattern.any
      | some text => (UrlPattern.parse text).toOption
    return { pattern, filter := filter.getD .empty }
  | _ => none

/-- Reads a selector. -/
def parse? (text : String) : Option Selector := (Json.Lenient.parse? text).bind ofValue?

/-! ## §2 Selecting -/

/-- The address, the names and the thumbprint meet every condition. -/
def acceptsParts (s : Selector) (u : Url) (issuer subject : DistinguishedName)
    (thumbprint : String) : Bool :=
  s.pattern.accepts u && s.filter.accepts issuer subject thumbprint

/-- The certificate may be offered to the address. -/
def accepts (s : Selector) (u : Url) (c : Certificate) : Bool :=
  s.acceptsParts u c.issuer c.subject c.thumbprint

end Selector

end DeviceAccess
