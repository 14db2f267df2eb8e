import Mathlib
import DeviceAccess.Proofs.Json.Lenient
import DeviceAccess.Proofs.NameFilter
import DeviceAccess.Selector

/-!
# Selectors from their documents

A selector that is written in the strict notation, in one line and with its members in any order, is
read with the pattern and the conditions that were written. Reading fails only if the pattern is
none, and the selector accepts what the pattern accepts under all the conditions.

- `CertificateFilter.accepts_iff_isMetBy` says what the conditions ask for.
- `Selector.parse?_compact_of_isWritten` is the selector that is read.
- `Selector.acceptsParts_of_isWritten_iff` puts both together.
-/

namespace DeviceAccess

open Record Text

/-! ## §1 Conditions on certificates -/

namespace CertificateFilter

/-- The names and the thumbprint meet the conditions that are given. -/
structure IsMetBy (f : CertificateFilter) (issuer subject : DistinguishedName)
    (thumbprint : String) : Prop where
  issuer : ∀ n, f.issuer = some n → n.IsMetBy issuer
  subject : ∀ n, f.subject = some n → n.IsMetBy subject
  thumbprint : ∀ t, f.thumbprint = some t → lowerText t = lowerText thumbprint

theorem accepts_iff_isMetBy (f : CertificateFilter) (issuer subject : DistinguishedName)
    (thumbprint : String) :
    f.accepts issuer subject thumbprint = true ↔ f.IsMetBy issuer subject thumbprint := by
  have hparts : f.accepts issuer subject thumbprint = true ↔
      ((∀ n, f.issuer = some n → n.accepts issuer = true) ∧
        ∀ n, f.subject = some n → n.accepts subject = true) ∧
        ∀ t, f.thumbprint = some t → sameIgnoringCase t thumbprint = true := by
    simp [accepts, Option.all_eq_true]
  rw [hparts]
  simp only [NameFilter.accepts_iff_isMetBy, sameIgnoringCase, beq_iff_eq]
  constructor
  · rintro ⟨⟨hissuer, hsubject⟩, hthumbprint⟩
    exact ⟨hissuer, hsubject, hthumbprint⟩
  · rintro ⟨hissuer, hsubject, hthumbprint⟩
    exact ⟨⟨hissuer, hsubject⟩, hthumbprint⟩

/-- The document has the conditions that are given, in whatever order. -/
def IsWritten (f : CertificateFilter) (document : Json.Value) : Prop :=
  ∃ issuer subject : Option Json.Value,
    Option.Rel NameFilter.IsWritten f.issuer issuer ∧
      Option.Rel NameFilter.IsWritten f.subject subject ∧
      IsObjectOf (present [("ISSUER", issuer), ("SUBJECT", subject),
        ("THUMBPRINT", f.thumbprint.map Json.Value.string)]) document

theorem isWritten_toValue (f : CertificateFilter) : f.IsWritten f.toValue := by
  have hname : ∀ n : Option NameFilter,
      Option.Rel NameFilter.IsWritten n (n.map NameFilter.toValue) := by
    intro n
    cases n with
    | none => exact .none
    | some g => exact .some g.isWritten_toValue
  refine ⟨_, _, hname f.issuer, hname f.subject, _, ?_, .refl _⟩
  simp [toValue, present, Option.map_map, Function.comp_def]

end CertificateFilter

/-! ## §2 Documents read back -/

namespace Selector

/-- The document has the pattern and the conditions, in whatever order. -/
def IsWritten (pattern : String) (filter : CertificateFilter) (document : Json.Value) : Prop :=
  ∃ conditions, filter.IsWritten conditions ∧
    IsObjectOf [("pattern", Json.Value.string pattern), ("filter", conditions)] document

theorem nullable?_object {β : Type} {read : Json.Value → Option β}
    {members : List (String × Json.Value)} {value : β} (h : read (.object members) = some value) :
    nullable? read (some (.object members)) = some (some value) := by
  show (read (.object members)).map some = some (some value)
  rw [h]
  rfl

theorem nullable?_string (text : Option String) :
    nullable? Json.Value.string? (text.map Json.Value.string) = some text := by
  cases text <;> rfl

/-- A filter of names is read, or found missing. -/
theorem nullable?_nameFilter {f : Option NameFilter} {document : Option Json.Value}
    (hf : ∀ n, f = some n → n.IsSeparate) (hdocument : Option.Rel NameFilter.IsWritten f document) :
    nullable? NameFilter.ofValue? document = some f := by
  cases hdocument with
  | none => rfl
  | some hwritten =>
    have hread := NameFilter.ofValue?_of_isWritten (hf _ rfl) hwritten
    obtain ⟨ordered, rfl, -⟩ := hwritten
    exact nullable?_object hread

/-- The conditions are read back from their document. -/
theorem filterOf?_of_isWritten {f : CertificateFilter} {document : Json.Value}
    (hissuer : ∀ n, f.issuer = some n → n.IsSeparate)
    (hsubject : ∀ n, f.subject = some n → n.IsSeparate) (hdocument : f.IsWritten document) :
    filterOf? document = some f := by
  obtain ⟨issuer, subject, hissuerDocument, hsubjectDocument, ordered, rfl, hperm⟩ := hdocument
  have hfields : fields? records some ["ISSUER", "SUBJECT", "THUMBPRINT"] (.object ordered) =
      some [issuer, subject, f.thumbprint.map Json.Value.string] := by
    have hnames : ["ISSUER", "SUBJECT", "THUMBPRINT"].Nodup := by decide
    exact fields?_of_perm records hperm hnames
  have hissuerRead := nullable?_nameFilter hissuer hissuerDocument
  have hsubjectRead := nullable?_nameFilter hsubject hsubjectDocument
  have hthumbprintRead := nullable?_string f.thumbprint
  simp [filterOf?, hfields, hissuerRead, hsubjectRead, hthumbprintRead]

/-- What is read from a document with a pattern and conditions: the conditions, and the pattern if
it is one. -/
theorem ofValue?_of_isWritten {pattern : String} {filter : CertificateFilter}
    {document : Json.Value} (hissuer : ∀ n, filter.issuer = some n → n.IsSeparate)
    (hsubject : ∀ n, filter.subject = some n → n.IsSeparate)
    (hdocument : IsWritten pattern filter document) :
    ofValue? document = (UrlPattern.parse pattern).toOption.map fun p => ⟨p, filter⟩ := by
  obtain ⟨conditions, hconditions, ordered, rfl, hperm⟩ := hdocument
  have hfields : fields? records some ["pattern", "filter"] (.object ordered) =
      some [some (Json.Value.string pattern), some conditions] := by
    have hpresent : [("pattern", Json.Value.string pattern), ("filter", conditions)] =
        present [("pattern", some (Json.Value.string pattern)), ("filter", some conditions)] := rfl
    have hnames : ["pattern", "filter"].Nodup := by decide
    rw [hpresent] at hperm
    exact fields?_of_perm records hperm hnames
  have hpattern : nullable? Json.Value.string? (some (Json.Value.string pattern)) =
      some (some pattern) := nullable?_string (some pattern)
  have hfilter : nullable? filterOf? (some conditions) = some (some filter) := by
    have hread := filterOf?_of_isWritten hissuer hsubject hconditions
    obtain ⟨_, _, _, _, members, rfl, _⟩ := hconditions
    exact nullable?_object hread
  -- all the fields are there, so that only the pattern may still fail
  simp only [ofValue?, hfields, hpattern, hfilter, Option.bind_eq_bind, Option.bind_some]
  cases (UrlPattern.parse pattern).toOption with
  | none => rfl
  | some p => rfl

end Selector

/-! ## §3 Texts of selectors -/

open Json.Lenient (IsQuotable IsTextual)

/-- The filter can be written: its other fields have keys of their own, and its texts may stand
between quotes. -/
structure NameFilter.IsExpressible (f : NameFilter) : Prop where
  separate : f.IsSeparate
  quotable : ∀ key value, f.Specifies key value → IsQuotable key ∧ IsQuotable value

/-- The conditions can be written. -/
structure CertificateFilter.IsExpressible (f : CertificateFilter) : Prop where
  issuer : ∀ n, f.issuer = some n → n.IsExpressible
  subject : ∀ n, f.subject = some n → n.IsExpressible
  thumbprint : ∀ t, f.thumbprint = some t → IsQuotable t

theorem isTextual_of_isObjectOf {members : List (String × Json.Value)} {document : Json.Value}
    (hdocument : IsObjectOf members document)
    (hmembers : ∀ key value, (key, value) ∈ members → IsQuotable key ∧ IsTextual value) :
    IsTextual document := by
  obtain ⟨ordered, rfl, hperm⟩ := hdocument
  exact .object (fun m hm => (hmembers m.1 m.2 (hperm.subset hm)).1)
    (fun m hm => (hmembers m.1 m.2 (hperm.subset hm)).2)

theorem NameFilter.IsWritten.isTextual {f : NameFilter} {document : Json.Value}
    (hdocument : f.IsWritten document) (hf : f.IsExpressible) : IsTextual document := by
  apply isTextual_of_isObjectOf hdocument
  intro _ _ hmember
  obtain ⟨⟨key, value⟩, hfield, hsame⟩ := List.mem_map.mp hmember
  cases hsame
  obtain ⟨hkey, hvalue⟩ := hf.quotable key value ((mem_fields_iff key value).mp hfield)
  exact ⟨hkey, .string hvalue⟩

theorem CertificateFilter.IsWritten.isTextual {f : CertificateFilter} {document : Json.Value}
    (hdocument : f.IsWritten document) (hf : f.IsExpressible) : IsTextual document := by
  obtain ⟨issuer, subject, hissuer, hsubject, hobject⟩ := hdocument
  have hname : ∀ {n : Option NameFilter} {v : Json.Value}, (∀ g, n = some g → g.IsExpressible) →
      Option.Rel NameFilter.IsWritten n (some v) → IsTextual v := by
    intro n v hn hwritten
    cases hwritten with
    | some hwritten => exact hwritten.isTextual (hn _ rfl)
  apply isTextual_of_isObjectOf hobject
  intro key value hmember
  have hfield := mem_present_iff.mp hmember
  simp only [List.mem_cons, Prod.mk.injEq, List.not_mem_nil, or_false] at hfield
  rcases hfield with ⟨rfl, hvalue⟩ | ⟨rfl, hvalue⟩ | ⟨rfl, hvalue⟩
  · exact ⟨by decide, hname hf.issuer (hvalue ▸ hissuer)⟩
  · exact ⟨by decide, hname hf.subject (hvalue ▸ hsubject)⟩
  · obtain ⟨t, ht, rfl⟩ := Option.map_eq_some_iff.mp hvalue.symm
    exact ⟨by decide, .string (hf.thumbprint t ht)⟩

namespace Selector

theorem IsWritten.isTextual {pattern : String} {filter : CertificateFilter} {document : Json.Value}
    (hdocument : IsWritten pattern filter document) (hpattern : IsQuotable pattern)
    (hfilter : filter.IsExpressible) : IsTextual document := by
  obtain ⟨conditions, hconditions, hobject⟩ := hdocument
  apply isTextual_of_isObjectOf hobject
  intro key value hmember
  simp only [List.mem_cons, Prod.mk.injEq, List.not_mem_nil, or_false] at hmember
  rcases hmember with ⟨rfl, rfl⟩ | ⟨rfl, rfl⟩
  · exact ⟨by decide, .string hpattern⟩
  · exact ⟨by decide, hconditions.isTextual hfilter⟩

/-- **A selector that is written strictly** is read as its conditions and its pattern, if that is
one. -/
theorem parse?_compact_of_isWritten {pattern : String} {filter : CertificateFilter}
    {document : Json.Value} (hdocument : IsWritten pattern filter document)
    (hpattern : IsQuotable pattern) (hfilter : filter.IsExpressible) :
    parse? document.compact = (UrlPattern.parse pattern).toOption.map fun p => ⟨p, filter⟩ := by
  have hread := Json.Lenient.parse?_compact (hdocument.isTextual hpattern hfilter)
  rw [parse?, hread, Option.bind_some]
  exact ofValue?_of_isWritten (fun n hn => (hfilter.issuer n hn).separate)
    (fun n hn => (hfilter.subject n hn).separate) hdocument

/-- **From the text of a selector to its decision**: the text is read exactly if its pattern is one,
and then the selector accepts what the pattern accepts under all the conditions. -/
theorem acceptsParts_of_isWritten_iff {pattern : String} {filter : CertificateFilter}
    {document : Json.Value} (hdocument : IsWritten pattern filter document)
    (hpattern : IsQuotable pattern) (hfilter : filter.IsExpressible) :
    ((parse? document.compact).isSome ↔ ∃ p, UrlPattern.parse pattern = .ok p) ∧
      ∀ s p, parse? document.compact = some s → UrlPattern.parse pattern = .ok p →
        ∀ u issuer subject thumbprint,
          s.acceptsParts u issuer subject thumbprint = true ↔
            p.accepts u = true ∧ filter.IsMetBy issuer subject thumbprint := by
  have hread := parse?_compact_of_isWritten hdocument hpattern hfilter
  refine ⟨?_, fun s p hs hp u issuer subject thumbprint => ?_⟩
  · rw [hread, Option.isSome_map, Option.isSome_iff_exists]
    exact exists_congr fun p => toOption_eq_some_iff
  · rw [toOption_eq_some_iff.mpr hp, Option.map_some] at hread
    obtain rfl : s = ⟨p, filter⟩ := Option.some.inj (hs.symm.trans hread)
    rw [acceptsParts, Bool.and_eq_true, CertificateFilter.accepts_iff_isMetBy]

/-- Texts with escapes under a known and another key, and the members of the document the other way
round. -/
theorem acceptsParts_of_isWritten_iff_reversed :
    let pattern := "https://[*.]example.org"
    let issuer : NameFilter :=
      { NameFilter.empty with
        commonName := some "Example \"CA\"\\\n", other := KeyMap.empty.insert "DC" "\x01" }
    let filter : CertificateFilter :=
      { issuer := some issuer, subject := none, thumbprint := some "AB" }
    let document : Json.Value :=
      .object [("filter", filter.toValue), ("pattern", Json.Value.string pattern)]
    let p : UrlPattern :=
      { source := pattern, scheme := .exact "https", host := .subdomains "example.org",
        port := .default }
    IsWritten pattern filter document ∧ IsQuotable pattern ∧ filter.IsExpressible ∧
      UrlPattern.parse pattern = .ok p ∧
      ∃ s, parse? document.compact = some s ∧
        ∀ u issuer subject thumbprint,
          s.acceptsParts u issuer subject thumbprint = true ↔
            p.accepts u = true ∧ filter.IsMetBy issuer subject thumbprint := by
  intro pattern issuer filter document p
  have hdocument : IsWritten pattern filter document :=
    ⟨filter.toValue, filter.isWritten_toValue, _, rfl, .swap _ _ []⟩
  have hfields : ∀ field ∈ issuer.fields, IsQuotable field.1 ∧ IsQuotable field.2 := by decide
  have hissuer : issuer.IsExpressible :=
    ⟨by unfold NameFilter.IsSeparate; decide,
      fun key value h => hfields (key, value) ((NameFilter.mem_fields_iff key value).mpr h)⟩
  have hfilter : filter.IsExpressible := by
    refine ⟨fun n hn => ?_, fun n hn => ?_, fun t ht => ?_⟩
    · cases hn
      exact hissuer
    · cases hn
    · cases ht
      decide
  have hpattern : IsQuotable pattern := by decide
  have hparse : UrlPattern.parse pattern = .ok p := by decide +kernel
  obtain ⟨hread, haccepts⟩ := acceptsParts_of_isWritten_iff hdocument hpattern hfilter
  obtain ⟨s, hs⟩ := Option.isSome_iff_exists.mp (hread.mpr ⟨p, hparse⟩)
  exact ⟨hdocument, hpattern, hfilter, hparse, s, hs, haccepts s p hs hparse⟩

end Selector

end DeviceAccess
