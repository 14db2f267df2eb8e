import Mathlib
import DeviceAccess.Proofs.Routing.History
import DeviceAccess.Proofs.Url.Reader
import DeviceAccess.Proofs.Url.Substitution

/-!
# The case of the host that requests go to

Requests go to a host without capitals, however the host of the service was written, but for one
way: an enrolled device uses the address for client certificates as it stands, and under a scheme
that is not special an address keeps the letters of its host.

- A host that was read by the rules of special schemes has no capital, and every registered private
  host was read by them.
- `Overrides.hasNoCapital_host_iff` puts the ways of resolving together.
-/

namespace DeviceAccess

open Text

/-! ## §1 Hosts that were read -/

namespace Host

theorem hasNoCapital_ipv6 (address : Ipv6) : hasNoCapital (Host.ipv6 address).toChars = true := by
  rw [toChars, hasNoCapital_append, hasNoCapital_append, address.hasNoCapital_toChars]
  rfl

/-- A host of a special scheme has no capital. -/
theorem hasNoCapital_ofChars {cs : List Char} {h : Host} (hread : ofChars cs = .ok h) :
    hasNoCapital h.toChars = true := by
  cases h with
  | domain name =>
    obtain ⟨characters, _, hform⟩ := asciiForm?_of_ofChars hread
    rw [toChars, hasNoCapital_eq_true_iff]
    exact fun c hc => (HostName.isHostChar_asciiForm? hform c hc).not_isUpper
  | ipv4 address => exact address.hasNoCapital_toChars
  | ipv6 address => exact hasNoCapital_ipv6 address

theorem hasNoCapital_parse {text : String} {h : Host} (hread : parse text = .ok h) :
    hasNoCapital h.text.toList = true := by
  rw [toList_text]
  exact hasNoCapital_ofChars hread

end Host

namespace Url

theorem hasNoCapital_hostText_of_host_none {u : Url} (hhost : u.host = none) :
    hasNoCapital u.hostText.toList = true := by
  simp [hostText, hhost, hasNoCapital]

/-- The host of an address that was read under a special scheme has no capital. -/
theorem IsRead.hasNoCapital_hostText {u : Url} (hread : u.IsRead) (hspecial : isSpecial u.scheme) :
    hasNoCapital u.hostText.toList = true := by
  cases hhost : u.host with
  | none => exact hasNoCapital_hostText_of_host_none hhost
  | some h =>
    obtain ⟨cs, hcs⟩ := hread.isReadFor hhost
    rw [if_pos hspecial] at hcs
    rw [hostText_eq_of_host hhost, Host.toList_text]
    exact Host.hasNoCapital_ofChars hcs

theorem hasNoCapital_withLowerHost (u : Url) :
    hasNoCapital u.withLowerHost.hostText.toList = true := by
  cases hhost : u.host with
  | none =>
    have hsame : u.withLowerHost = u := by simp [withLowerHost, hhost]
    rw [hsame]
    exact hasNoCapital_hostText_of_host_none hhost
  | some h =>
    rw [(withLowerHost_spec (by simp [hhost])).1, lowerText, String.toList_ofList]
    exact hasNoCapital_lower _

/-- An address that takes a host has the text of that host. -/
theorem hostText_of_withHost? {u v : Url} {h : Host} (hput : u.withHost? h = some v) :
    v.hostText = h.text := by
  unfold withHost? at hput
  split at hput
  · cases hput
  · cases hput
    rw [hostText_replaceHost, Host.text_within]

end Url

/-! ## §2 Addresses for client certificates -/

namespace Endpoint

/-- Both addresses were read, or the one for client certificates was derived from the other. -/
structure IsCanonical (e : Endpoint) : Prop where
  tls : e.tls.IsRead
  mtls : e.mtls = mtlsAddress e.tls ∨ e.mtls.IsRead

theorem isCanonical_ofUrl {u : Url} (hread : u.IsRead) : (ofUrl u).IsCanonical :=
  ⟨hread, .inl rfl⟩

/-- The name for client certificates is made from a name in small letters. -/
theorem hasNoCapital_mtlsName? {host name : List Char} (hhost : hasNoCapital host = true)
    (hname : mtlsName? host = some name) : hasNoCapital name = true := by
  unfold mtlsName? at hname
  split at hname
  · cases hname
  · rename_i service hservice
    split at hname
    · cases hname
    · cases hname
      rw [dropFinalRun?_eq_some_iff.mp hservice, hasNoCapital_append, Bool.and_eq_true] at hhost
      rw [hasNoCapital_append, hasNoCapital_append, hhost.1]
      decide

/-- The derived address is the address itself, or one whose host has no capital. -/
theorem mtlsAddress_eq_or (u : Url) :
    mtlsAddress u = u ∨ hasNoCapital (mtlsAddress u).hostText.toList = true := by
  unfold mtlsAddress
  split
  · split
    · rename_i name _ mtls hmtls
      right
      rw [Url.hostText_replaceHost, Host.text_domain, String.toList_ofList]
      exact hasNoCapital_mtlsName? (hasNoCapital_lower _) hmtls
    · exact .inl rfl
  · exact .inl rfl

theorem IsCanonical.hasNoCapital_mtls {e : Endpoint} (he : e.IsCanonical)
    (hspecial : Url.isSpecial e.mtls.scheme) : hasNoCapital e.mtls.hostText.toList = true := by
  rcases he.mtls with hderived | hread
  · rw [hderived] at hspecial ⊢
    rcases mtlsAddress_eq_or e.tls with hsame | hsmall
    · rw [hsame] at hspecial ⊢
      exact he.tls.hasNoCapital_hostText hspecial
    · exact hsmall
  · exact hread.hasNoCapital_hostText hspecial

end Endpoint

/-! ## §3 Resolution -/

namespace Overrides

/-- Every registered private host was read by the rules of special schemes. -/
theorem hasNoCapital_of_find? {calls : List RegistryCall} {service : String} {h : Host}
    (hfind : (empty.afterCalls calls).find? service = some h) :
    hasNoCapital h.text.toList = true := by
  obtain ⟨entry, _, hread⟩ := ((holds_madeBy calls).find?_eq_some_iff service h).mp hfind
  exact Host.hasNoCapital_parse hread

theorem hasNoCapital_privateEndpoint? {calls : List RegistryCall} {service : Endpoint}
    {e : ResolvedEndpoint} (he : (empty.afterCalls calls).privateEndpoint? service = some e) :
    hasNoCapital e.host.toList = true ∧ e.kind = .privateConnection := by
  simp only [privateEndpoint?, Option.bind_eq_bind, Option.bind_eq_some_iff, Option.pure_def,
    Option.some.injEq] at he
  obtain ⟨h, hfind, address, hput, rfl⟩ := he
  refine ⟨?_, rfl⟩
  rw [ResolvedEndpoint.host, Url.hostText_of_withHost? hput]
  exact hasNoCapital_of_find? hfind

/-- **When the host that requests go to has no capital**: always, but for the address for client
certificates, which must have a special scheme or be written without capitals. -/
theorem hasNoCapital_host_iff (calls : List RegistryCall) {service : Endpoint}
    (hservice : service.IsCanonical) (state : EnrollmentState) :
    let e := (empty.afterCalls calls).resolve service state
    hasNoCapital e.host.toList = true ↔
      (e.kind = .mutualTls → Url.isSpecial service.mtls.scheme = false →
        hasNoCapital service.mtls.hostText.toList = true) := by
  unfold resolve
  cases hprivate : (empty.afterCalls calls).privateEndpoint? service with
  | some e =>
    obtain ⟨hsmall, hkind⟩ := hasNoCapital_privateEndpoint? hprivate
    simp [hsmall, hkind]
  | none =>
    simp only [Option.getD_none]
    unfold publicEndpoint
    split
    · -- the address for client certificates is used as it stands
      simp only [ResolvedEndpoint.host, forall_const]
      refine ⟨fun hsmall _ => hsmall, fun hsmall => ?_⟩
      cases hspecial : Url.isSpecial service.mtls.scheme with
      | true => exact hservice.hasNoCapital_mtls hspecial
      | false => exact hsmall hspecial
    · simp [ResolvedEndpoint.host, Url.hasNoCapital_withLowerHost]

/-- The address of a scheme of its own, with capitals in its host. -/
def capitalAddress : Url :=
  { scheme := "grpc", authority := some ⟨"", "", some (.domain "Pubsub.Example.COM"), none⟩,
    path := "/v1/", query := none, fragment := none }

theorem parse_capitalAddress : Url.parse "grpc://Pubsub.Example.COM/v1/" = .ok capitalAddress := by
  decide +kernel

/-- A private host takes the place of a host with capitals on an enrolled device. -/
theorem hasNoCapital_host_iff_private :
    let calls : List RegistryCall := [.register "PUBSUB.example.com" "Private.Example"]
    let e := (empty.afterCalls calls).resolve (Endpoint.ofUrl capitalAddress) .enrolled
    e.kind = .privateConnection ∧ hasNoCapital e.host.toList = true := by
  intro calls e
  have hservice : (Endpoint.ofUrl capitalAddress).IsCanonical :=
    Endpoint.isCanonical_ofUrl ⟨_, parse_capitalAddress⟩
  have hkind : e.kind = .privateConnection := by decide +kernel
  refine ⟨hkind, (hasNoCapital_host_iff calls hservice .enrolled).mpr fun hmutual => ?_⟩
  exact absurd (hkind.symm.trans hmutual) (by decide)

/-- Without a private host an enrolled device uses the capitals of the host as they are written. -/
theorem capitals_of_mutualTls :
    ∃ service, Endpoint.parse "grpc://Pubsub.Example.COM/v1/" = .ok service ∧
      (empty.resolve service .enrolled).kind = .mutualTls ∧
      (empty.resolve service .enrolled).host = "Pubsub.Example.COM" ∧
      hasNoCapital (empty.resolve service .enrolled).host.toList = false :=
  ⟨Endpoint.ofUrl capitalAddress, by decide +kernel, by decide, by decide, by decide⟩

end Overrides

end DeviceAccess
