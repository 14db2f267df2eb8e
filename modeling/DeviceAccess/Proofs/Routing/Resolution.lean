import DeviceAccess.Proofs.Routing.Registrations
import DeviceAccess.Proofs.Url.Substitution

/-!
# Where requests go

Resolving a service after any run of calls, in terms of the private host that the calls have
registered for it. A registered host always wins, and it is always put into the address: an address
with a host has a place for every other host.
-/

namespace DeviceAccess

open Text

/-! ## §1 The result of resolving -/

/-- What resolving a service gives, by the private host that is registered for it. -/
structure ResolvedBy (service : Endpoint) (registered : Option Host) (state : EnrollmentState)
    (e : ResolvedEndpoint) : Prop where
  privateConnection_iff : e.kind = .privateConnection ↔ registered.isSome
  mutualTls_iff : e.kind = .mutualTls ↔ registered = none ∧ state = .enrolled
  tls_iff : e.kind = .tls ↔ registered = none ∧ state ≠ .enrolled
  host_of_registered : ∀ h, registered = some h → e.host = h.text
  host_of_tls : e.kind = .tls → e.host = service.host
  address_of_mutualTls : e.kind = .mutualTls → e.address = service.mtls
  sameButHost : e.kind ≠ .mutualTls → e.address.SameButHost service.tls

namespace Overrides

variable {o : Overrides} {service : Endpoint} {state : EnrollmentState}

/-- The name of a service is in small letters already when its private host is looked up. -/
theorem find?_host (o : Overrides) (service : Endpoint) :
    o.find? service.host = o.hosts.get? service.host := by
  rw [find?, Endpoint.host, lowerText_lowerText]

theorem resolve_of_registered (hhost : service.tls.host.isSome) {h : Host}
    (hfind : o.find? service.host = some h) :
    ∃ address, o.resolve service state = { address, kind := .privateConnection } ∧
      address.hostText = h.text ∧ address.SameButHost service.tls := by
  obtain ⟨address, hput, htext, hsame⟩ := Url.withHost?_spec hhost h
  refine ⟨address, ?_, htext, hsame⟩
  simp [resolve, privateEndpoint?, hfind, hput]

theorem resolve_of_not_registered (hfind : o.find? service.host = none) :
    o.resolve service state = publicEndpoint service state := by
  simp [resolve, privateEndpoint?, hfind]

/-- Resolving a service gives what the private host that is registered for it says. -/
theorem resolvedBy_find? (o : Overrides) (state : EnrollmentState)
    (hhost : service.tls.host.isSome) :
    ResolvedBy service (o.find? service.host) state (o.resolve service state) := by
  cases hfind : o.find? service.host with
  | some h =>
    obtain ⟨address, hresolve, htext, hsame⟩ := resolve_of_registered hhost hfind
    rw [hresolve]
    constructor <;> simp [ResolvedEndpoint.host, htext, hsame]
  | none =>
    rw [resolve_of_not_registered hfind]
    by_cases hstate : state = .enrolled
    · have hpublic : publicEndpoint service state =
          { address := service.mtls, kind := .mutualTls } := if_pos hstate
      rw [hpublic]
      constructor <;> simp [hstate]
    · obtain ⟨htext, hsame⟩ := Url.withLowerHost_spec hhost
      have hpublic : publicEndpoint service state =
          { address := service.tls.withLowerHost, kind := .tls } := if_neg hstate
      rw [hpublic]
      constructor <;> simp [hstate, ResolvedEndpoint.host, Endpoint.host, htext, hsame]

/-- **After any run of calls a service is resolved by its last registration**, whatever the state of
enrollment. -/
theorem resolve_after_calls (calls : List RegistryCall) (service : Endpoint)
    (state : EnrollmentState) (hhost : service.tls.host.isSome) :
    (empty.afterCalls calls).find? service.host =
        lastHost? (calls.flatMap RegistryCall.registrations) service.host ∧
      ResolvedBy service (lastHost? (calls.flatMap RegistryCall.registrations) service.host) state
        ((empty.afterCalls calls).resolve service state) := by
  have hfind : (empty.afterCalls calls).find? service.host =
      lastHost? (calls.flatMap RegistryCall.registrations) service.host := by
    rw [find?_host, get?_afterCalls, empty, KeyMap.get?_empty, Option.or_none]
  refine ⟨hfind, ?_⟩
  rw [← hfind]
  exact resolvedBy_find? _ state hhost

/-- A service of a scheme of its own, at a literal address that is written with a blank when it is
registered. -/
theorem resolve_after_calls_literal :
    let service := Endpoint.ofUrl
      { scheme := "psc"
        authority := some ⟨"", "", some (.ipv6 ⟨[0, 0, 0, 0, 0, 0, 0, 1], rfl⟩), none⟩
        path := "/"
        query := none
        fragment := none }
    let calls : List RegistryCall :=
      [.register " [::1]" "10.0.0.1", .register "[::1]" "a b", .applyRoute .direct [service]]
    service.tls.host.isSome ∧
      ((empty.afterCalls calls).resolve service .enrolled).host = "10.0.0.1" := by
  intro service calls
  have hhost : service.tls.host.isSome := by decide
  have hlast : lastHost? (calls.flatMap RegistryCall.registrations) service.host =
      some (.ipv4 ⟨0x0A000001⟩) := by decide +kernel
  have hresolved := resolve_after_calls calls service .enrolled hhost
  exact ⟨hhost, hresolved.2.host_of_registered _ hlast⟩

end Overrides

end DeviceAccess
