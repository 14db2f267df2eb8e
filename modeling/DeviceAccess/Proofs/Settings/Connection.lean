import DeviceAccess.Proofs.Routing.Resolution
import DeviceAccess.Proofs.Settings.Check
import DeviceAccess.Proofs.Settings.Effective
import DeviceAccess.Settings.Connection

/-!
# Private connections and the proxy

Directions go past the proxy exactly if the route is a private connection. A private host that is
set for a single service leads to a private connection too, but not past the proxy. So the
directions for a private connection go past the proxy exactly if the route is one, or the service
that is asked for is none of the single services that are set.
-/

namespace DeviceAccess

open Text

namespace Settings

variable {s : Settings}

/-! ## §1 What directions are made of -/

/-- Directions come from a service, the private hosts and an enrollment. -/
theorem directions_eq_ok_iff {store : Except Fault CertificateStore} {address : String}
    {d : Directions} :
    s.directions store address = .ok d ↔
      ∃ service o e, Endpoint.parse address = .ok service ∧
        s.overrides (Endpoint.wellKnown ++ [service]) = .ok o ∧
        (store >>= s.refreshWith) = .ok e ∧
        d = Directions.build s.route e (o.resolve service e.state) := by
  unfold directions
  simp only [bind_eq_ok_iff, pure_eq_ok_iff]
  constructor
  · rintro ⟨service, hservice, o, ho, st, hst, e, he, rfl⟩
    exact ⟨service, o, e, hservice, ho, ⟨st, hst, he⟩, rfl⟩
  · rintro ⟨service, o, e, hservice, ho, ⟨st, hst, he⟩, rfl⟩
    exact ⟨service, hservice, o, ho, st, hst, e, he, rfl⟩

/-! ## §2 The proxy -/

/-- A route that is no private connection is the direct one. -/
theorem route_eq_direct_iff : s.route = .direct ↔ s.route.isPrivate = false := by
  cases s.route <;> simp [Route.isPrivate]

variable {service : Endpoint} {endpoints : List Endpoint} {o : Overrides}

/-- Without a private connection as the route, a service has a private host exactly if it is set
among the single services. -/
theorem isSome_find?_of_direct (hvalid : s.validate = .ok ()) (hroute : s.route = .direct)
    (ho : s.overrides endpoints = .ok o) :
    (o.find? service.host).isSome ↔
      ∃ entry ∈ s.access.overrides, Overrides.keyOf entry.service = service.host := by
  have hall : s.registrations endpoints = s.access.overrides := by
    rw [registrations, hroute]
    rfl
  rw [Overrides.find?_host, get?_overrides ho, hall, isSome_lastHost?_iff]
  constructor
  · rintro ⟨entry, hentry, hkey, _⟩
    exact ⟨entry, hentry, hkey⟩
  · rintro ⟨entry, hentry, hkey⟩
    exact ⟨entry, hentry, hkey, (override_of_validate hvalid hentry).2⟩

/-- Without a private connection as the route, a service is reached by one exactly if it is set
among the single services. -/
theorem kind_of_direct (hvalid : s.validate = .ok ()) (hroute : s.route = .direct)
    (ho : s.overrides endpoints = .ok o) (state : EnrollmentState) :
    (o.resolve service state).kind = .privateConnection ↔
      ∃ entry ∈ s.access.overrides, Overrides.keyOf entry.service = service.host := by
  have hset : (o.find? service.host).isSome ↔ _ := isSome_find?_of_direct hvalid hroute ho
  cases hhost : service.tls.host with
  | some h =>
    rw [← hset]
    exact (Overrides.resolvedBy_find? o state (by simp [hhost])).privateConnection_iff
  | none =>
    -- no single service is set under the empty name, so neither side holds
    have hempty : service.host = "" := by
      simp [Endpoint.host, Url.hostText, hhost, lowerText, lower]
    have hnotSet : ¬∃ entry ∈ s.access.overrides,
        Overrides.keyOf entry.service = service.host := by
      rintro ⟨entry, hentry, hkey⟩
      exact (override_of_validate hvalid hentry).1 (hkey.trans hempty)
    have hfind : o.find? service.host = none := by
      rw [← Option.not_isSome_iff_eq_none, hset]
      exact hnotSet
    rw [Overrides.resolve_of_not_registered hfind]
    refine ⟨fun hkind => ?_, fun hentry => absurd hentry hnotSet⟩
    unfold Overrides.publicEndpoint at hkind
    split at hkind <;> cases hkind

/-- **When private connections go past the proxy**: exactly if the route is one, or the service is
none of the single services that are set. -/
theorem bypasses_of_private_iff (hvalid : s.validate = .ok ())
    {store : Except Fault CertificateStore} {address : String} {d : Directions}
    (hdirections : s.directions store address = .ok d) :
    ∃ service, Endpoint.parse address = .ok service ∧
      ((d.endpoint.kind = .privateConnection → d.bypassProxy = true) ↔
        (s.route.isPrivate = true ∨
          ∀ entry ∈ s.access.overrides, Overrides.keyOf entry.service ≠ service.host)) := by
  obtain ⟨service, o, e, hservice, ho, _, rfl⟩ := directions_eq_ok_iff.mp hdirections
  refine ⟨service, hservice, ?_⟩
  cases hprivate : s.route.isPrivate with
  | true => simp [Directions.build, Directions.bypassesProxy, hprivate]
  | false =>
    have hroute := route_eq_direct_iff.mpr hprivate
    simp only [Directions.build, Directions.bypassesProxy, hprivate,
      kind_of_direct hvalid hroute ho, Bool.false_eq_true, false_or, imp_false]
    simp only [not_exists, not_and, ne_eq]

/-- Settings with choices of the user and nothing else. -/
def ofAccess (access : AccessChoice) : Settings := { Settings.default with access }

/-- Under a private connection as the route, a service is reached past the proxy. -/
theorem bypasses_of_private_iff_route :
    let s := ofAccess { AccessChoice.default with privateEndpoint := some "10.0.0.1" }
    s.validate = .ok () ∧
      ∃ d, s.directions (.ok .empty) "https://10.0.0.2/" = .ok d ∧
        d.endpoint.kind = .privateConnection ∧ d.bypassProxy = true := by
  intro s
  have hvalid : s.validate = .ok () := by decide +kernel
  have houtcome : ((s.directions (.ok .empty) "https://10.0.0.2/").toOption.map
      fun d => d.endpoint.kind) = some .privateConnection := by
    decide +kernel
  obtain ⟨d, hd, hkind⟩ := Option.map_eq_some_iff.mp houtcome
  have hdirections := toOption_eq_some_iff.mp hd
  obtain ⟨service, _, hiff⟩ := bypasses_of_private_iff hvalid hdirections
  exact ⟨hvalid, d, hdirections, hkind, hiff.mpr (Or.inl (by decide +kernel)) hkind⟩

/-- A single service that is reached by a private connection, but not past the proxy. -/
theorem private_connection_through_proxy :
    let s := ofAccess
      { AccessChoice.default with
        overrides := [⟨"compute.googleapis.com", "compute.p.internal"⟩] }
    s.validate = .ok () ∧
      ∃ d, s.directions (.ok .empty) "https://compute.googleapis.com/" = .ok d ∧
        d.endpoint.kind = .privateConnection ∧ d.bypassProxy = false := by
  intro s
  refine ⟨by decide +kernel, ?_⟩
  have houtcome : ((s.directions (.ok .empty) "https://compute.googleapis.com/").toOption.map
      fun d => (d.endpoint.kind, d.bypassProxy)) = some (.privateConnection, false) := by
    decide +kernel
  obtain ⟨d, hd, hparts⟩ := Option.map_eq_some_iff.mp houtcome
  obtain ⟨hkind, hproxy⟩ := Prod.ext_iff.mp hparts
  exact ⟨d, toOption_eq_some_iff.mp hd, hkind, hproxy⟩

end Settings

end DeviceAccess
