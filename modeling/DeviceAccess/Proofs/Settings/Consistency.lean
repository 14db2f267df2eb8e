import DeviceAccess.Proofs.Enrollment.Decision
import DeviceAccess.Proofs.Settings.Connection

/-!
# Certificates in directions

The parts of directions come from different places: the flag and the certificate from the
enrollment, and the kind of the endpoint from the private hosts and the state of the enrollment.
They agree nevertheless. A certificate is there exactly if it is to be shown, an endpoint for client
certificates never comes without one, and where the use of certificates is off there are neither,
whatever the stores hold and whether they can be listed or not.
-/

namespace DeviceAccess

/-! ## §1 The parts of directions -/

namespace Directions

variable {route : Route} {e : Enrollment} {endpoint : ResolvedEndpoint}

theorem showCertificate_build :
    (build route e endpoint).showCertificate = true ↔ e.state = .enrolled := by
  simp [build, showsCertificate]

/-- The certificate is that of the enrollment: one that is not enrolled has none to hold back. -/
theorem certificate_build : (build route e endpoint).certificate = e.certificate? := by
  cases e <;> rfl

end Directions

namespace Overrides

variable {o : Overrides} {service : Endpoint}

theorem kind_privateEndpoint? {e : ResolvedEndpoint} (h : o.privateEndpoint? service = some e) :
    e.kind = .privateConnection := by
  unfold privateEndpoint? at h
  obtain ⟨host, -, h⟩ := Option.bind_eq_some_iff.mp h
  obtain ⟨address, -, h⟩ := Option.bind_eq_some_iff.mp h
  cases h
  rfl

/-- Only an enrolled device is sent to an endpoint for client certificates. -/
theorem enrolled_of_mutualTls {state : EnrollmentState}
    (hkind : (o.resolve service state).kind = .mutualTls) : state = .enrolled := by
  unfold resolve at hkind
  cases hprivate : o.privateEndpoint? service with
  | some e =>
    rw [hprivate, Option.getD_some, kind_privateEndpoint? hprivate] at hkind
    cases hkind
  | none =>
    rw [hprivate, Option.getD_none] at hkind
    unfold publicEndpoint at hkind
    split at hkind
    · assumption
    · cases hkind

end Overrides

namespace Settings

variable {s : Settings}

/-- While certificates are not used a refresh does not look at the stores. -/
theorem refreshWith_of_off (hoff : s.effective.authentication.value = false)
    (certificates : CertificateStore) : s.refreshWith certificates = .ok .disabled := by
  have hdecision : Decision s.enrollmentSettings s.selectionPolicy certificates (.ok .disabled) :=
    .disabled hoff
  exact hdecision.refresh_eq

/-- **The parts of directions agree.** -/
theorem directions_consistent {store : Except Fault CertificateStore} {address : String}
    {d : Directions} (hdirections : s.directions store address = .ok d) :
    (∃ certificates e, store = .ok certificates ∧ s.refreshWith certificates = .ok e ∧
      d.certificate = e.certificate?) ∧
    (d.showCertificate = true ↔ d.certificate.isSome) ∧
    (d.endpoint.kind = .mutualTls → d.certificate.isSome) ∧
    (s.effective.authentication.value = false →
      d.certificate = none ∧ d.endpoint.kind ≠ .mutualTls ∧
        ∀ others, s.directions (.ok others) address = .ok d) := by
  obtain ⟨service, o, e, hservice, ho, hrefresh, rfl⟩ := directions_eq_ok_iff.mp hdirections
  obtain ⟨certificates, rfl, he⟩ := bind_eq_ok_iff.mp hrefresh
  rw [Directions.showCertificate_build, Directions.certificate_build, e.isSome_iff_enrolled.1]
  refine ⟨⟨certificates, e, rfl, he, rfl⟩, Iff.rfl, Overrides.enrolled_of_mutualTls, ?_⟩
  intro hoff
  obtain rfl : e = .disabled := Except.ok.inj (he.symm.trans (refreshWith_of_off hoff _))
  refine ⟨rfl, ?_, fun others => ?_⟩
  · intro hkind
    cases Overrides.enrolled_of_mutualTls hkind
  · apply directions_eq_ok_iff.mpr
    exact ⟨service, o, .disabled, hservice, ho, refreshWith_of_off hoff others, rfl⟩

/-- Stores that cannot be listed. -/
def brokenStores : CertificateStore :=
  { machine := .error (.store "locked"), user := .error (.store "locked") }

/-- An administrator has turned certificates off against the choice of the user, and neither the
stores nor the selector, which would accept every certificate, make a difference. -/
theorem directions_consistent_off :
    let rule : AccessRule := { AccessRule.default with authentication := some false }
    let access : AccessChoice :=
      { authentication := true, selector := some "\x7b\x7d", privateEndpoint := none,
        overrides := [⟨"oslogin.googleapis.com", "10.0.0.1"⟩] }
    let s : Settings := { ofAccess access with machineRule := rule }
    ∃ d, s.directions (.ok brokenStores) "https://compute.googleapis.com/" = .ok d ∧
      s.effective.authentication.value = false ∧ d.certificate = none ∧
      d.endpoint.kind ≠ .mutualTls ∧
      s.directions (.ok .empty) "https://compute.googleapis.com/" = .ok d := by
  intro rule access s
  have houtcome : ((s.directions (.ok brokenStores)
      "https://compute.googleapis.com/").toOption.map fun d => d.endpoint.kind) = some .tls := by
    decide +kernel
  obtain ⟨d, hd, -⟩ := Option.map_eq_some_iff.mp houtcome
  have hdirections := toOption_eq_some_iff.mp hd
  have hoff : s.effective.authentication.value = false := by decide
  obtain ⟨-, -, -, hnone⟩ := directions_consistent hdirections
  obtain ⟨hcertificate, hkind, hothers⟩ := hnone hoff
  exact ⟨d, hdirections, hoff, hcertificate, hkind, hothers .empty⟩

end Settings

end DeviceAccess
