import Mathlib
import DeviceAccess.Proofs.Routing.LetterCase
import DeviceAccess.Proofs.Routing.Resolution
import DeviceAccess.Proofs.Url.BareHost

/-!
# Registrations by the text of a host

A private host is registered for the text of a service, trimmed and in small letters, and looked up
under the host of the address of the service, as the reader of addresses writes it. The two agree
for some spellings of a host and not for others, and a registration has an effect exactly where they
agree.

- `Host.IsPlain` are the spellings of a host that agree with it.
- `Overrides.resolve_after_register` is the effect of a registration on the service that it names.
-/

namespace DeviceAccess

open Text

/-! ## §1 Plain spellings -/

/-- A spelling of a host that is the host but for capitals. A name has many: all in ASCII, without
percent spellings, tabs and line ends. An internet address has one, that in which it is written. -/
def Host.IsPlain (cs : List Char) : Host → Prop
  | .domain _ => ∀ c ∈ cs, HostName.isAscii c = true ∧ c ∉ ['%', '\t', '\n', '\r']
  | address => lower cs = address.toChars

namespace Overrides

/-- The text of a service without outer blanks is the host that is read from it exactly if it is
spelled plainly. -/
theorem keyOf_eq_text_iff {service : String} (htrim : trimText service = service) {host : Host}
    (hread : Host.ofChars (Url.withoutBreaks service.toList) = .ok host) :
    keyOf service = host.text ↔ host.IsPlain service.toList := by
  have hchars : keyOf service = host.text ↔ lower service.toList = host.toChars := by
    rw [keyOf, htrim, lowerText, Host.text, String.ofList_inj]
  rw [hchars]
  cases host with
  | ipv4 address => exact Iff.rfl
  | ipv6 address => exact Iff.rfl
  | domain name =>
    constructor
    · intro hsame c hc
      obtain ⟨characters, _, hform⟩ := Host.asciiForm?_of_ofChars hread
      have hmem : c.toLower ∈ name.toList := by
        rw [← Host.toChars, ← hsame]
        exact List.mem_map_of_mem hc
      obtain ⟨hascii, hallowed⟩ := (HostName.isHostChar_asciiForm? hform _ hmem).of_toLower
      have hforbidden : ['%', '\t', '\n', '\r'].all HostName.isForbidden = true := by decide
      exact ⟨hascii, fun hc => by simp [List.all_eq_true.mp hforbidden c hc] at hallowed⟩
    · intro hplain
      have hkept : Url.withoutBreaks service.toList = service.toList := by
        rw [Url.withoutBreaks, List.filter_eq_self]
        intro c hc
        have hbreak := (hplain c hc).2
        simp only [List.mem_cons, List.not_mem_nil, or_false, not_or] at hbreak
        simp [hbreak]
      rw [hkept] at hread
      refine (Host.domain_of_isPlain (fun c hc => ⟨(hplain c hc).1, ?_⟩) hread).symm
      rintro rfl
      exact (hplain _ hc).2 List.mem_cons_self

/-! ## §2 One registration -/

theorem eq_of_register {o next : Overrides} {service privateHost : String}
    (hregister : o.register service privateHost = .ok next) :
    ∃ host, Host.parse (trimText privateHost) = .ok host ∧
      next = ⟨o.hosts.insert (keyOf service) host⟩ := by
  unfold register at hregister
  obtain ⟨host, hhost, hnext⟩ := bind_eq_ok_iff.mp hregister
  exact ⟨host, liftUrl_eq_ok_iff.mp hhost, (pure_eq_ok_iff.mp hnext).symm⟩

/-- The endpoint at the address of a host. -/
theorem exists_host_of_isBareHost {text : String} (hbare : Url.IsBareHost text.toList)
    {service : Endpoint} (hservice : Endpoint.parse ("https://" ++ text ++ "/") = .ok service) :
    ∃ host, Host.ofChars (Url.withoutBreaks text.toList) = .ok host ∧
      service = Endpoint.ofUrl (Url.atRoot host) := by
  have hread : Url.parse ("https://" ++ text ++ "/") =
      (Host.ofChars (Url.withoutBreaks text.toList)).map Url.atRoot := by
    rw [← Url.ofChars_of_isBareHost hbare, Url.parse, String.toList_append, String.toList_append]
    rfl
  unfold Endpoint.parse at hservice
  rw [hread] at hservice
  cases hhost : Host.ofChars (Url.withoutBreaks text.toList) with
  | error fault =>
    rw [hhost] at hservice
    cases hservice
  | ok host =>
    rw [hhost] at hservice
    exact ⟨host, rfl, (Except.ok.inj hservice).symm⟩

/-- A host that was read is the host of its service: it has no capitals to make small. -/
theorem host_atRoot {cs : List Char} {host : Host} (hread : Host.ofChars cs = .ok host) :
    (Endpoint.ofUrl (Url.atRoot host)).host = host.text := by
  have hsmall : lower host.toChars = host.toChars :=
    hasNoCapital_iff_lower_eq.mp (Host.hasNoCapital_ofChars hread)
  calc (Endpoint.ofUrl (Url.atRoot host)).host
      = String.ofList (lower host.text.toList) := rfl
    _ = host.text := by rw [Host.toList_text, hsmall, Host.text]

/-- **The effect of a registration** on the service that its text is the host of. If the trimmed
text in small letters is the host as it is written in the address, requests go to the private host,
whatever was registered before and whatever the state of enrollment. If it is not, the registration
changes nothing for the service. -/
theorem resolve_after_register {text privateText : String} (hbare : Url.IsBareHost text.toList)
    {service : Endpoint} (hservice : Endpoint.parse ("https://" ++ text ++ "/") = .ok service)
    {o next : Overrides} (hregister : o.register text privateText = .ok next)
    (state : EnrollmentState) :
    ∃ host privateHost, service.tls.host = some host ∧
      Host.parse (trimText privateText) = .ok privateHost ∧
      (keyOf text = host.text → (next.resolve service state).kind = .privateConnection ∧
        (next.resolve service state).host = privateHost.text) ∧
      (keyOf text ≠ host.text → next.resolve service state = o.resolve service state) ∧
      (trimText text = text → (keyOf text = host.text ↔ host.IsPlain text.toList)) := by
  obtain ⟨host, hread, hservice⟩ := exists_host_of_isBareHost hbare hservice
  obtain ⟨privateHost, hparse, hnext⟩ := eq_of_register hregister
  have hhost : service.tls.host = some host := by
    rw [hservice]
    rfl
  have hfind : next.find? service.host =
      if keyOf text = host.text then some privateHost else o.find? service.host := by
    rw [find?_host, find?_host, hservice, host_atRoot hread, hnext, KeyMap.get?_insert]
    simp only [eq_comm]
  refine ⟨host, privateHost, hhost, hparse, fun hkey => ?_, fun hkey => ?_,
    fun htrim => keyOf_eq_text_iff htrim hread⟩
  · have hresolved := resolvedBy_find? next state (by rw [hhost]; rfl)
    rw [hfind, if_pos hkey] at hresolved
    exact ⟨hresolved.privateConnection_iff.mpr rfl, hresolved.host_of_registered privateHost rfl⟩
  · rw [if_neg hkey] at hfind
    simp only [resolve, privateEndpoint?, hfind]

/-- A name with capitals is spelled plainly. -/
theorem resolve_after_register_capitals :
    let text := "Compute.GoogleAPIs.com"
    Url.IsBareHost text.toList ∧
      ∃ service next, Endpoint.parse ("https://" ++ text ++ "/") = .ok service ∧
        empty.register text " 10.0.0.1 " = .ok next ∧
        (next.resolve service .enrolled).kind = .privateConnection ∧
        (next.resolve service .enrolled).host = "10.0.0.1" := by
  intro text
  have hbare : Url.IsBareHost text.toList := by decide +kernel
  have hservice : Endpoint.parse ("https://" ++ text ++ "/") =
      .ok (Endpoint.ofUrl (Url.atRoot (.domain "compute.googleapis.com"))) := by
    decide +kernel
  have hregister : empty.register text " 10.0.0.1 " =
      .ok ⟨KeyMap.empty.insert "compute.googleapis.com" (.ipv4 ⟨0x0A000001⟩)⟩ := by
    decide +kernel
  refine ⟨hbare, _, _, hservice, hregister, ?_⟩
  obtain ⟨host, privateHost, hhost, hprivate, heffect, _⟩ :=
    resolve_after_register hbare hservice hregister .enrolled
  obtain rfl : Host.domain "compute.googleapis.com" = host := Option.some.inj hhost
  have hread : Host.parse (trimText " 10.0.0.1 ") = .ok (.ipv4 ⟨0x0A000001⟩) := by decide +kernel
  obtain rfl : Host.ipv4 ⟨0x0A000001⟩ = privateHost := Except.ok.inj (hread.symm.trans hprivate)
  exact heffect (by decide +kernel)

/-- A registration under a short spelling of an internet address has no effect: the address of the
service has the full one. -/
theorem tls_of_short_address :
    let text := "127.1"
    Url.IsBareHost text.toList ∧
      ∃ service next, Endpoint.parse ("https://" ++ text ++ "/") = .ok service ∧
        empty.register text "psc.internal" = .ok next ∧
        (next.resolve service .notEnrolled).kind = .tls ∧
        (next.resolve service .notEnrolled).host = "127.0.0.1" :=
  ⟨by decide +kernel, Endpoint.ofUrl (Url.atRoot (.ipv4 ⟨0x7F000001⟩)),
    ⟨KeyMap.empty.insert "127.1" (.domain "psc.internal")⟩, by decide +kernel, by decide +kernel,
    by decide +kernel, by decide +kernel⟩

end Overrides

end DeviceAccess
