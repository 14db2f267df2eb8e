import DeviceAccess.Helper.Client
import DeviceAccess.Proofs.Routing.History
import DeviceAccess.Proofs.Settings.Check
import DeviceAccess.Proofs.Settings.Effective
import DeviceAccess.Proofs.Text.Case
import DeviceAccess.Proofs.Url.Reader

/-!
# The registry under valid settings

Valid settings can be put to use: every private host that they name is registered, and a client of
the helper takes the minimum version. The check reads each section as it is written, and what is
registered is the effective value. Both trim a text in the same way, so they read the same hosts.

- `privateEndpoint_of_validate` says what the check promises about the effective private endpoint.
- `PrivateHostOf` tells the private host of a service by the settings alone: that of the last entry
  for the service, else that of the effective private endpoint.
- `registry_of_validate` says that the registry agrees with it.
-/

namespace DeviceAccess

open Text

/-! ## §1 What the check promises -/

/-- An effective text comes from one of the three sections. -/
theorem section_of_effectiveText {machine user choice : Option String} {text : String}
    (htext : (effectiveText machine user choice).value = some text) :
    machine.bind nonBlank? = some text ∨ user.bind nonBlank? = some text ∨
      choice.bind nonBlank? = some text := by
  unfold effectiveText ofRules? at htext
  cases hmachine : machine.bind nonBlank? with
  | some value => exact .inl (by simpa [hmachine] using htext)
  | none =>
    cases huser : user.bind nonBlank? with
    | some value => exact .inr (.inl (by simpa [hmachine, huser] using htext))
    | none =>
      cases hchoice : choice.bind nonBlank? with
      | some value => exact .inr (.inr (by simpa [hmachine, huser, hchoice] using htext))
      | none => simp [hmachine, huser, hchoice] at htext

namespace Settings

variable {s : Settings}

/-- A private endpoint is no problem if it is blank or a host. -/
theorem endpointProblems_eq_nil_iff {place : AccessSection} {endpoint : Option String} :
    endpointProblems place endpoint = [] ↔
      ∀ text, endpoint.bind nonBlank? = some text → isHost text = true := by
  unfold endpointProblems
  cases endpoint.bind nonBlank? with
  | none => simp
  | some text => simp

/-- The effective private endpoint of valid settings is a host, and there is nothing to trim. -/
theorem privateEndpoint_of_validate (hvalid : s.validate = .ok ()) {text : String}
    (heffective : s.effective.privateEndpoint.value = some text) :
    HasContent text ∧ trimText text = text ∧ ∃ h, Host.parse (trimText text) = .ok h := by
  have hproblems := (validate_eq_ok_iff s).mp hvalid
  simp only [problems, List.append_eq_nil_iff, endpointProblems_eq_nil_iff] at hproblems
  obtain ⟨⟨⟨⟨hchoice, hmachine⟩, huser⟩, _⟩, _⟩ := hproblems
  -- whichever section the text is from, that section was checked
  have hsection : ∃ written : Option String, written.bind nonBlank? = some text ∧
      ∀ t, written.bind nonBlank? = some t → isHost t = true := by
    rcases section_of_effectiveText heffective with hset | hset | hset
    · exact ⟨_, hset, hmachine⟩
    · exact ⟨_, hset, huser⟩
    · exact ⟨_, hset, hchoice⟩
  obtain ⟨written, hset, hchecked⟩ := hsection
  have hhost : isHost text = true := hchecked text hset
  obtain ⟨raw, _, hraw⟩ := Option.bind_eq_some_iff.mp hset
  obtain ⟨hcontent, rfl⟩ := nonBlank?_eq_some_iff.mp hraw
  have hsame : trimText (trimText raw) = trimText raw := trimText_trimText raw
  refine ⟨hasContent_trimText hcontent, hsame, ?_⟩
  rw [hsame]
  exact isHost_eq_true_iff.mp hhost

/-- The minimum version of valid settings is a version. -/
theorem minVersion_of_validate (hvalid : s.validate = .ok ()) {version : String}
    (hversion : s.helper.minVersion = some version) :
    ∃ minimum, Version.parse? version = some minimum := by
  have hproblems := (validate_eq_ok_iff s).mp hvalid
  simp only [problems, helperProblems, hversion, List.append_eq_nil_iff] at hproblems
  obtain ⟨_, _, hreadable⟩ := hproblems
  rw [← Option.isSome_iff_exists]
  by_contra hunreadable
  simp [hunreadable] at hreadable

/-! ## §2 What is registered -/

variable {endpoints : List Endpoint}

/-- What the route registers: the one text for every endpoint. -/
theorem routeRegistrations_eq {text : String} (hvalid : s.validate = .ok ())
    (heffective : s.effective.privateEndpoint.value = some text) :
    (RegistryCall.applyRoute s.route endpoints).registrations =
      endpoints.map fun e => { service := e.host, privateHost := text } := by
  have hroute : s.route = .privateConnection text := by
    obtain ⟨hcontent, htrimmed, _⟩ := privateEndpoint_of_validate hvalid heffective
    rw [route, heffective, Route.ofSetting, Option.bind_some, nonBlank?_of_hasContent hcontent,
      htrimmed]
  rw [hroute]
  rfl

theorem routeRegistrations_eq_nil (hnone : s.effective.privateEndpoint.value = none) :
    (RegistryCall.applyRoute s.route endpoints).registrations = [] := by
  have hroute : s.route = .direct := by
    rw [route, hnone]
    rfl
  rw [hroute]
  rfl

/-- Everything that valid settings register has a host. -/
theorem hosts_registrations (hvalid : s.validate = .ok ()) :
    ∀ entry ∈ s.registrations endpoints, entry.host?.isSome := by
  intro entry hentry
  rcases List.mem_append.mp hentry with hroute | hsingle
  · cases heffective : s.effective.privateEndpoint.value with
    | none =>
      rw [routeRegistrations_eq_nil heffective] at hroute
      cases hroute
    | some text =>
      rw [routeRegistrations_eq hvalid heffective] at hroute
      obtain ⟨e, _, rfl⟩ := List.mem_map.mp hroute
      obtain ⟨_, _, h, hhost⟩ := privateEndpoint_of_validate hvalid heffective
      rw [ServiceOverride.host?, hhost]
      rfl
  · exact (override_of_validate hvalid hsingle).2

/-- Nothing that valid settings register fails. -/
theorem exists_overrides_of_validate (hvalid : s.validate = .ok ()) (endpoints : List Endpoint) :
    ∃ o, s.overrides endpoints = .ok o := by
  have hhosts : ∀ entry ∈ s.registrations endpoints, entry.host?.isSome :=
    hosts_registrations hvalid
  have hdone : (Overrides.empty.registerUpTo (s.registrations endpoints)).2 = none :=
    (Overrides.registerUpTo_of_hosts hhosts).1
  refine ⟨(Overrides.empty.registerUpTo (s.registrations endpoints)).1, ?_⟩
  rw [overrides_eq, ← Prod.eta (Overrides.empty.registerUpTo _), hdone]
  rfl

/-- The host of an address that was read is held under itself: trimming it changes nothing. -/
theorem keyOf_host {e : Endpoint} (hread : e.tls.IsRead) : Overrides.keyOf e.host = e.host := by
  have hblank : HasNoBlank e.host.toList := hread.hasNoBlank_hostText.lowerText
  rw [Overrides.keyOf, hblank.trimText_eq]
  exact lowerText_lowerText _

/-- One host for all endpoints is registered at their hosts and nowhere else. -/
theorem lastHost?_of_same_host {text : String} {h : Host} (hhost : Host.parse (trimText text) = .ok h)
    (hendpoints : ∀ e ∈ endpoints, e.tls.IsRead) (key : String) :
    lastHost? (endpoints.map fun e => { service := e.host, privateHost := text }) key =
      if ∃ e ∈ endpoints, e.host = key then some h else none := by
  -- all of them have one host, so it does not matter which one is the last
  induction endpoints with
  | nil => simp [lastHost?]
  | cons e rest ih =>
    have hrest : ∀ x ∈ rest, x.tls.IsRead := fun x hx => hendpoints x (List.mem_cons_of_mem e hx)
    have hentry : (ServiceOverride.mk e.host text).host? = some h := toOption_eq_some_iff.mpr hhost
    rw [List.map_cons, lastHost?, ih hrest, keyOf_host (hendpoints e List.mem_cons_self), hentry]
    by_cases hlater : ∃ x ∈ rest, x.host = key
    · simp [hlater]
    · by_cases hkey : e.host = key
      · simp [hlater, hkey]
      · simp [hlater, hkey, Ne.symm hkey]

/-- Under the name of an endpoint, the route registers the effective private endpoint. -/
theorem lastHost?_route_of_mem (hvalid : s.validate = .ok ())
    (hendpoints : ∀ e ∈ endpoints, e.tls.IsRead) {text : String}
    (heffective : s.effective.privateEndpoint.value = some text) {e : Endpoint}
    (he : e ∈ endpoints) {h : Host} (hhost : Host.parse (trimText text) = .ok h) :
    lastHost? (RegistryCall.applyRoute s.route endpoints).registrations e.host = some h := by
  rw [routeRegistrations_eq hvalid heffective, lastHost?_of_same_host hhost hendpoints]
  exact if_pos ⟨e, he, rfl⟩

/-- Under any other name it registers nothing. -/
theorem lastHost?_route_of_not_mem (hvalid : s.validate = .ok ())
    (hendpoints : ∀ e ∈ endpoints, e.tls.IsRead) {key : String}
    (hother : s.effective.privateEndpoint.value.isSome → ∀ e ∈ endpoints, e.host ≠ key) :
    lastHost? (RegistryCall.applyRoute s.route endpoints).registrations key = none := by
  cases heffective : s.effective.privateEndpoint.value with
  | none =>
    rw [routeRegistrations_eq_nil heffective]
    rfl
  | some text =>
    have hnames : ∀ e ∈ endpoints, e.host ≠ key := hother (by rw [heffective]; rfl)
    obtain ⟨_, _, h, hhost⟩ := privateEndpoint_of_validate hvalid heffective
    rw [routeRegistrations_eq hvalid heffective, lastHost?_of_same_host hhost hendpoints]
    exact if_neg fun ⟨e, he, hkey⟩ => hnames e he hkey

/-! ## §3 The registry by the settings alone -/

/-- The private host of a service: that of the last entry for the service, else that of the effective
private endpoint if the service is at one of the endpoints, else none. -/
inductive PrivateHostOf (s : Settings) (endpoints : List Endpoint) (service : String) :
    Option Host → Prop where
  | single {entry : ServiceOverride} {h : Host}
      (hlast : IsLastUnder (lowerText service) s.access.overrides entry)
      (hhost : Host.parse (trimText entry.privateHost) = .ok h) :
      s.PrivateHostOf endpoints service (some h)
  | route {text : String} {e : Endpoint} {h : Host}
      (hsingle : ∀ entry ∈ s.access.overrides, Overrides.keyOf entry.service ≠ lowerText service)
      (heffective : s.effective.privateEndpoint.value = some text) (hcontent : HasContent text)
      (he : e ∈ endpoints) (hservice : e.host = lowerText service)
      (hhost : Host.parse (trimText text) = .ok h) :
      s.PrivateHostOf endpoints service (some h)
  | none
      (hsingle : ∀ entry ∈ s.access.overrides, Overrides.keyOf entry.service ≠ lowerText service)
      (hroute : ∀ text, s.effective.privateEndpoint.value = some text → HasContent text →
        ∀ e ∈ endpoints, e.host ≠ lowerText service) :
      s.PrivateHostOf endpoints service none

variable {o : Overrides} {service : String}

/-- Entries for single services are registered after the route, so they are looked at first. -/
theorem find?_overrides (ho : s.overrides endpoints = .ok o) :
    o.find? service =
      (lastHost? s.access.overrides (lowerText service)).or
        (lastHost? (RegistryCall.applyRoute s.route endpoints).registrations
          (lowerText service)) := by
  rw [Overrides.find?, get?_overrides ho, registrations, lastHost?_append]

theorem PrivateHostOf.find?_eq (hvalid : s.validate = .ok ())
    (hendpoints : ∀ e ∈ endpoints, e.tls.IsRead) (ho : s.overrides endpoints = .ok o)
    {registered : Option Host} (hprivate : s.PrivateHostOf endpoints service registered) :
    o.find? service = registered := by
  have hhosts : ∀ entry ∈ s.access.overrides, entry.host?.isSome := fun entry hentry =>
    (override_of_validate hvalid hentry).2
  rw [find?_overrides ho]
  cases hprivate with
  | single hlast hhost =>
    rw [(lastHost?_eq_some_iff hhosts).mpr ⟨_, hlast, hhost⟩, Option.some_or]
  | route hsingle heffective hcontent he hservice hhost =>
    rw [(lastHost?_eq_none_iff hhosts).mpr hsingle, Option.none_or, ← hservice]
    exact lastHost?_route_of_mem hvalid hendpoints heffective he hhost
  | none hsingle hroute =>
    rw [(lastHost?_eq_none_iff hhosts).mpr hsingle, Option.none_or]
    refine lastHost?_route_of_not_mem hvalid hendpoints fun hsome => ?_
    obtain ⟨text, heffective⟩ := Option.isSome_iff_exists.mp hsome
    exact hroute text heffective (privateEndpoint_of_validate hvalid heffective).1

theorem privateHostOf_find? (hvalid : s.validate = .ok ())
    (hendpoints : ∀ e ∈ endpoints, e.tls.IsRead) (ho : s.overrides endpoints = .ok o) :
    s.PrivateHostOf endpoints service (o.find? service) := by
  have hhosts : ∀ entry ∈ s.access.overrides, entry.host?.isSome := fun entry hentry =>
    (override_of_validate hvalid hentry).2
  rw [find?_overrides ho]
  cases hsingle : lastHost? s.access.overrides (lowerText service) with
  | some h =>
    obtain ⟨entry, hlast, hhost⟩ := (lastHost?_eq_some_iff hhosts).mp hsingle
    exact .single hlast hhost
  | none =>
    have hunset := (lastHost?_eq_none_iff hhosts).mp hsingle
    rw [Option.none_or]
    -- no single service is set, so the route decides, and it decides for the endpoints only
    by_cases hlisted : s.effective.privateEndpoint.value.isSome ∧
        ∃ e ∈ endpoints, e.host = lowerText service
    · obtain ⟨hsome, e, he, hservice⟩ := hlisted
      obtain ⟨text, heffective⟩ := Option.isSome_iff_exists.mp hsome
      obtain ⟨hcontent, _, h, hhost⟩ := privateEndpoint_of_validate hvalid heffective
      rw [← hservice, lastHost?_route_of_mem hvalid hendpoints heffective he hhost]
      exact .route hunset heffective hcontent he hservice hhost
    · have hother : s.effective.privateEndpoint.value.isSome →
          ∀ e ∈ endpoints, e.host ≠ lowerText service :=
        fun hsome e he hservice => hlisted ⟨hsome, e, he, hservice⟩
      rw [lastHost?_route_of_not_mem hvalid hendpoints hother]
      exact .none hunset fun text heffective _ => hother (by rw [heffective]; rfl)

/-- **Valid settings can be put to use.** What they register does not fail, and the registry has for
every service the private host that the settings alone tell; and every client takes the minimum
version. -/
theorem registry_of_validate (hvalid : s.validate = .ok ()) (endpoints : List Endpoint)
    (hendpoints : ∀ e ∈ endpoints, e.tls.IsRead) :
    (∃ o, s.overrides endpoints = .ok o ∧
      ∀ service registered, o.find? service = registered ↔
        s.PrivateHostOf endpoints service registered) ∧
    ∀ version, s.helper.minVersion = some version → ∀ client : Client,
      ∃ minimum, Version.parse? version = some minimum ∧
        client.requiring version = .ok { client with minimum := some minimum } := by
  constructor
  · obtain ⟨o, ho⟩ := exists_overrides_of_validate hvalid endpoints
    refine ⟨o, ho, fun service registered => ⟨?_, fun h => h.find?_eq hvalid hendpoints ho⟩⟩
    rintro rfl
    exact privateHostOf_find? hvalid hendpoints ho
  · intro version hversion client
    obtain ⟨minimum, hminimum⟩ := minVersion_of_validate hvalid hversion
    refine ⟨minimum, hminimum, ?_⟩
    simp only [Client.requiring, hminimum]

/-- The machine sets a private endpoint, and the user two private hosts for one service. -/
theorem registry_of_validate_layered :
    let s := { Settings.default with
      machineRule := { AccessRule.default with privateEndpoint := some " 10.0.0.1 " }
      access := { AccessChoice.default with
        privateEndpoint := some "10.0.0.9"
        overrides := [⟨" compute.GOOGLEAPIS.com", "compute.internal"⟩,
          ⟨"Compute.googleapis.com\t", "10.0.0.2 "⟩] }
      helper := { HelperSettings.default with minVersion := some "1.2" } }
    s.validate = .ok () ∧ (∀ e ∈ Endpoint.wellKnown, e.tls.IsRead) ∧
      (∃ o, s.overrides Endpoint.wellKnown = .ok o ∧
        o.find? "compute.googleapis.COM" = some (.ipv4 ⟨0x0A000002⟩) ∧
        o.find? "oslogin.googleapis.com" = some (.ipv4 ⟨0x0A000001⟩) ∧
        o.find? "oslogin.googleapis.com " = none) ∧
      ∃ client, Client.start.requiring "1.2" = .ok client := by
  intro s
  have hvalid : s.validate = .ok () := by decide +kernel
  have hendpoints : ∀ e ∈ Endpoint.wellKnown, e.tls.IsRead := fun e he =>
    Endpoint.isRead_of_mem_wellKnown he
  obtain ⟨⟨o, ho, hfind⟩, hversion⟩ := registry_of_validate hvalid Endpoint.wellKnown hendpoints
  obtain ⟨minimum, _, hclient⟩ := hversion "1.2" rfl Client.start
  refine ⟨hvalid, hendpoints, ⟨o, ho, ?_, ?_, ?_⟩, ⟨_, hclient⟩⟩
  · rw [hfind]
    exact .single ⟨[_], [], rfl, by decide, by simp⟩ (by decide +kernel)
  · rw [hfind]
    have heffective : s.effective.privateEndpoint.value = some "10.0.0.1" := by decide
    exact .route (by decide) heffective ⟨'1', by decide, by decide⟩
      (List.mem_cons_of_mem _ List.mem_cons_self) (by decide) (by decide +kernel)
  · rw [hfind]
    exact .none (by decide) fun _ _ _ => by decide

end Settings

end DeviceAccess
