import DeviceAccess.Enrollment
import DeviceAccess.Proofs.Fault

/-!
# The decision about enrollment

States as relations when a certificate is chosen and when a refresh has an outcome, in terms of the
two lists of certificates and of "the first one with a property", and proves that a refresh has
exactly the outcome that the relations allow.

- `IsFirst`: the first member of a list with a property.
- `ChosenBySelector` and `Chosen`: which certificate is chosen, and by which rule.
- `Decision`: the outcome for every state of the settings and of the stores.

The functions that run mark each certificate with its store, put both stores into one list and
search that list; the relations know two lists and no marks.
-/

namespace DeviceAccess

/-! ## §1 First members -/

/-- The first member of a list with a property. -/
def IsFirst {α : Type} (p : α → Prop) (xs : List α) (x : α) : Prop :=
  ∃ before after, xs = before ++ x :: after ∧ p x ∧ ∀ y ∈ before, ¬p y

theorem find?_eq_some_iff_isFirst {α : Type} (p : α → Bool) (xs : List α) (x : α) :
    xs.find? p = some x ↔ IsFirst (fun y => p y = true) xs x := by
  rw [List.find?_eq_some_iff_append]
  constructor
  · rintro ⟨hx, before, after, hxs, hbefore⟩
    exact ⟨before, after, hxs, hx, fun y hy => by simpa using hbefore y hy⟩
  · rintro ⟨before, after, hxs, hx, hbefore⟩
    exact ⟨hx, before, after, hxs, fun y hy => by simpa using hbefore y hy⟩

theorem IsFirst.mem {α : Type} {p : α → Prop} {xs : List α} {x : α} (h : IsFirst p xs x) :
    x ∈ xs := by
  obtain ⟨before, after, rfl, -, -⟩ := h
  exact List.mem_append_right before List.mem_cons_self

/-! ## §2 The decision as a relation -/

/-- The certificates that prove who a client is, in their order. -/
def clientCertificates (certificates : List Certificate) : List Certificate :=
  certificates.filter (·.provesClient)

/-- What the selector of the application chooses. A custom text that is no selector chooses nothing:
there is no rule for it. -/
inductive ChosenBySelector (machine user : List Certificate) :
    Option String → Certificate → EnrollmentSource → Prop where
  /-- A custom selector chooses from both stores, machine first. -/
  | custom {text : String} {s : Selector} {c : Certificate} (hreads : Selector.parse? text = some s)
      (hfirst : IsFirst (fun c => s.accepts probeAddress c = true)
        (clientCertificates (machine ++ user)) c) :
      ChosenBySelector machine user (some text) c .customSelector
  /-- Without a custom text the built-in selector chooses from the store of the user. -/
  | builtIn {c : Certificate}
      (hfirst : IsFirst (fun c => builtInSelector.accepts probeAddress c = true)
        (clientCertificates user) c) :
      ChosenBySelector machine user none c .builtInSelector

/-- Which certificate is chosen, and by which rule. -/
inductive Chosen (settings : EnrollmentSettings) (policy : Policy)
    (machine user : List Certificate) : Certificate → EnrollmentSource → Prop where
  | selector {c : Certificate} {source : EnrollmentSource}
      (hchosen : ChosenBySelector machine user settings.selector c source) :
      Chosen settings policy machine user c source
  /-- The policy chooses only if the selector does not: the first certificate of both stores that
  some entry accepts. -/
  | policy {c : Certificate}
      (hnone : ∀ c source, ¬ChosenBySelector machine user settings.selector c source)
      (hfirst : IsFirst
        (fun c => ∃ entry ∈ policy.entries, entry.selector.accepts probeAddress c = true)
        (clientCertificates (machine ++ user)) c) :
      Chosen settings policy machine user c .policy

/-- The outcome of a refresh. -/
inductive Decision (settings : EnrollmentSettings) (policy : Policy) (store : CertificateStore) :
    Except Fault Enrollment → Prop where
  /-- Nothing is asked of the stores while certificates are not used. -/
  | disabled (hoff : settings.authentication = false) :
      Decision settings policy store (.ok .disabled)
  | machineFault {fault : Fault} (hon : settings.authentication = true)
      (hmachine : store.machine = .error fault) : Decision settings policy store (.error fault)
  | userFault {machine : List Certificate} {fault : Fault} (hon : settings.authentication = true)
      (hmachine : store.machine = .ok machine) (huser : store.user = .error fault) :
      Decision settings policy store (.error fault)
  | enrolled {machine user : List Certificate} {c : Certificate} {source : EnrollmentSource}
      (hon : settings.authentication = true) (hmachine : store.machine = .ok machine)
      (huser : store.user = .ok user) (hchosen : Chosen settings policy machine user c source) :
      Decision settings policy store (.ok (.enrolled c source))
  | notEnrolled {machine user : List Certificate} (hon : settings.authentication = true)
      (hmachine : store.machine = .ok machine) (huser : store.user = .ok user)
      (hnone : ∀ c source, ¬Chosen settings policy machine user c source) :
      Decision settings policy store (.ok .notEnrolled)

/-! ## §3 Candidates -/

namespace CertificateStore

/-- The candidates of two lists of certificates. -/
def candidatesOf (machine user : List Certificate) : List Candidate :=
  located .machine (clientCertificates machine) ++ located .user (clientCertificates user)

theorem filter_located (location : Scope) (certificates : List Certificate) :
    (located location certificates).filter (·.certificate.provesClient) =
      located location (clientCertificates certificates) := by
  unfold located clientCertificates
  rw [List.filter_map]
  rfl

theorem candidates_eq (store : CertificateStore) :
    store.candidates =
      (do
        let machine ← store.machine
        let user ← store.user
        return candidatesOf machine user) := by
  unfold candidates
  simp only [List.filter_append, filter_located]
  rfl

theorem map_certificate_located (location : Scope) (certificates : List Certificate) :
    (located location certificates).map Candidate.certificate = certificates := by
  unfold located
  rw [List.map_map]
  exact List.map_id _

theorem map_certificate_candidatesOf (machine user : List Certificate) :
    (candidatesOf machine user).map Candidate.certificate =
      clientCertificates (machine ++ user) := by
  unfold candidatesOf
  rw [List.map_append, map_certificate_located, map_certificate_located]
  unfold clientCertificates
  rw [List.filter_append]

end CertificateStore

/-! ## §4 What is picked -/

open CertificateStore

variable {machine user : List Certificate} {policy : Policy} {source : EnrollmentSource}
  {e : Enrollment}

/-- Picking from all candidates is picking from the certificates of both stores. -/
theorem pick?_eq_some_iff (p : Certificate → Bool) :
    pick? source (fun candidate => p candidate.certificate) (candidatesOf machine user) = some e ↔
      ∃ c, e = .enrolled c source ∧
        IsFirst (fun c => p c = true) (clientCertificates (machine ++ user)) c := by
  have hpick : pick? source (fun candidate => p candidate.certificate) (candidatesOf machine user) =
      ((clientCertificates (machine ++ user)).find? p).map (Enrollment.enrolled · source) := by
    rw [← map_certificate_candidatesOf, List.find?_map, Option.map_map]
    rfl
  rw [hpick, Option.map_eq_some_iff]
  simp only [find?_eq_some_iff_isFirst, and_comm, eq_comm]

/-- Picking from the candidates of the user is picking from the certificates of the user. -/
theorem pick?_user_eq_some_iff (p : Certificate → Bool) :
    pick? source (fun candidate => candidate.location == .user && p candidate.certificate)
        (candidatesOf machine user) = some e ↔
      ∃ c, e = .enrolled c source ∧
        IsFirst (fun c => p c = true) (clientCertificates user) c := by
  -- no candidate of the machine passes
  have hmachine : ((located .machine (clientCertificates machine)).find? fun candidate =>
      candidate.location == .user && p candidate.certificate) = none := by
    rw [List.find?_eq_none]
    intro candidate hcandidate
    obtain ⟨c, _, rfl⟩ := List.mem_map.mp hcandidate
    simp
  have huser : ((located .user (clientCertificates user)).find? fun candidate =>
      candidate.location == .user && p candidate.certificate) =
      ((clientCertificates user).find? p).map fun c => { certificate := c, location := .user } := by
    unfold located
    rw [List.find?_map]
    rfl
  have hpick : pick? source
      (fun candidate => candidate.location == .user && p candidate.certificate)
      (candidatesOf machine user) =
      ((clientCertificates user).find? p).map (Enrollment.enrolled · source) := by
    unfold pick? candidatesOf
    rw [List.find?_append, hmachine, Option.none_or, huser, Option.map_map]
    rfl
  rw [hpick, Option.map_eq_some_iff]
  simp only [find?_eq_some_iff_isFirst, and_comm, eq_comm]

theorem pickBySelector?_eq_some_iff (selector : Option String) :
    pickBySelector? selector (candidatesOf machine user) = some e ↔
      ∃ c source, e = .enrolled c source ∧ ChosenBySelector machine user selector c source := by
  cases selector with
  | none =>
    simp only [pickBySelector?, pick?_user_eq_some_iff]
    constructor
    · rintro ⟨c, rfl, hfirst⟩
      exact ⟨c, _, rfl, .builtIn hfirst⟩
    · rintro ⟨c, source, rfl, ⟨_⟩ | ⟨hfirst⟩⟩
      exact ⟨c, rfl, hfirst⟩
  | some text =>
    cases hreads : Selector.parse? text with
    | none =>
      -- a text that is no selector: nothing is picked, and no rule chooses
      simp only [pickBySelector?, hreads]
      constructor
      · intro hpick
        cases hpick
      · rintro ⟨c, source, rfl, hchosen⟩
        cases hchosen with
        | custom hother => exact absurd (hreads.symm.trans hother) (by simp)
    | some s =>
      simp only [pickBySelector?, hreads, pick?_eq_some_iff]
      constructor
      · rintro ⟨c, rfl, hfirst⟩
        exact ⟨c, _, rfl, .custom hreads hfirst⟩
      · rintro ⟨c, source, rfl, hchosen⟩
        cases hchosen with
        | custom hother hfirst =>
          cases hreads.symm.trans hother
          exact ⟨c, rfl, hfirst⟩

theorem pickByPolicy?_eq_some_iff :
    pickByPolicy? policy (candidatesOf machine user) = some e ↔
      ∃ c, e = .enrolled c .policy ∧
        IsFirst (fun c => ∃ entry ∈ policy.entries, entry.selector.accepts probeAddress c = true)
          (clientCertificates (machine ++ user)) c := by
  unfold pickByPolicy?
  rw [pick?_eq_some_iff]
  simp only [Policy.accepts, List.any_eq_true]

/-- The selector picks before the policy does, and both together pick what is chosen. -/
theorem picked_eq_some_iff (settings : EnrollmentSettings) :
    (pickBySelector? settings.selector (candidatesOf machine user)).or
        (pickByPolicy? policy (candidatesOf machine user)) = some e ↔
      ∃ c source, e = .enrolled c source ∧ Chosen settings policy machine user c source := by
  cases hselector : pickBySelector? settings.selector (candidatesOf machine user) with
  | some picked =>
    obtain ⟨c, source, hpicked, hchosen⟩ := (pickBySelector?_eq_some_iff _).mp hselector
    rw [Option.some_or]
    constructor
    · intro he
      cases he
      exact ⟨c, source, hpicked, .selector hchosen⟩
    · rintro ⟨c', source', rfl, hchosen'⟩
      cases hchosen' with
      | selector hselected =>
        rw [← hselector]
        exact (pickBySelector?_eq_some_iff _).mpr ⟨c', source', rfl, hselected⟩
      | policy hnone => exact absurd hchosen (hnone c source)
  | none =>
    have hnone : ∀ c source, ¬ChosenBySelector machine user settings.selector c source := by
      intro c source hchosen
      have hpicked := (pickBySelector?_eq_some_iff _).mpr ⟨c, source, rfl, hchosen⟩
      exact absurd (hselector.symm.trans hpicked) (by simp)
    rw [Option.none_or, pickByPolicy?_eq_some_iff]
    constructor
    · rintro ⟨c, rfl, hfirst⟩
      exact ⟨c, .policy, rfl, .policy hnone hfirst⟩
    · rintro ⟨c, source, rfl, hchosen⟩
      cases hchosen with
      | selector hselected => exact absurd hselected (hnone c source)
      | policy _ hfirst => exact ⟨c, rfl, hfirst⟩

/-! ## §5 Refreshing -/

/-- A refresh that reads both stores, by what they hold. -/
theorem refresh_of_lists {settings : EnrollmentSettings} {store : CertificateStore}
    (hon : settings.authentication = true) (hmachine : store.machine = .ok machine)
    (huser : store.user = .ok user) :
    refresh settings policy store =
      .ok (((pickBySelector? settings.selector (candidatesOf machine user)).or
        (pickByPolicy? policy (candidatesOf machine user))).getD .notEnrolled) := by
  simp only [refresh, candidates_eq, hon, hmachine, huser]
  rfl

/-- What is allowed is what a refresh gives. -/
theorem Decision.refresh_eq {settings : EnrollmentSettings} {policy : Policy}
    {store : CertificateStore} {outcome : Except Fault Enrollment}
    (h : Decision settings policy store outcome) : refresh settings policy store = outcome := by
  cases h with
  | disabled hoff =>
    simp only [refresh, hoff]
    rfl
  | machineFault hon hmachine =>
    simp only [refresh, candidates_eq, hon, hmachine]
    rfl
  | userFault hon hmachine huser =>
    simp only [refresh, candidates_eq, hon, hmachine, huser]
    rfl
  | enrolled hon hmachine huser hchosen =>
    rw [refresh_of_lists hon hmachine huser,
      (picked_eq_some_iff settings).mpr ⟨_, _, rfl, hchosen⟩]
    rfl
  | notEnrolled hon hmachine huser hnone =>
    rw [refresh_of_lists hon hmachine huser]
    -- a pick would be a choice
    cases hpicked : (pickBySelector? settings.selector (candidatesOf _ _)).or
        (pickByPolicy? policy (candidatesOf _ _)) with
    | some e =>
      obtain ⟨c, source, rfl, hchosen⟩ := (picked_eq_some_iff settings).mp hpicked
      exact absurd hchosen (hnone c source)
    | none => rfl

/-- Some outcome is always allowed. -/
theorem Decision.total (settings : EnrollmentSettings) (policy : Policy)
    (store : CertificateStore) : ∃ outcome, Decision settings policy store outcome := by
  cases hon : settings.authentication with
  | false => exact ⟨_, .disabled hon⟩
  | true =>
    cases hmachine : store.machine with
    | error fault => exact ⟨_, .machineFault hon hmachine⟩
    | ok machine =>
      cases huser : store.user with
      | error fault => exact ⟨_, .userFault hon hmachine huser⟩
      | ok user =>
        by_cases hchosen : ∃ c source, Chosen settings policy machine user c source
        · obtain ⟨c, source, hchosen⟩ := hchosen
          exact ⟨_, .enrolled hon hmachine huser hchosen⟩
        · exact ⟨_, .notEnrolled hon hmachine huser fun c source h => hchosen ⟨c, source, h⟩⟩

/-- The selector of the application chooses among the certificates of the stores. -/
theorem ChosenBySelector.mem {selector : Option String} {c : Certificate}
    (h : ChosenBySelector machine user selector c source) :
    c ∈ clientCertificates (machine ++ user) := by
  cases h with
  | custom _ hfirst => exact hfirst.mem
  | builtIn hfirst =>
    -- the certificates of the user are the last ones of both stores
    unfold clientCertificates
    rw [List.filter_append]
    exact List.mem_append_right _ hfirst.mem

/-- What is chosen is among the certificates of the stores. -/
theorem Chosen.mem {settings : EnrollmentSettings} {c : Certificate}
    (h : Chosen settings policy machine user c source) :
    c ∈ clientCertificates (machine ++ user) := by
  cases h with
  | selector hchosen => exact hchosen.mem
  | policy _ hfirst => exact hfirst.mem

/-- A certificate comes from a refresh that uses certificates and lists it. -/
theorem mem_of_refresh {settings : EnrollmentSettings} {store : CertificateStore}
    {c : Certificate} (h : refresh settings policy store = .ok e)
    (hc : e.certificate? = some c) :
    settings.authentication = true ∧ ∃ machine user, store.machine = .ok machine ∧
      store.user = .ok user ∧ c ∈ clientCertificates (machine ++ user) := by
  obtain ⟨outcome, hdecision⟩ := Decision.total settings policy store
  obtain rfl : outcome = .ok e := hdecision.refresh_eq.symm.trans h
  cases hdecision with
  | disabled _ => cases hc
  | notEnrolled _ _ _ _ => cases hc
  | enrolled hon hmachine huser hchosen =>
    obtain rfl := Option.some.inj hc
    exact ⟨hon, _, _, hmachine, huser, hchosen.mem⟩

/-- An outcome has a certificate and its rule exactly if the device is enrolled. -/
theorem Enrollment.isSome_iff_enrolled (e : Enrollment) :
    (e.certificate?.isSome ↔ e.state = .enrolled) ∧ (e.source?.isSome ↔ e.state = .enrolled) := by
  cases e <;> simp [certificate?, source?, state]

/-- **A refresh has exactly the outcome that the decision allows**, and its outcome has a
certificate and a rule exactly if the device is enrolled. -/
theorem refresh_eq_iff_decision (settings : EnrollmentSettings) (policy : Policy)
    (store : CertificateStore) :
    (∀ outcome, refresh settings policy store = outcome ↔ Decision settings policy store outcome) ∧
      ∀ e, refresh settings policy store = .ok e →
        (e.certificate?.isSome ↔ e.state = .enrolled) ∧
          (e.source?.isSome ↔ e.state = .enrolled) := by
  refine ⟨fun outcome => ⟨?_, Decision.refresh_eq⟩, fun e _ => e.isSome_iff_enrolled⟩
  rintro rfl
  obtain ⟨outcome, hdecision⟩ := Decision.total settings policy store
  rw [hdecision.refresh_eq]
  exact hdecision

/-- The probe address is what its text reads as. -/
example : Url.parse "https://www.googleapis.com/" = .ok probeAddress := by decide +kernel

/-- The built-in selector is what its text reads as. -/
example : Selector.parse? ("\x7b\"pattern\":\"https://[*.]googleapis.com/\",\"filter\":\x7b" ++
    "\"ISSUER\":\x7b\"CN\":\"Google Endpoint Verification\"\x7d," ++
    "\"SUBJECT\":\x7b\"CN\":\"Google Endpoint Verification\"\x7d\x7d\x7d") =
      some builtInSelector := by
  decide +kernel

end DeviceAccess
