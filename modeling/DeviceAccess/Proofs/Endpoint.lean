import DeviceAccess.Endpoint
import DeviceAccess.Proofs.Text.Case
import DeviceAccess.Proofs.Text.Cut
import DeviceAccess.Proofs.Url.Ip
import DeviceAccess.Proofs.Url.Substitution

/-!
# The address for client certificates

A service below `googleapis.com` has an address for client certificates under a name of its own, and
every other address is its own address for client certificates. The name of that address is marked
as such, so that deriving an address from a derived one changes nothing.

- `IsServiceOf` says which addresses are those of a service with two addresses.
- `mtlsAddress_of_isServiceOf` and `mtlsAddress_of_not_isServiceOf` are the two cases.
- `not_isServiceOf_mtlsAddress` says that one step is enough.
-/

namespace DeviceAccess

open Text

/-! ## §1 Names of services -/

/-- The address is that of a service with two addresses: its host in small letters is the name of the
service before `.googleapis.com`, and not yet marked as one for client certificates. -/
structure Url.IsServiceOf (u : Url) (service : String) : Prop where
  host_eq : lowerText u.hostText = service ++ ".googleapis.com"
  ne_empty : service ≠ ""
  not_marked : ∀ name, service ≠ name ++ ".mtls"

namespace Url.IsServiceOf

variable {u : Url} {service : String}

theorem lower_eq (h : u.IsServiceOf service) :
    lower u.hostText.toList = service.toList ++ ".googleapis.com".toList := by
  rw [← String.toList_append, ← h.host_eq, lowerText, String.toList_ofList]

/-- The host of a service is a name: an internet address has no letter `m` in its last place. -/
theorem exists_domain (h : u.IsServiceOf service) : ∃ name, u.host = some (.domain name) := by
  have hlast : (lower u.hostText.toList).getLast? = some 'm' := by
    rw [h.lower_eq, List.getLast?_append]
    rfl
  cases hhost : u.host with
  | none =>
    simp only [hostText, hhost] at hlast
    cases hlast
  | some host =>
    rw [hostText_eq_of_host hhost, Host.toList_text] at hlast
    cases host with
    | domain name => exact ⟨name, rfl⟩
    | ipv4 address =>
      -- four octets are digits and dots
      rw [Host.toChars, hasNoCapital_iff_lower_eq.mp address.hasNoCapital_toChars] at hlast
      have hchar := Ipv4.isDigit_or_dot_of_ofDotted? address.ofDotted?_toChars 'm'
        (List.mem_of_getLast? hlast)
      exact absurd hchar (by decide)
    | ipv6 address =>
      -- a bracket stands behind the groups
      rw [Host.toChars, lower_append, List.getLast?_append] at hlast
      cases hlast

/-- The name before the end is in small letters, as the host is. -/
theorem lower_service (h : u.IsServiceOf service) : lower service.toList = service.toList := by
  have hsmall := hasNoCapital_lower u.hostText.toList
  rw [h.lower_eq, hasNoCapital_append, Bool.and_eq_true] at hsmall
  exact hasNoCapital_iff_lower_eq.mp hsmall.1

end Url.IsServiceOf

namespace Endpoint

theorem isSome_dropFinalRun?_iff {run xs : List Char} :
    (dropFinalRun? run xs).isSome = true ↔ run <:+ xs := by
  rw [Option.isSome_iff_exists]
  constructor
  · intro h
    obtain ⟨front, hfront⟩ := h
    exact ⟨front, (dropFinalRun?_eq_some_iff.mp hfront).symm⟩
  · intro h
    obtain ⟨front, hfront⟩ := h
    exact ⟨front, dropFinalRun?_eq_some_iff.mpr hfront.symm⟩

/-- The name for client certificates exists exactly for the names of services with two addresses. -/
theorem mtlsName?_eq_some_iff {host name : List Char} :
    mtlsName? host = some name ↔
      ∃ service, host = service ++ serviceSuffix ∧ service ≠ [] ∧ ¬mtlsMark <:+ service ∧
        name = service ++ mtlsMark ++ serviceSuffix := by
  unfold mtlsName?
  cases hservice : dropFinalRun? serviceSuffix host with
  | none =>
    simp only [reduceCtorEq, false_iff]
    intro h
    obtain ⟨service, hhost, -⟩ := h
    rw [dropFinalRun?_eq_some_iff.mpr hhost] at hservice
    cases hservice
  | some service =>
    obtain rfl := dropFinalRun?_eq_some_iff.mp hservice
    simp only
    constructor
    · intro h
      split at h
      · cases h
      · rename_i hother
        cases h
        rw [Bool.or_eq_true, not_or, List.isEmpty_iff, isSome_dropFinalRun?_iff] at hother
        exact ⟨service, rfl, hother.1, hother.2, rfl⟩
    · intro h
      obtain ⟨service', hhost, hne, hother, rfl⟩ := h
      obtain rfl := List.append_cancel_right hhost
      apply if_neg
      rw [Bool.or_eq_true, not_or, List.isEmpty_iff, isSome_dropFinalRun?_iff]
      exact ⟨hne, hother⟩

/-! ## §2 The derived address -/

variable {u : Url} {service : String}

/-- The name of the address for client certificates. -/
def mtlsNameOf (service : String) : String := service ++ ".mtls.googleapis.com"

theorem mtlsName?_of_isServiceOf (h : u.IsServiceOf service) :
    mtlsName? (lower u.hostText.toList) = some (mtlsNameOf service).toList := by
  apply mtlsName?_eq_some_iff.mpr
  refine ⟨service.toList, h.lower_eq, ?_, ?_, ?_⟩
  · intro hnil
    exact h.ne_empty (String.toList_eq_nil_iff.mp hnil)
  · intro hsuffix
    obtain ⟨name, hname⟩ := hsuffix
    apply h.not_marked (String.ofList name)
    rw [← String.toList_inj, String.toList_append, String.toList_ofList]
    exact hname.symm
  · rw [mtlsNameOf, String.toList_append, List.append_assoc]
    rfl

theorem exists_isServiceOf {name : List Char}
    (h : mtlsName? (lower u.hostText.toList) = some name) : ∃ service, u.IsServiceOf service := by
  obtain ⟨service, hhost, hne, hother, -⟩ := mtlsName?_eq_some_iff.mp h
  refine ⟨String.ofList service, ?_, ?_, ?_⟩
  · rw [lowerText, hhost, String.ofList_append]
    rfl
  · intro hempty
    apply hne
    rw [← String.toList_ofList (l := service), hempty]
    rfl
  · intro name hname
    apply hother
    refine ⟨name.toList, ?_⟩
    rw [← String.toList_ofList (l := service), hname, String.toList_append]
    rfl

/-- The address of a service is derived by putting the mark into its name. -/
theorem mtlsAddress_of_isServiceOf (h : u.IsServiceOf service) :
    mtlsAddress u = u.replaceHost (.domain (mtlsNameOf service)) := by
  obtain ⟨name, hhost⟩ := h.exists_domain
  have hname : name = u.hostText := by rw [Url.hostText_eq_of_host hhost, Host.text_domain]
  have hderived := mtlsName?_of_isServiceOf h
  simp only [mtlsAddress, hhost, hname, hderived, String.ofList_toList]

/-- Every other address is its own address for client certificates. -/
theorem mtlsAddress_of_not_isServiceOf (h : ∀ service, ¬u.IsServiceOf service) :
    mtlsAddress u = u := by
  unfold mtlsAddress
  split
  · rename_i name hhost
    split
    · rename_i mtls hmtls
      have hname : name = u.hostText := by rw [Url.hostText_eq_of_host hhost, Host.text_domain]
      rw [hname] at hmtls
      obtain ⟨service, hservice⟩ := exists_isServiceOf hmtls
      exact absurd hservice (h service)
    · rfl
  · rfl

theorem hostText_mtlsAddress (h : u.IsServiceOf service) :
    (mtlsAddress u).hostText = mtlsNameOf service := by
  rw [mtlsAddress_of_isServiceOf h, Url.hostText_replaceHost, Host.text_domain]

theorem sameButHost_mtlsAddress (h : u.IsServiceOf service) : (mtlsAddress u).SameButHost u := by
  obtain ⟨name, hhost⟩ := h.exists_domain
  rw [mtlsAddress_of_isServiceOf h]
  apply Url.sameButHost_replaceHost
  rw [hhost]
  rfl

/-! ## §3 One step is enough -/

/-- The derived name is in small letters. -/
theorem lowerText_mtlsNameOf (h : u.IsServiceOf service) :
    lowerText (mtlsNameOf service) = mtlsNameOf service := by
  have hmark : lower ".mtls.googleapis.com".toList = ".mtls.googleapis.com".toList := by decide
  rw [mtlsNameOf, lowerText, String.toList_append, lower_append, h.lower_service, hmark,
    ← String.toList_append, String.ofList_toList]

/-- A derived address is not that of a service with two addresses. -/
theorem not_isServiceOf_mtlsAddress (u : Url) (service : String) :
    ¬(mtlsAddress u).IsServiceOf service := by
  intro h
  by_cases hu : ∃ name, u.IsServiceOf name
  · obtain ⟨name, hname⟩ := hu
    have hhost : name ++ ".mtls" ++ ".googleapis.com" = service ++ ".googleapis.com" := by
      rw [← h.host_eq, hostText_mtlsAddress hname, lowerText_mtlsNameOf hname, mtlsNameOf,
        String.append_assoc]
      rfl
    have hservice : service = name ++ ".mtls" := by
      have hlist : (name ++ ".mtls").toList ++ ".googleapis.com".toList =
          service.toList ++ ".googleapis.com".toList := by
        rw [← String.toList_append, hhost, String.toList_append]
      exact (String.toList_inj.mp (List.append_cancel_right hlist)).symm
    -- the name that is left bears the mark
    exact h.not_marked name hservice
  · have hu := not_exists.mp hu
    rw [mtlsAddress_of_not_isServiceOf hu] at h
    exact hu service h

/-- **The address for client certificates**: that of a service has the mark in its name and is the
same but for that, every other address is its own, and deriving again changes nothing. -/
theorem mtls_ofUrl (u : Url) :
    (∀ service, u.IsServiceOf service →
        (ofUrl u).mtls.hostText = service ++ ".mtls.googleapis.com" ∧
          (ofUrl u).mtls.SameButHost u) ∧
      ((∀ service, ¬u.IsServiceOf service) → (ofUrl u).mtls = u) ∧
      (ofUrl (ofUrl u).mtls).mtls = (ofUrl u).mtls := by
  refine ⟨?_, ?_, ?_⟩
  · intro service h
    exact ⟨hostText_mtlsAddress h, sameButHost_mtlsAddress h⟩
  · intro h
    exact mtlsAddress_of_not_isServiceOf h
  · exact mtlsAddress_of_not_isServiceOf (not_isServiceOf_mtlsAddress u)

example : (ofUrl (webAddress "mtls.Googleapis.com" "/")).mtls.hostText =
    "mtls.mtls.googleapis.com" := by decide

end Endpoint

end DeviceAccess
