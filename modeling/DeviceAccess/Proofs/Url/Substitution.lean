import DeviceAccess.Proofs.Text.Case
import DeviceAccess.Url.Substitution

/-!
# Putting another host into an address

An address with another host is the same address but for its host, and its host is written like the
one that was put in. Internet addresses have no capitals, so making the letters of a host small
changes names and nothing else.
-/

namespace DeviceAccess

open Text

/-! ## §1 The same but for the host -/

namespace Url

/-- The name and the password that are written before the host. -/
def credentials (u : Url) : Option (String × String) :=
  u.authority.map fun a => (a.username, a.password)

/-- Two addresses that differ in their hosts at most. -/
structure SameButHost (u v : Url) : Prop where
  scheme : u.scheme = v.scheme
  credentials : u.credentials = v.credentials
  port : u.port = v.port
  path : u.path = v.path
  query : u.query = v.query
  fragment : u.fragment = v.fragment

theorem SameButHost.refl (u : Url) : SameButHost u u := ⟨rfl, rfl, rfl, rfl, rfl, rfl⟩

variable {u : Url}

/-- Only an authority has a host. -/
theorem exists_authority_of_host (hhost : u.host.isSome) : ∃ a, u.authority = some a := by
  unfold host at hhost
  cases hauthority : u.authority with
  | none => simp [hauthority] at hhost
  | some a => exact ⟨a, rfl⟩

theorem sameButHost_replaceHost (hhost : u.host.isSome) (h : Host) :
    SameButHost (u.replaceHost h) u := by
  obtain ⟨a, ha⟩ := exists_authority_of_host hhost
  constructor <;> simp [replaceHost, Url.credentials, Url.port, ha]

theorem host_replaceHost (u : Url) (h : Host) : (u.replaceHost h).host = some h := by
  unfold replaceHost host
  split <;> rfl

theorem hostText_eq_of_host {h : Host} (hhost : u.host = some h) : u.hostText = h.text := by
  simp only [hostText, hhost]

theorem hostText_replaceHost (u : Url) (h : Host) : (u.replaceHost h).hostText = h.text :=
  hostText_eq_of_host (host_replaceHost u h)

end Url

/-! ## §2 The text of a host -/

namespace Host

theorem toList_text (h : Host) : h.text.toList = h.toChars := String.toList_ofList

theorem text_domain (name : String) : (Host.domain name).text = name := String.ofList_toList

/-- A host keeps its text whatever the scheme. -/
theorem text_within (scheme : String) (h : Host) : (h.within scheme).text = h.text := by
  cases h with
  | ipv4 address =>
    simp only [within]
    split
    · rfl
    · exact text_domain _
  | domain name => rfl
  | ipv6 address => rfl

end Host

theorem Ipv4.hasNoCapital_toChars (address : Ipv4) : hasNoCapital address.toChars = true := by
  unfold Ipv4.toChars
  refine hasNoCapital_joinWith rfl fun part hpart => ?_
  obtain ⟨octet, _, rfl⟩ := List.mem_map.mp hpart
  exact hasNoCapital_decimal octet

theorem Ipv6.hasNoCapital_toChars (address : Ipv6) : hasNoCapital address.toChars = true := by
  have hshown : ∀ groups : List UInt16,
      hasNoCapital (joinWith [':'] (groups.map fun g => hexText 1 g.toNat)) = true := by
    intro groups
    refine hasNoCapital_joinWith rfl fun part hpart => ?_
    obtain ⟨group, _, rfl⟩ := List.mem_map.mp hpart
    exact hasNoCapital_hexText 1 _
  unfold Ipv6.toChars
  simp only
  split
  · exact hshown _
  · rw [hasNoCapital_append, hasNoCapital_append, hshown, hshown]
    rfl

/-- Only names have letters that can be made small. -/
theorem Host.lowerText_text {h : Host} (hname : ∀ name, h ≠ .domain name) :
    lowerText h.text = h.text := by
  have hsmall : hasNoCapital h.toChars = true := by
    cases h with
    | domain name => exact absurd rfl (hname name)
    | ipv4 address => exact address.hasNoCapital_toChars
    | ipv6 address =>
      rw [Host.toChars, hasNoCapital_append, hasNoCapital_append, address.hasNoCapital_toChars]
      rfl
  rw [lowerText, Host.toList_text, hasNoCapital_iff_lower_eq.mp hsmall, Host.text]

/-! ## §3 The two replacements -/

namespace Url

/-- Making the letters of the host small changes nothing but the host. -/
theorem withLowerHost_spec {u : Url} (hhost : u.host.isSome) :
    u.withLowerHost.hostText = lowerText u.hostText ∧ SameButHost u.withLowerHost u := by
  obtain ⟨h, hh⟩ := Option.isSome_iff_exists.mp hhost
  cases h with
  | domain name =>
    have hlower : u.withLowerHost = u.replaceHost (.domain (lowerText name)) := by
      simp only [withLowerHost, hh]
    rw [hlower, hostText_replaceHost, hostText_eq_of_host hh, Host.text_domain, Host.text_domain]
    exact ⟨rfl, sameButHost_replaceHost hhost _⟩
  | ipv4 address =>
    have hlower : u.withLowerHost = u := by simp only [withLowerHost, hh]
    rw [hlower, hostText_eq_of_host hh, Host.lowerText_text (by simp)]
    exact ⟨rfl, .refl u⟩
  | ipv6 address =>
    have hlower : u.withLowerHost = u := by simp only [withLowerHost, hh]
    rw [hlower, hostText_eq_of_host hh, Host.lowerText_text (by simp)]
    exact ⟨rfl, .refl u⟩

/-- An address with a host takes any other host, in its text, and changes nothing else. -/
theorem withHost?_spec {u : Url} (hhost : u.host.isSome) (h : Host) :
    ∃ v, u.withHost? h = some v ∧ v.hostText = h.text ∧ SameButHost v u := by
  have hname : u.isName = false := by
    obtain ⟨a, ha⟩ := exists_authority_of_host hhost
    simp [isName, ha]
  refine ⟨u.replaceHost (h.within u.scheme), ?_, ?_, sameButHost_replaceHost hhost _⟩
  · simp [withHost?, hname]
  · rw [hostText_replaceHost, Host.text_within]

end Url

end DeviceAccess
