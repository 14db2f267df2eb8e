import DeviceAccess.Endpoint
import DeviceAccess.Proofs.Fault
import DeviceAccess.Proofs.HostName.AsciiForm
import DeviceAccess.Proofs.Text.Blank
import DeviceAccess.Url.Reader

/-!
# Hosts of addresses that were read

The host of an address that was read comes from one of the two readers for hosts: that for special
schemes or that for all others. Neither gives a host with a blank in its text, so that trimming the
name of a service changes nothing if the name is the host of an address.
-/

namespace DeviceAccess

open Text

/-! ## §1 Hosts -/

theorem Ipv4.hasNoBlank_toChars (address : Ipv4) : HasNoBlank address.toChars := by
  unfold Ipv4.toChars
  refine HasNoBlank.joinWith (hasNoBlank_singleton (by decide)) fun part hpart => ?_
  obtain ⟨octet, _, rfl⟩ := List.mem_map.mp hpart
  exact hasNoBlank_toDigits (by decide) (by decide) octet

theorem Ipv6.hasNoBlank_toChars (address : Ipv6) : HasNoBlank address.toChars := by
  have hcolon : HasNoBlank [':'] := hasNoBlank_singleton (by decide)
  have hshown : ∀ groups : List UInt16,
      HasNoBlank (joinWith [':'] (groups.map fun g => hexText 1 g.toNat)) := by
    intro groups
    refine hcolon.joinWith fun part hpart => ?_
    obtain ⟨group, _, rfl⟩ := List.mem_map.mp hpart
    exact hasNoBlank_hexText 1 _
  unfold Ipv6.toChars
  simp only
  split
  · exact hshown _
  · exact ((hshown _).append (hcolon.append hcolon)).append (hshown _)

namespace Host

theorem hasNoBlank_ipv6 (address : Ipv6) : HasNoBlank (Host.ipv6 address).toChars :=
  ((hasNoBlank_singleton (by decide)).append address.hasNoBlank_toChars).append
    (hasNoBlank_singleton (by decide))

/-- A name that was read is the ASCII form of the characters that it was read from. -/
theorem asciiForm?_of_ofChars {cs : List Char} {name : String}
    (hread : ofChars cs = .ok (.domain name)) :
    ∃ characters, ofUtf8? (Url.percentDecode cs) = some characters ∧
      HostName.asciiForm? characters = some name.toList := by
  unfold ofChars at hread
  split at hread
  · unfold bracketed? at hread
    split at hread
    · split at hread <;> cases hread
    · cases hread
  · split at hread
    · cases hread
    · cases hread
    · rename_i form _ hform
      obtain ⟨characters, hcharacters, hform⟩ := Option.bind_eq_some_iff.mp hform
      split at hread
      · split at hread <;> cases hread
      · cases hread
        exact ⟨characters, hcharacters, by rwa [String.toList_ofList]⟩

/-- A host of a special scheme has no blank. -/
theorem hasNoBlank_ofChars {cs : List Char} {h : Host} (hread : ofChars cs = .ok h) :
    HasNoBlank h.toChars := by
  cases h with
  | domain name =>
    obtain ⟨characters, _, hform⟩ := asciiForm?_of_ofChars hread
    exact fun c hc => (HostName.isHostChar_asciiForm? hform c hc).not_isBlank
  | ipv4 address => exact address.hasNoBlank_toChars
  | ipv6 address => exact hasNoBlank_ipv6 address

theorem hasNoBlank_bracketed? {cs : List Char} {h : Host} (hread : bracketed? cs = .ok h) :
    HasNoBlank h.toChars := by
  unfold bracketed? at hread
  split at hread
  · split at hread
    · cases hread
      exact hasNoBlank_ipv6 _
    · cases hread
  · cases hread

theorem hasNoBlank_percentOctet (b : UInt8) : HasNoBlank (Url.percentOctet b) := by
  have hdigit : ∀ d < 16, isBlank (hexDigit d).toUpper = false := by decide
  have hb : b.toNat < 256 := b.toNat_lt
  intro c hc
  simp only [Url.percentOctet, List.mem_cons, List.not_mem_nil, or_false] at hc
  rcases hc with rfl | rfl | rfl
  · decide
  · exact hdigit _ (by omega)
  · exact hdigit _ (by omega)

/-- A host of another scheme has no blank: what is not refused or spelled out is no blank. -/
theorem hasNoBlank_verbatim {cs : List Char} {h : Host} (hread : verbatim cs = .ok h) :
    HasNoBlank h.toChars := by
  unfold verbatim at hread
  split at hread
  · exact hasNoBlank_bracketed? hread
  · split at hread
    · cases hread
    · rename_i hallowed
      cases hread
      intro c hc
      rw [toChars, String.toList_ofList] at hc
      obtain ⟨d, hd, hc⟩ := List.mem_flatMap.mp hc
      unfold Url.percentChar at hc
      split at hc
      · obtain ⟨b, _, hc⟩ := List.mem_flatMap.mp hc
        exact hasNoBlank_percentOctet b c hc
      · rename_i hkept
        rw [List.mem_singleton.mp hc]
        have hspace : d ≠ ' ' := by
          rintro rfl
          exact hallowed (List.any_eq_true.mpr ⟨' ', hd, by decide⟩)
        have hspaceNat : d.toNat ≠ 0x20 := fun h => hspace (Char.toNat_inj.mp h)
        simp [Url.escapedEverywhere] at hkept
        simp [isBlank]
        omega

/-- A host that is read by the rules of a scheme. -/
def IsReadFor (scheme : String) (h : Host) : Prop :=
  ∃ cs, (if Url.isSpecial scheme then ofChars cs else verbatim cs) = .ok h

theorem IsReadFor.hasNoBlank {scheme : String} {h : Host} (hread : h.IsReadFor scheme) :
    HasNoBlank h.toChars := by
  obtain ⟨cs, hread⟩ := hread
  split at hread
  · exact hasNoBlank_ofChars hread
  · exact hasNoBlank_verbatim hread

end Host

/-! ## §2 Addresses -/

namespace Url

/-- The address is what some text reads as. -/
def IsRead (u : Url) : Prop := ∃ text, parse text = .ok u

/-- The host of an authority is read by the rules of its scheme. -/
theorem isReadFor_of_readAuthority {scheme : String} {more : Bool} {cs rest : List Char}
    {a : Authority} (hread : readAuthority scheme more cs = .ok (a, rest)) {h : Host}
    (hhost : a.host = some h) : h.IsReadFor scheme := by
  unfold readAuthority at hread
  simp only [guard_eq_ok_iff, ite_bind, bind_eq_ok_iff] at hread
  obtain ⟨-, -, host, hhostRead, -, hread⟩ := hread
  -- with a port or without, the host is put into the authority
  have hsame : host = h := by
    split at hread
    all_goals
      simp only [guard_eq_ok_iff, bind_eq_ok_iff, pure_eq_ok_iff, Prod.mk.injEq] at hread
      obtain ⟨_, _, _, rfl, _⟩ := hread
      split at hhost
      · cases hhost
      · exact Option.some.inj hhost
  exact ⟨_, hsame ▸ hhostRead⟩

theorem isReadFor_of_readHierarchy {scheme : String} {more : Bool} {cs rest : List Char}
    {a : Option Authority} (hread : readHierarchy scheme more cs = .ok (a, rest)) {h : Host}
    (hhost : a.bind Authority.host = some h) : h.IsReadFor scheme := by
  unfold readHierarchy at hread
  simp only [bind_eq_ok_iff, pure_eq_ok_iff, Prod.mk.injEq] at hread
  obtain ⟨⟨authority, extra⟩, hauthority, rfl, _⟩ := hread
  exact isReadFor_of_readAuthority hauthority hhost

theorem isReadFor_of_readFile {cs rest : List Char} {a : Option Authority}
    (hread : readFile cs = .ok (a, rest)) {h : Host} (hhost : a.bind Authority.host = some h) :
    h.IsReadFor "file" := by
  -- all ways but one give an authority without host
  have hnone : ∀ {r : List Char}, (pure (some ⟨"", "", none, none⟩, r) :
      Except UrlFault (Option Authority × List Char)) = .ok (a, rest) → h.IsReadFor "file" := by
    intro r hpure
    cases hpure
    cases hhost
  unfold readFile at hread
  split at hread
  · simp only at hread
    split at hread
    · split at hread
      · exact hnone hread
      · split at hread
        · exact hnone hread
        · obtain ⟨host, hhostRead, hread⟩ := bind_eq_ok_iff.mp hread
          split at hread
          · exact hnone hread
          · split at hread
            · exact hnone hread
            · cases hread
              cases hhost
              exact ⟨_, hhostRead⟩
    · exact hnone hread
  · exact hnone hread

/-- **The host of an address that was read** was read by the rules of the scheme. -/
theorem IsRead.isReadFor {u : Url} (hread : u.IsRead) {h : Host} (hhost : u.host = some h) :
    h.IsReadFor u.scheme := by
  obtain ⟨text, hread⟩ := hread
  unfold parse ofChars at hread
  split at hread
  · cases hread
  · simp only at hread
    split at hread
    · rename_i hfile
      simp only [bind_eq_ok_iff, pure_eq_ok_iff] at hread
      obtain ⟨⟨authority, path⟩, hauthority, rfl⟩ := hread
      rw [eq_of_beq hfile]
      exact isReadFor_of_readFile hauthority hhost
    · split at hread
      · simp only [bind_eq_ok_iff, pure_eq_ok_iff] at hread
        obtain ⟨⟨authority, path⟩, hauthority, rfl⟩ := hread
        exact isReadFor_of_readHierarchy hauthority hhost
      · split at hread
        · simp only [bind_eq_ok_iff, pure_eq_ok_iff] at hread
          obtain ⟨⟨authority, path⟩, hauthority, rfl⟩ := hread
          exact isReadFor_of_readHierarchy hauthority hhost
        · -- without slashes there is no authority
          cases hread
          cases hhost

/-- The host of an address that was read has no blank in its text. -/
theorem IsRead.hasNoBlank_hostText {u : Url} (hread : u.IsRead) :
    HasNoBlank u.hostText.toList := by
  unfold hostText
  split
  · rename_i h hhost
    rw [Host.text, String.toList_ofList]
    exact (hread.isReadFor hhost).hasNoBlank
  · intro c hc
    cases hc

end Url

/-- The known services are at addresses that can be read. -/
theorem Endpoint.isRead_of_mem_wellKnown {e : Endpoint} (he : e ∈ wellKnown) : e.tls.IsRead := by
  have hall : ∀ i : Fin 7, Url.parse (wellKnown.get i).tls.text = .ok (wellKnown.get i).tls := by
    decide +kernel
  obtain ⟨i, rfl⟩ := List.mem_iff_get.mp he
  exact ⟨_, hall i⟩

end DeviceAccess
