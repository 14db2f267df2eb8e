import Mathlib
import DeviceAccess.Proofs.Fault
import DeviceAccess.Proofs.Text.Cut
import DeviceAccess.Proofs.Text.Digits
import DeviceAccess.Proofs.Url.Ip
import DeviceAccess.Proofs.Url.Reader
import DeviceAccess.Proofs.Url.Substitution

/-!
# Network addresses as they are written

An address with a special scheme, other than that of files, has a host, a port of sixteen bits if it
shows one, and a path that begins with a slash. So its text has the host and the port between the
mark of the scheme and the next slash.

- `Host.IsName` is what a host that is a name is made of.
- `Url.IsRead.isNetwork` are the parts of such an address.
- `Url.IsNetwork.toList_text` is its text, where there are no credentials.
-/

namespace DeviceAccess

open Text

/-! ## §1 Names -/

/-- Four octets end in a number. -/
theorem Ipv4.endsInNumber_of_ofDotted? {cs : List Char} {address : Ipv4}
    (h : ofDotted? cs = some address) : endsInNumber cs = true := by
  unfold endsInNumber lenientParts
  cases hparts : (pieces '.' cs).reverse with
  | nil => exact absurd (List.reverse_eq_nil_iff.mp hparts) (pieces_ne_nil '.' cs)
  | cons last leading =>
    have hmem : last ∈ pieces '.' cs := by
      rw [← List.mem_reverse, hparts]
      exact List.mem_cons_self
    obtain ⟨n, hoctet⟩ := strictOctet?_of_mem_pieces h hmem
    obtain ⟨hne, hdigits⟩ := isDigit_of_strictOctet? hoctet
    obtain ⟨c, rest, rfl⟩ := List.exists_cons_of_ne_nil hne
    simpa using .inl (by simpa using hdigits)

namespace Host

/-- What a host that is a name is made of: characters that a name may have, and no number behind
the last dot. -/
structure IsName (name : List Char) : Prop where
  ne_nil : name ≠ []
  isHostChar : ∀ c ∈ name, HostName.IsHostChar c
  notNumber : Ipv4.endsInNumber name = false

theorem isName_of_ofChars {cs : List Char} {name : String}
    (hread : ofChars cs = .ok (.domain name)) : IsName name.toList := by
  obtain ⟨characters, _, hform⟩ := asciiForm?_of_ofChars hread
  have hchars := HostName.isHostChar_asciiForm? hform
  unfold ofChars at hread
  split at hread
  · unfold bracketed? at hread
    split at hread
    · split at hread <;> cases hread
    · cases hread
  · split at hread
    · cases hread
    · cases hread
    · rename_i hne _
      split at hread
      · split at hread <;> cases hread
      · rename_i hnumber
        cases hread
        rw [String.toList_ofList] at hchars ⊢
        exact ⟨fun hnil => hne hnil, hchars, by simpa using hnumber⟩

namespace IsName

variable {name : List Char}

theorem not_mem (h : IsName name) {c : Char} (hc : HostName.isForbidden c = true) : c ∉ name := by
  intro hmem
  have hallowed := (HostName.isHostChar_iff.mp (h.isHostChar c hmem)).2.1
  rw [hc] at hallowed
  cases hallowed

/-- A name is no internet address. -/
theorem ofChars?_eq_none (h : IsName name) : Ip.ofChars? name = none := by
  cases hreads : Ip.ofChars? name with
  | none => rfl
  | some address =>
    unfold Ip.ofChars? at hreads
    cases hdotted : Ipv4.ofDotted? name with
    | some four =>
      have hnumber := h.notNumber
      rw [Ipv4.endsInNumber_of_ofDotted? hdotted] at hnumber
      cases hnumber
    | none =>
      rw [hdotted] at hreads
      obtain ⟨eight, height, -⟩ := Option.map_eq_some_iff.mp hreads
      exact absurd (Ipv6.isAddressChar_of_ofChars? height).1 (h.not_mem (by decide))

end IsName

end Host

/-! ## §2 Parts of network addresses -/

namespace Url

/-- The address has a host, a port of sixteen bits if any, and a path that begins with a slash. -/
structure IsNetwork (u : Url) : Prop where
  host : u.host.isSome
  port : ∀ n, u.port = some n → n < 2 ^ 16
  path : u.path.toList.head? = some '/'

theorem lt_of_readPort {scheme : String} {cs rest : List Char} {n : Nat}
    (hread : readPort scheme cs = .ok (some n, rest)) : n < 2 ^ 16 := by
  unfold readPort at hread
  simp only at hread
  split at hread
  · cases hread
  · rename_i hbound
    have hwritten : readPort.written scheme (cs.takeWhile Char.isDigit)
        (digitsValue 10 (cs.takeWhile Char.isDigit)) = some n := by
      split at hread
      · exact (Prod.mk.inj (Except.ok.inj hread)).1
      · exact (Prod.mk.inj (Except.ok.inj hread)).1
      · cases hread
    unfold readPort.written at hwritten
    split at hwritten
    · cases hwritten
    · rw [← Option.some.inj hwritten]
      omega

theorem parts_of_readAuthority {scheme : String} {more : Bool} {cs rest : List Char}
    {a : Authority} (hspecial : isSpecial scheme = true)
    (hread : readAuthority scheme more cs = .ok (a, rest)) :
    a.host.isSome ∧ ∀ n, a.port = some n → n < 2 ^ 16 := by
  unfold readAuthority at hread
  simp only [guard_eq_ok_iff, ite_bind, bind_eq_ok_iff, hspecial, Bool.true_and] at hread
  obtain ⟨-, hhost, host, -, -, hread⟩ := hread
  split at hread
  all_goals
    simp only [guard_eq_ok_iff, bind_eq_ok_iff, pure_eq_ok_iff, Prod.mk.injEq] at hread
    obtain ⟨⟨port, path⟩, hport, -, rfl, -⟩ := hread
    refine ⟨by simp [hhost], fun n hn => ?_⟩
  · obtain rfl : port = some n := hn
    exact lt_of_readPort hport
  · cases hport
    cases hn

theorem parts_of_readHierarchy {scheme : String} {more : Bool} {cs path : List Char}
    {authority : Option Authority} (hspecial : isSpecial scheme = true)
    (hread : readHierarchy scheme more cs = .ok (authority, path)) :
    ∃ a, authority = some a ∧ a.host.isSome ∧ (∀ n, a.port = some n → n < 2 ^ 16) ∧
      path.head? = some '/' := by
  unfold readHierarchy at hread
  simp only [bind_eq_ok_iff, pure_eq_ok_iff, Prod.mk.injEq, hspecial] at hread
  obtain ⟨⟨a, extra⟩, ha, rfl, rfl⟩ := hread
  obtain ⟨hhost, hport⟩ := parts_of_readAuthority hspecial ha
  refine ⟨a, rfl, hhost, hport, ?_⟩
  split
  · rfl
  · split <;> rfl

/-- **The parts of a network address** that was read. -/
theorem IsRead.isNetwork {u : Url} (hread : u.IsRead) (hspecial : isSpecial u.scheme = true)
    (hfile : u.scheme ≠ "file") : u.IsNetwork := by
  obtain ⟨text, hread⟩ := hread
  unfold parse ofChars at hread
  split at hread
  · cases hread
  · simp only at hread
    split at hread
    · -- files
      rename_i hscheme
      simp only [bind_eq_ok_iff, pure_eq_ok_iff] at hread
      obtain ⟨_, _, rfl⟩ := hread
      exact absurd (eq_of_beq hscheme) hfile
    · split at hread
      · rename_i hspecial
        simp only [bind_eq_ok_iff, pure_eq_ok_iff] at hread
        obtain ⟨⟨authority, path⟩, hhierarchy, rfl⟩ := hread
        obtain ⟨a, rfl, hhost, hport, hpath⟩ := parts_of_readHierarchy hspecial hhierarchy
        exact ⟨hhost, hport, by rwa [String.toList_ofList]⟩
      · -- other schemes
        rename_i hother
        split at hread
        · simp only [bind_eq_ok_iff, pure_eq_ok_iff] at hread
          obtain ⟨_, _, rfl⟩ := hread
          exact absurd hspecial hother
        · cases hread
          exact absurd hspecial hother

/-! ## §3 Texts of network addresses -/

/-- Without credentials an authority is written as its host and its port. -/
theorem toChars_of_noCredentials {a : Authority} {h : Host} (hname : a.username = "")
    (hpassword : a.password = "") (hhost : a.host = some h) :
    Authority.toChars a = h.toChars ++ fromCut ':' (a.port.map decimal) := by
  unfold Authority.toChars
  rw [hname, hpassword, hhost]
  cases a.port <;> rfl

/-- **The text of a network address** without credentials: the scheme, the host and the port, and
then the slash of the path. -/
theorem IsNetwork.toList_text {u : Url} (hu : u.IsNetwork)
    (hcredentials : u.credentials = some ("", "")) {h : Host} (hhost : u.host = some h) :
    ∃ rest, u.text.toList = u.scheme.toList ++ [':', '/', '/'] ++
      (h.toChars ++ fromCut ':' (u.port.map decimal)) ++ '/' :: rest := by
  obtain ⟨a, hauthority⟩ := exists_authority_of_host hu.host
  obtain ⟨path, hpath⟩ := List.head?_eq_some_iff.mp hu.path
  have hparts : a.username = "" ∧ a.password = "" := by
    simpa [credentials, hauthority] using hcredentials
  have hport : u.port = a.port := by simp [Url.port, hauthority]
  rw [Url.host, hauthority, Option.bind_some] at hhost
  have hwritten := toChars_of_noCredentials hparts.1 hparts.2 hhost
  refine ⟨path ++ ((u.query.map fun q => ['?'] ++ q.toList).getD []) ++
    ((u.fragment.map fun f => ['#'] ++ f.toList).getD []), ?_⟩
  rw [text, String.toList_ofList, toChars, hauthority, hport, hpath, Option.map_some,
    Option.getD_some, hwritten]
  simp

end Url

end DeviceAccess
