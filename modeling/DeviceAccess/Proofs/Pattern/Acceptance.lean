import DeviceAccess.Pattern
import DeviceAccess.Proofs.Fault
import DeviceAccess.Proofs.Text.Cut

/-!
# Which addresses a pattern accepts

States for each written part of a pattern what it accepts, in terms of the text of that part, and
proves that a pattern accepts an address exactly if each of its parts does.

- `SchemeAccepts`, `HostAccepts` and `PortAccepts` say what the written parts stand for.
- `Admits` puts them together for a whole text.
- Names are compared label by label: `[*.]name` accepts the names whose last labels are those of
  the normal form of `name`. The functions that run compare final characters; `isBelow_iff_labels`
  says that this is the same.
-/

namespace DeviceAccess

open Text

/-! ## §1 What written parts accept -/

/-- One of the two web schemes. -/
def IsWebScheme (scheme : String) : Prop := scheme = "http" ∨ scheme = "https"

/-- The labels of a name, which dots separate. -/
def labels (name : List Char) : List (List Char) := pieces '.' name

/-- The host that an internet address is. -/
def Ip.host : Ip → Host
  | .v4 address => .ipv4 address
  | .v6 address => .ipv6 address

/-- What a written scheme accepts: none and `*` either web scheme, a name its form in small letters,
and `file` nothing. -/
inductive SchemeAccepts : Option (List Char) → String → Prop where
  | missing {scheme : String} (hweb : IsWebScheme scheme) : SchemeAccepts none scheme
  | wildcard {scheme : String} (hweb : IsWebScheme scheme) : SchemeAccepts (some ['*']) scheme
  | named {written : List Char} {scheme : String} (hnamed : written ≠ ['*'])
      (hsame : scheme = String.ofList (lower written)) (hfile : scheme ≠ "file") :
      SchemeAccepts (some written) scheme

/-- What a written host accepts. -/
inductive HostAccepts : HostSpelling → Host → Prop where
  /-- `*` accepts every host. -/
  | any (host : Host) : HostAccepts (.name ['*']) host
  /-- `[*.]name` accepts names that end in the labels of `name`. -/
  | below {name : List Char} {host : String}
      (hlabels : labels (PatternSpelling.normalName name).toList <:+ labels (lower host.toList)) :
      HostAccepts (.below name) (.domain host)
  /-- An address in brackets accepts itself. -/
  | literal (address : Ip) : HostAccepts (.literal address) address.host
  /-- An address without brackets accepts itself. -/
  | address {text : List Char} {address : Ip} (hreads : Ip.ofChars? text = some address) :
      HostAccepts (.name text) address.host
  /-- Any other text accepts the name that it is, in any case of letters. -/
  | name {text : List Char} {host : String} (hany : text ≠ ['*'])
      (hnoAddress : Ip.ofChars? text = none)
      (hsame : lowerText host = lowerText (PatternSpelling.normalName text)) :
      HostAccepts (.name text) (.domain host)

/-- What a written port accepts. -/
inductive PortAccepts : Option (List Char) → Url → Prop where
  /-- No port accepts the default of either web scheme, and nothing under other schemes. -/
  | http {u : Url} (hscheme : u.scheme = "http") (hport : u.effectivePort? = some 80) :
      PortAccepts none u
  | https {u : Url} (hscheme : u.scheme = "https") (hport : u.effectivePort? = some 443) :
      PortAccepts none u
  /-- `*` accepts every port. -/
  | any (u : Url) : PortAccepts (some ['*']) u
  /-- A number accepts the port that is written or, if none is, the default of the scheme. -/
  | exact {written : List Char} {number : Nat} {u : Url} (hreads : word16? written = some number)
      (hport : u.effectivePort? = some number) : PortAccepts (some written) u

/-- Whether a trimmed text admits an address. -/
inductive Admits (text : List Char) (u : Url) : Prop where
  /-- `*` alone admits every web address that has a host. -/
  | everything {host : Host} (htext : text = ['*']) (hhost : u.host = some host)
      (hscheme : IsWebScheme u.scheme) : Admits text u
  /-- Any other text admits the addresses that each of its parts accepts. -/
  | parts {s : PatternSpelling} {host : Host} (htext : text ≠ ['*'])
      (hcut : PatternSpelling.cut text = .ok s) (hhost : u.host = some host)
      (hscheme : SchemeAccepts s.scheme u.scheme) (haccepts : HostAccepts s.host host)
      (hport : PortAccepts s.port u) : Admits text u

/-! ## §2 Schemes -/

namespace PatternSpelling

theorem acceptsScheme_toPattern_iff (source : String) (s : PatternSpelling) (scheme : String) :
    (s.toPattern source).acceptsScheme scheme = true ↔ SchemeAccepts s.scheme scheme := by
  simp only [UrlPattern.acceptsScheme, toPattern]
  cases hwritten : s.scheme with
  | none =>
    simp only [schemePattern, Bool.or_eq_true, beq_iff_eq]
    constructor
    · exact SchemeAccepts.missing
    · rintro ⟨hweb⟩
      exact hweb
  | some written =>
    by_cases hstar : written = ['*']
    · subst hstar
      simp only [schemePattern, beq_self_eq_true, if_true, Bool.or_eq_true, beq_iff_eq]
      constructor
      · exact SchemeAccepts.wildcard
      · intro haccepts
        cases haccepts with
        | wildcard hweb => exact hweb
        | named hnamed => exact absurd rfl hnamed
    · have hnotStar : (written == ['*']) = false := beq_false_of_ne hstar
      simp only [schemePattern, hnotStar]
      by_cases hfile : String.ofList (lower written) = "file"
      · -- the scheme that matches nothing
        simp only [hfile, beq_self_eq_true, if_true]
        constructor
        · intro hfalse
          exact absurd hfalse (by simp)
        · intro haccepts
          cases haccepts with
          | wildcard => exact absurd rfl hstar
          | named _ hsame hnotFile => exact absurd (hsame.trans hfile) hnotFile
      · have hnotFile : (String.ofList (lower written) == "file") = false := beq_false_of_ne hfile
        simp only [hnotFile, Bool.false_eq_true, if_false, beq_iff_eq]
        constructor
        · intro hsame
          exact .named hstar hsame (hsame ▸ hfile)
        · intro haccepts
          cases haccepts with
          | wildcard => exact absurd rfl hstar
          | named _ hsame => exact hsame

/-! ## §3 Hosts -/

end PatternSpelling

/-- Comparing final characters is comparing final labels: a name lies below another exactly if its
last labels are all labels of the other. -/
theorem UrlPattern.isBelow_iff_labels (name host : List Char) :
    UrlPattern.isBelow name host = true ↔ labels name <:+ labels host := by
  unfold labels
  rw [pieces_suffix_iff]
  simp only [UrlPattern.isBelow, Bool.or_eq_true, beq_iff_eq]
  constructor
  · rintro (hsame | hbelow)
    · exact Or.inl hsame
    · cases hdrop : dropFinalRun? name host with
      | none => simp [hdrop] at hbelow
      | some front =>
        -- the part in front of the name ends in a dot
        simp only [hdrop, beq_iff_eq] at hbelow
        obtain ⟨before, hbefore⟩ := List.getLast?_eq_some_iff.mp hbelow
        have hhost : host = front ++ name := dropFinalRun?_eq_some_iff.mp hdrop
        right
        exact ⟨before, by rw [hhost, hbefore, List.append_assoc]; rfl⟩
  · rintro (hsame | ⟨before, hhost⟩)
    · exact Or.inl hsame
    · have hdrop : dropFinalRun? name host = some (before ++ ['.']) :=
        dropFinalRun?_eq_some_iff.mpr (by rw [hhost, List.append_assoc]; rfl)
      right
      simp [hdrop]

namespace PatternSpelling

/-- An address as a pattern accepts just the host that it is. -/
theorem acceptsHost_ip_iff {p : UrlPattern} {address : Ip} (hp : p.host = .ip address)
    (host : Host) : p.acceptsHost host = true ↔ host = address.host := by
  cases host with
  | domain name => cases address <;> simp [UrlPattern.acceptsHost, hp, Ip.host]
  | ipv4 a =>
    cases address with
    | v4 b =>
      simp only [UrlPattern.acceptsHost, hp, Ip.host, beq_iff_eq, Ip.v4.injEq, Host.ipv4.injEq]
      exact eq_comm
    | v6 b => simp [UrlPattern.acceptsHost, hp, Ip.host]
  | ipv6 a =>
    cases address with
    | v4 b => simp [UrlPattern.acceptsHost, hp, Ip.host]
    | v6 b =>
      simp only [UrlPattern.acceptsHost, hp, Ip.host, beq_iff_eq, Ip.v6.injEq, Host.ipv6.injEq]
      exact eq_comm

theorem acceptsHost_below_iff {p : UrlPattern} {name : String} (hp : p.host = .subdomains name)
    (host : Host) :
    p.acceptsHost host = true ↔
      ∃ h, host = .domain h ∧ labels name.toList <:+ labels (lower h.toList) := by
  cases host with
  | domain h => simp [UrlPattern.acceptsHost, hp, UrlPattern.isBelow_iff_labels]
  | ipv4 a => simp [UrlPattern.acceptsHost, hp]
  | ipv6 a => simp [UrlPattern.acceptsHost, hp]

theorem acceptsHost_exact_iff {p : UrlPattern} {name : String} (hp : p.host = .exact name)
    (host : Host) :
    p.acceptsHost host = true ↔ ∃ h, host = .domain h ∧ lowerText h = lowerText name := by
  cases host with
  | domain h => simp [UrlPattern.acceptsHost, hp, sameIgnoringCase]
  | ipv4 a => simp [UrlPattern.acceptsHost, hp]
  | ipv6 a => simp [UrlPattern.acceptsHost, hp]

theorem acceptsHost_toPattern_iff (source : String) (s : PatternSpelling) (host : Host) :
    (s.toPattern source).acceptsHost host = true ↔ HostAccepts s.host host := by
  cases hwritten : s.host with
  | below name =>
    have hp : (s.toPattern source).host = .subdomains (normalName name) := by
      simp [toPattern, hwritten, hostPattern]
    rw [acceptsHost_below_iff hp]
    constructor
    · rintro ⟨h, rfl, hlabels⟩
      exact .below hlabels
    · intro haccepts
      cases haccepts with
      | below hlabels => exact ⟨_, rfl, hlabels⟩
  | literal address =>
    have hp : (s.toPattern source).host = .ip address := by
      simp [toPattern, hwritten, hostPattern]
    rw [acceptsHost_ip_iff hp]
    constructor
    · rintro rfl
      exact .literal address
    · intro haccepts
      cases haccepts with
      | literal => rfl
  | name text =>
    by_cases hstar : text = ['*']
    · subst hstar
      have hany : (s.toPattern source).host = .any := by simp [toPattern, hwritten, hostPattern]
      simp only [UrlPattern.acceptsHost, hany, true_iff]
      exact .any host
    · cases hreads : Ip.ofChars? text with
      | some address =>
        have hp : (s.toPattern source).host = .ip address := by
          simp [toPattern, hwritten, hostPattern, hstar, hreads]
        rw [acceptsHost_ip_iff hp]
        constructor
        · rintro rfl
          exact .address hreads
        · intro haccepts
          cases haccepts with
          | any => exact absurd rfl hstar
          | address hother =>
            rw [Option.some.inj (hreads.symm.trans hother)]
          | name _ hnone => exact absurd (hreads.symm.trans hnone) (by simp)
      | none =>
        have hp : (s.toPattern source).host = .exact (normalName text) := by
          simp [toPattern, hwritten, hostPattern, hstar, hreads]
        rw [acceptsHost_exact_iff hp]
        constructor
        · rintro ⟨h, rfl, hsame⟩
          exact .name hstar hreads hsame
        · intro haccepts
          cases haccepts with
          | any => exact absurd rfl hstar
          | address hother => exact absurd (hreads.symm.trans hother) (by simp)
          | name _ _ hsame => exact ⟨_, rfl, hsame⟩

/-! ## §4 Ports -/

theorem word16?_star : word16? ['*'] = none := by decide

/-- A text that is cut into parts is cut behind its scheme, then into host and port, and each part
is checked. -/
theorem cut_eq_ok_iff {cs : List Char} {s : PatternSpelling} :
    cut cs = .ok s ↔
      ∃ rest,
        ((∃ scheme, cutAtRun? [':', '/', '/'] cs = some (scheme, rest) ∧
            checkScheme scheme = .ok () ∧ s.scheme = some scheme) ∨
          (cutAtRun? [':', '/', '/'] cs = none ∧ rest = cs ∧ s.scheme = none)) ∧
        cutAuthority rest = .ok (s.host, s.port) ∧ checkPort s.port = .ok () := by
  unfold cut
  cases hcut : cutAtRun? [':', '/', '/'] cs with
  | none =>
    simp only [bind_eq_ok_iff, pure_eq_ok_iff]
    constructor
    · rintro ⟨⟨host, port⟩, hauthority, ⟨⟩, hport, rfl⟩
      exact ⟨cs, Or.inr ⟨trivial, rfl, rfl⟩, hauthority, hport⟩
    · rintro ⟨rest, hscheme | ⟨_, rfl, hscheme⟩, hauthority, hport⟩
      · obtain ⟨scheme, hother, _⟩ := hscheme
        exact absurd hother (by simp)
      · obtain ⟨scheme, host, port⟩ := s
        subst hscheme
        exact ⟨(host, port), hauthority, (), hport, rfl⟩
  | some found =>
    obtain ⟨before, behind⟩ := found
    simp only [bind_eq_ok_iff, pure_eq_ok_iff]
    constructor
    · rintro ⟨⟨⟩, hcheck, ⟨host, port⟩, hauthority, ⟨⟩, hport, rfl⟩
      exact ⟨behind, Or.inl ⟨before, rfl, hcheck, rfl⟩, hauthority, hport⟩
    · rintro ⟨rest, ⟨scheme, hother, hcheck, hscheme⟩ | ⟨hother, _⟩, hauthority, hport⟩
      · obtain ⟨scheme', host, port⟩ := s
        cases hother
        subst hscheme
        exact ⟨(), hcheck, (host, port), hauthority, (), hport, rfl⟩
      · exact absurd hother (by simp)

/-- The port of a text that was cut is `*` or a number. -/
theorem port_of_cut {cs : List Char} {s : PatternSpelling} (hcut : cut cs = .ok s)
    {written : List Char} (hport : s.port = some written) :
    written = ['*'] ∨ ∃ number, word16? written = some number := by
  obtain ⟨rest, _, _, hcheck⟩ := cut_eq_ok_iff.mp hcut
  rw [hport] at hcheck
  simp only [checkPort] at hcheck
  split at hcheck
  · rename_i hvalid
    simp only [Bool.or_eq_true, beq_iff_eq, Option.isSome_iff_exists] at hvalid
    exact hvalid
  · cases hcheck

theorem acceptsPort_toPattern_iff (source : String) {s : PatternSpelling}
    (hvalid : ∀ written, s.port = some written →
      written = ['*'] ∨ ∃ number, word16? written = some number) (u : Url) :
    (s.toPattern source).acceptsPort u = true ↔ PortAccepts s.port u := by
  simp only [UrlPattern.acceptsPort, toPattern]
  cases hwritten : s.port with
  | none =>
    simp only [portPattern, UrlPattern.webPort?, beq_iff_eq]
    constructor
    · intro haccepts
      by_cases hhttp : u.scheme = "http"
      · exact .http hhttp (by simpa [hhttp] using haccepts)
      · by_cases hhttps : u.scheme = "https"
        · exact .https hhttps (by simpa [hhttps] using haccepts)
        · simp [hhttp, hhttps] at haccepts
    · intro haccepts
      cases haccepts with
      | http hscheme hport => simp [hscheme, hport]
      | https hscheme hport => simp [hscheme, hport]
  | some written =>
    rcases hvalid written hwritten with rfl | ⟨number, hreads⟩
    · simp only [portPattern, word16?_star, true_iff]
      exact .any u
    · simp only [portPattern, hreads, beq_iff_eq]
      constructor
      · exact .exact hreads
      · intro haccepts
        cases haccepts with
        | any => exact absurd (hreads.symm.trans word16?_star) (by simp)
        | exact hother hport => rw [hport, Option.some.inj (hreads.symm.trans hother)]

end PatternSpelling

/-! ## §5 Whole patterns -/

namespace UrlPattern

/-- A pattern accepts an address if the scheme and the host are there and accepted, and the port
is. -/
theorem accepts_eq_true_iff (p : UrlPattern) (u : Url) :
    p.accepts u = true ↔
      p.acceptsScheme u.scheme = true ∧
        ∃ host, u.host = some host ∧ p.acceptsHost host = true ∧ p.acceptsPort u = true := by
  unfold accepts
  cases u.host with
  | none => simp
  | some host => simp

/-- What is read from a text other than `*` is what its parts stand for. -/
theorem parse_eq_ok_iff {text : String} {p : UrlPattern} (htext : trim text.toList ≠ ['*']) :
    parse text = .ok p ↔
      ∃ s, PatternSpelling.cut (trim text.toList) = .ok s ∧
        s.toPattern (String.ofList (trim text.toList)) = p := by
  have hnotStar : (trim text.toList == ['*']) = false := beq_false_of_ne htext
  simp only [parse, hnotStar, Bool.false_eq_true, if_false]
  cases PatternSpelling.cut (trim text.toList) with
  | ok s => simp
  | error fault => simp

/-- **What a pattern accepts**: an address with a host whose scheme, host and port are accepted by
the written parts of the pattern, and no other. -/
theorem accepts_iff_admits {text : String} {p : UrlPattern} (hparse : parse text = .ok p)
    (u : Url) : p.accepts u = true ↔ Admits (trim text.toList) u := by
  rw [accepts_eq_true_iff]
  by_cases htext : trim text.toList = ['*']
  · have hp : p = any := by
      simp only [parse, htext, beq_self_eq_true, if_true] at hparse
      exact (Except.ok.inj hparse).symm
    subst hp
    constructor
    · rintro ⟨hscheme, host, hhost, _⟩
      exact .everything htext hhost (by simpa [acceptsScheme, any, IsWebScheme] using hscheme)
    · rintro (⟨_, hhost, hscheme⟩ | ⟨hnotStar, _⟩)
      · exact ⟨by simpa [acceptsScheme, any, IsWebScheme] using hscheme, _, hhost, rfl, rfl⟩
      · exact absurd htext hnotStar
  · obtain ⟨s, hcut, rfl⟩ := (parse_eq_ok_iff htext).mp hparse
    have hvalid : ∀ written, s.port = some written →
        written = ['*'] ∨ ∃ number, word16? written = some number :=
      fun _ hport => PatternSpelling.port_of_cut hcut hport
    rw [PatternSpelling.acceptsScheme_toPattern_iff]
    simp only [PatternSpelling.acceptsHost_toPattern_iff,
      PatternSpelling.acceptsPort_toPattern_iff _ hvalid]
    constructor
    · rintro ⟨hscheme, host, hhost, haccepts, hport⟩
      exact .parts htext hcut hhost hscheme haccepts hport
    · rintro (⟨hstar, _⟩ | ⟨_, hcut', hhost, hscheme, haccepts, hport⟩)
      · exact absurd hstar htext
      · cases hcut.symm.trans hcut'
        exact ⟨hscheme, _, hhost, haccepts, hport⟩

/-- A name below a domain under an explicit port. -/
theorem accepts_iff_admits_subdomain :
    let text := "HTTPS://[*.]Example.com:8443/any"
    let p : UrlPattern :=
      { source := text, scheme := .exact "https", host := .subdomains "example.com",
        port := .exact 8443 }
    let u : Url :=
      { scheme := "https", authority := some ⟨"", "", some (.domain "a.b.example.com"), some 8443⟩,
        path := "/", query := none, fragment := none }
    parse text = .ok p ∧ p.accepts u = true ∧
      (p.accepts u = true ↔ Admits (trim text.toList) u) := by
  intro text p u
  have hparse : parse text = .ok p := by decide +kernel
  exact ⟨hparse, by decide +kernel, accepts_iff_admits hparse u⟩

end UrlPattern

end DeviceAccess
