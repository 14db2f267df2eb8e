import Mathlib
import DeviceAccess.Proofs.Pattern.Grammar
import DeviceAccess.Proofs.Routing.LetterCase
import DeviceAccess.Proofs.Text.Blank
import DeviceAccess.Proofs.Url.Authority
import DeviceAccess.Proofs.Url.BareHost

/-!
# Patterns that are addresses

A web address without credentials is a pattern as it stands. Each part of it stands for itself: the
scheme is a name of one, the host is a name in its normal form or an internet address, the port is a
number or the default, and the rest is a path, which is not looked at. So the pattern accepts the
addresses with the same scheme, host and port.

- `Url.originPattern` is the pattern of an origin, and `Url.accepts_originPattern_iff` what it
  accepts.
- `UrlPattern.exists_parse_text_iff_sameOrigin` says that the text of the address is read as that
  pattern.
-/

namespace DeviceAccess

open Text

/-! ## §1 Origins -/

namespace Url

/-- The addresses have the same scheme, the same host, and the same port, be it written or the
default of the scheme. -/
structure SameOrigin (u v : Url) : Prop where
  scheme : v.scheme = u.scheme
  host : v.host = u.host
  port : v.effectivePort? = u.effectivePort?

end Url

namespace Host

/-- How a pattern writes a host: an address of eight groups stands in brackets. -/
def spelling : Host → HostSpelling
  | .domain name => .name name.toList
  | .ipv4 address => .name address.toChars
  | .ipv6 address => .literal (.v6 address)

/-- The pattern of a host alone. -/
def pattern : Host → HostPattern
  | .domain name => .exact name
  | .ipv4 address => .ip (.v4 address)
  | .ipv6 address => .ip (.v6 address)

end Host

namespace Url

/-- The parts of the text of an address as a pattern writes them. -/
def spelling (u : Url) (h : Host) : PatternSpelling :=
  { scheme := some u.scheme.toList, host := h.spelling, port := u.port.map decimal }

/-- The pattern of the origin of an address. -/
def originPattern (u : Url) (h : Host) (source : String) : UrlPattern :=
  { source, scheme := .exact u.scheme, host := h.pattern,
    port := match u.port with
      | none => .default
      | some number => .exact number }

end Url

theorem IsWebScheme.isSpecial {scheme : String} (h : IsWebScheme scheme) :
    Url.isSpecial scheme = true ∧ scheme ≠ "file" := by
  rcases h with rfl | rfl <;> decide

/-! ## §2 What the pattern of an origin accepts -/

namespace Host

/-- A host is accepted by the pattern of a host, if neither has capitals, exactly if it is that
host. -/
theorem acceptsHost_iff {p : UrlPattern} {h h' : Host} (hp : p.host = h.pattern)
    (hsmall : hasNoCapital h.toChars = true) (hsmall' : hasNoCapital h'.toChars = true) :
    p.acceptsHost h' = true ↔ h' = h := by
  cases h with
  | ipv4 address => exact PatternSpelling.acceptsHost_ip_iff hp h'
  | ipv6 address => exact PatternSpelling.acceptsHost_ip_iff hp h'
  | domain name =>
    have hkept : ∀ {name : String}, hasNoCapital name.toList = true → lowerText name = name := by
      intro name hname
      rw [lowerText, hasNoCapital_iff_lower_eq.mp hname, String.ofList_toList]
    -- names are compared without the case of their letters, and these two have small ones only
    rw [PatternSpelling.acceptsHost_exact_iff hp]
    constructor
    · rintro ⟨other, rfl, hsame⟩
      rw [hkept hsmall, hkept hsmall'] at hsame
      rw [hsame]
    · rintro rfl
      exact ⟨name, rfl, rfl⟩

end Host

namespace Url

variable {u v : Url} {h : Host}

theorem webPort?_eq_defaultPort? (hweb : IsWebScheme u.scheme) :
    UrlPattern.webPort? u.scheme = defaultPort? u.scheme ∧ (defaultPort? u.scheme).isSome := by
  rcases hweb with hscheme | hscheme <;> rw [hscheme] <;> decide

/-- Under the same scheme no port and the default port are the same. -/
theorem acceptsPort_originPattern_iff (source : String) (hweb : IsWebScheme u.scheme)
    (hscheme : v.scheme = u.scheme) :
    (u.originPattern h source).acceptsPort v = true ↔ v.effectivePort? = u.effectivePort? := by
  obtain ⟨hdefault, hsome⟩ := webPort?_eq_defaultPort? hweb
  obtain ⟨number, hnumber⟩ := Option.isSome_iff_exists.mp hsome
  unfold UrlPattern.acceptsPort originPattern effectivePort?
  rw [hscheme, hdefault, hnumber]
  cases u.port <;> simp

/-- **What the pattern of an origin accepts**: the addresses of that origin. -/
theorem accepts_originPattern_iff (source : String) (hread : u.IsRead)
    (hweb : IsWebScheme u.scheme) (hhost : u.host = some h) (hv : v.IsRead) :
    (u.originPattern h source).accepts v = true ↔ SameOrigin u v := by
  have hspecial := hweb.isSpecial.1
  have hsmall : ∀ {w : Url} {h : Host}, w.IsRead → isSpecial w.scheme = true → w.host = some h →
      hasNoCapital h.toChars = true := by
    intro w h hw hscheme hhost
    have htext := hw.hasNoCapital_hostText hscheme
    rwa [hostText_eq_of_host hhost, Host.toList_text] at htext
  rw [UrlPattern.accepts_eq_true_iff]
  constructor
  · rintro ⟨hscheme, host, hvhost, haccepts, hport⟩
    have hscheme : v.scheme = u.scheme := eq_of_beq hscheme
    have hvsmall := hsmall hv (hscheme ▸ hspecial) hvhost
    refine ⟨hscheme, ?_, (acceptsPort_originPattern_iff source hweb hscheme).mp hport⟩
    rw [hvhost, hhost, (Host.acceptsHost_iff rfl (hsmall hread hspecial hhost) hvsmall).mp haccepts]
  · rintro ⟨hscheme, hvhost, hport⟩
    rw [hhost] at hvhost
    have hvsmall := hsmall hread hspecial hhost
    exact ⟨beq_iff_eq.mpr hscheme, h, hvhost, (Host.acceptsHost_iff rfl hvsmall hvsmall).mpr rfl,
      (acceptsPort_originPattern_iff source hweb hscheme).mpr hport⟩

end Url

/-! ## §3 The parts of an address stand for themselves -/

/-- A name that was read is in its normal form. -/
theorem Host.IsName.normalName {name : String} (h : IsName name.toList) :
    PatternSpelling.normalName name.toList = name := by
  have hsmall : hasNoCapital name.toList = true :=
    hasNoCapital_eq_true_iff.mpr fun c hc => (h.isHostChar c hc).not_isUpper
  have hlower : lower name.toList = name.toList := hasNoCapital_iff_lower_eq.mp hsmall
  have hpercent : '%' ∉ name.toList := h.not_mem (by decide)
  have hplain : ∀ c ∈ name.toList, HostName.isAscii c = true ∧ c ≠ '%' :=
    fun c hc => ⟨(h.isHostChar c hc).1, ne_of_mem_of_not_mem hc hpercent⟩
  unfold PatternSpelling.normalName
  split
  · rename_i other hread
    have hsame := Host.domain_of_isPlain hplain hread
    rw [hlower] at hsame
    exact String.toList_injective hsame
  · rw [hlower, String.ofList_toList]

namespace Host

theorem hostPattern_spelling {cs : List Char} {h : Host} (hread : ofChars cs = .ok h)
    (hstar : h.text ≠ "*") : PatternSpelling.hostPattern h.spelling = h.pattern := by
  cases h with
  | domain name =>
    have hname := isName_of_ofChars hread
    have hnotStar : name.toList ≠ ['*'] := by
      intro hsame
      rw [text_domain] at hstar
      exact hstar (String.toList_injective hsame)
    simp [spelling, pattern, PatternSpelling.hostPattern, hnotStar, hname.ofChars?_eq_none,
      hname.normalName]
  | ipv4 address =>
    have hreads := Ip.ofChars?_v4 address
    have hnotStar : address.toChars ≠ ['*'] := by
      intro hsame
      rw [hsame] at hreads
      exact absurd hreads (by simp [show Ip.ofChars? ['*'] = none by decide])
    simp [spelling, pattern, PatternSpelling.hostPattern, hnotStar, hreads]
  | ipv6 address => rfl

/-- The text of a host that was read is the host of a pattern and has no slash. -/
theorem isWritten_spelling {cs : List Char} {h : Host} (hread : ofChars cs = .ok h) :
    h.spelling.IsWritten h.toChars ∧ '/' ∉ h.toChars := by
  cases h with
  | domain name =>
    have hname := isName_of_ofChars hread
    have hbracket : '[' ∉ name.toList := hname.not_mem (by decide)
    exact ⟨.name hname.ne_nil (fun hhead => hbracket (List.mem_of_head? hhead))
      (hname.not_mem (by decide)), hname.not_mem (by decide)⟩
  | ipv4 address =>
    have hdotted := Ipv4.ofDotted?_toChars address
    have hchars := Ipv4.isDigit_or_dot_of_ofDotted? hdotted
    have hnot : ∀ {c : Char}, c.isDigit = false → c ≠ '.' → c ∉ address.toChars := by
      intro c hdigit hdot hmem
      rcases hchars c hmem with hyes | hyes
      · rw [hdigit] at hyes
        cases hyes
      · exact hdot hyes
    have hne : address.toChars ≠ [] := by
      intro hnil
      rw [hnil] at hdotted
      exact absurd hdotted (by simp [show Ipv4.ofDotted? [] = none by decide])
    have hbracket : '[' ∉ address.toChars := hnot (by decide) (by decide)
    exact ⟨.name hne (fun hhead => hbracket (List.mem_of_head? hhead))
      (hnot (by decide) (by decide)), hnot (by decide) (by decide)⟩
  | ipv6 address =>
    have hreads := Ip.ofChars?_v6 address
    have hslash : '/' ∉ address.toChars := by
      intro hmem
      exact (Ip.isAddressChar_of_ofChars? hreads '/' hmem).not_mark (by decide)
    exact ⟨.literal hreads, by simpa [toChars] using hslash⟩

end Host

namespace Url

variable {u : Url} {h : Host}

theorem port_of_isNetwork (hu : u.IsNetwork) {written : List Char}
    (hwritten : u.port.map decimal = some written) :
    ∃ number, u.port = some number ∧ word16? written = some number := by
  obtain ⟨number, hnumber, rfl⟩ := Option.map_eq_some_iff.mp hwritten
  exact ⟨number, hnumber, boundedNat?_decimal (hu.port number hnumber)⟩

theorem toPattern_spelling (source : String) (hu : u.IsNetwork) (hweb : IsWebScheme u.scheme)
    {cs : List Char} (hread : Host.ofChars cs = .ok h) (hstar : h.text ≠ "*") :
    (u.spelling h).toPattern source = u.originPattern h source := by
  have hscheme : PatternSpelling.schemePattern (some u.scheme.toList) = .exact u.scheme := by
    rcases hweb with hscheme | hscheme <;> rw [hscheme] <;> decide
  have hport : PatternSpelling.portPattern (u.port.map decimal) =
      match u.port with
      | none => .default
      | some number => .exact number := by
    cases hnumber : u.port with
    | none => rfl
    | some number =>
      have hreads : word16? (decimal number) = some number :=
        boundedNat?_decimal (hu.port number hnumber)
      simp [PatternSpelling.portPattern, hreads]
  unfold PatternSpelling.toPattern originPattern spelling
  simp only [hscheme, hport, Host.hostPattern_spelling hread hstar]

theorem not_mem_port {c : Char} (hcolon : c ≠ ':') (hdigit : c.isDigit = false) :
    c ∉ fromCut ':' (u.port.map decimal) := by
  cases u.port with
  | none => exact List.not_mem_nil
  | some number =>
    intro hmem
    rcases List.mem_cons.mp hmem with hsame | hmem
    · exact hcolon hsame
    · rw [Nat.isDigit_of_mem_toDigits (by decide) (by decide) hmem] at hdigit
      cases hdigit

/-- A text that begins with a scheme, a host and a port, and goes on with a path. -/
theorem isWritten_spelling (hu : u.IsNetwork) (hweb : IsWebScheme u.scheme) {cs : List Char}
    (hread : Host.ofChars cs = .ok h) (path : List Char) :
    (u.spelling h).IsWritten (u.scheme.toList ++ schemeMark ++
      (h.toChars ++ fromCut ':' (u.port.map decimal) ++ '/' :: path)) := by
  obtain ⟨hhost, hslash⟩ := Host.isWritten_spelling hread
  have hcut : FirstCut schemeMark (u.scheme.toList ++ schemeMark ++
      (h.toChars ++ fromCut ':' (u.port.map decimal) ++ '/' :: path)) u.scheme.toList
      (h.toChars ++ fromCut ':' (u.port.map decimal) ++ '/' :: path) := by
    -- no mark begins in the scheme, and what follows may have as many as it likes
    refine FirstCut.of_not_infix ?_ _
    rcases hweb with hscheme | hscheme <;> rw [hscheme] <;> decide
  have hscheme : IsSchemeSpelling u.scheme.toList := by
    rw [← PatternSpelling.checkScheme_eq_ok_iff]
    rcases hweb with hscheme | hscheme <;> rw [hscheme] <;> decide
  have hbefore : '/' ∉ h.toChars ++ fromCut ':' (u.port.map decimal) := by
    rw [List.mem_append, not_or]
    exact ⟨hslash, not_mem_port (by decide) (by decide)⟩
  refine ⟨⟨_, h.toChars, .written hcut hscheme, hhost, takeWhile_append_cons hbefore path⟩,
    fun written hwritten => ?_⟩
  · obtain ⟨number, _, hreads⟩ := port_of_isNetwork hu hwritten
    exact .number (boundedNat?_eq_some_iff.mp hreads)

end Url

namespace UrlPattern

variable {u : Url} {h : Host}

/-- The text of a web address is read as the pattern of its origin. -/
theorem parse_text_of_isNetwork (hu : u.IsNetwork) (hweb : IsWebScheme u.scheme)
    (hcredentials : u.credentials = some ("", "")) (hhost : u.host = some h) {cs : List Char}
    (hread : Host.ofChars cs = .ok h) (hstar : h.text ≠ "*") :
    parse u.text = .ok (u.originPattern h (trimText u.text)) := by
  obtain ⟨rest, htext⟩ := hu.toList_text hcredentials hhost
  have hfront : ∀ c, (u.scheme.toList ++ schemeMark ++
      (h.toChars ++ fromCut ':' (u.port.map decimal))).head? = some c → isBlank c = false := by
    intro c hc
    rcases hweb with hscheme | hscheme
    all_goals
      rw [hscheme] at hc
      cases hc
      decide
  have htrim : trim u.text.toList = u.scheme.toList ++ schemeMark ++
      (h.toChars ++ fromCut ':' (u.port.map decimal) ++ '/' :: rest.rdropWhile isBlank) := by
    have hslash : isBlank '/' = false := by decide
    rw [htext]
    exact (stripBoth_append_cons hfront hslash rest).trans (List.append_assoc _ _ _)
  have hnotStar : trim u.text.toList ≠ ['*'] := ne_star_of_slash_mem (by simp [htrim])
  have hwritten := Url.isWritten_spelling hu hweb hread (rest.rdropWhile isBlank)
  rw [← htrim, ← PatternSpelling.cut_eq_ok_iff_isWritten] at hwritten
  rw [← Url.toPattern_spelling _ hu hweb hread hstar, parse_eq_ok_iff hnotStar]
  exact ⟨_, hwritten, rfl⟩

/-- **A pattern that is an address**: a web address without credentials, with a host other than `*`,
is a pattern that accepts the addresses of the same origin. -/
theorem exists_parse_text_iff_sameOrigin {u : Url} (hread : u.IsRead) (hweb : IsWebScheme u.scheme)
    (hcredentials : u.credentials = some ("", "")) (hstar : u.hostText ≠ "*") :
    ∃ p, parse u.text = .ok p ∧ ∀ v : Url, v.IsRead → (p.accepts v = true ↔ u.SameOrigin v) := by
  obtain ⟨hspecial, hfile⟩ := hweb.isSpecial
  have hu := hread.isNetwork hspecial hfile
  obtain ⟨h, hhost⟩ := Option.isSome_iff_exists.mp hu.host
  obtain ⟨cs, hhostRead⟩ := hread.isReadFor hhost
  rw [if_pos hspecial] at hhostRead
  rw [Url.hostText_eq_of_host hhost] at hstar
  exact ⟨_, parse_text_of_isNetwork hu hweb hcredentials hhost hhostRead hstar,
    fun _ hv => Url.accepts_originPattern_iff _ hread hweb hhost hv⟩

/-- An address of eight groups with a port, and the mark of a scheme in its query. -/
theorem exists_parse_text_iff_sameOrigin_literal :
    let u : Url :=
      { scheme := "http",
        authority := some
          ⟨"", "", some (.ipv6 ⟨[0x2001, 0xdb8, 0, 0, 0, 0, 0, 1], by decide⟩), some 8080⟩,
        path := "/a%20b", query := some "x://y", fragment := none }
    u.IsRead ∧ IsWebScheme u.scheme ∧ u.credentials = some ("", "") ∧ u.hostText ≠ "*" ∧
      ∃ p, parse u.text = .ok p ∧
        ∀ v : Url, v.IsRead → (p.accepts v = true ↔ u.SameOrigin v) := by
  intro u
  have hread : u.IsRead := ⟨"http://[2001:DB8:0::1]:8080/a b?x://y", by decide +kernel⟩
  have hstar : u.hostText ≠ "*" := by decide +kernel
  exact ⟨hread, .inl rfl, rfl, hstar, exists_parse_text_iff_sameOrigin hread (.inl rfl) rfl hstar⟩

end UrlPattern

end DeviceAccess
