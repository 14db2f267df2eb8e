import Mathlib
import DeviceAccess.Proofs.Pattern.Grammar
import DeviceAccess.Proofs.Text.Blank

/-!
# Patterns with a path

The path of a pattern is read and never looked at, but the mark of a scheme is looked for in the
whole text. So a path behind a pattern changes nothing, unless the pattern has no scheme and the
path has the mark of one: then everything in front of that mark is taken for a scheme, and there is
none with a slash.

- `PatternSpelling.IsWritten.append_path` is the path that changes nothing.
- `UrlPattern.parse_append_path_iff` says when a pattern with a path is the pattern without it.
-/

namespace DeviceAccess

open Text

/-! ## §1 Cuts in longer texts -/

namespace Text

variable {α : Type} {run xs front back : List α}

/-- What follows a text does not move the first occurrence of a run in it. -/
theorem FirstCut.append (h : FirstCut run xs front back) (more : List α) :
    FirstCut run (xs ++ more) front (back ++ more) := by
  refine ⟨by rw [h.joined, List.append_assoc], fun earlier later hxs => ?_⟩
  by_contra hshort
  have hearlier : earlier ++ run <+: xs ++ more := ⟨later, hxs.symm⟩
  have hlength : (earlier ++ run).length ≤ xs.length := by
    rw [h.joined]
    simp only [List.length_append]
    omega
  obtain ⟨rest, hrest⟩ := List.prefix_of_prefix_length_le hearlier (List.prefix_append xs more)
    hlength
  exact hshort (h.first earlier rest hrest.symm)

theorem FirstCut.unique {front' back' : List α} [DecidableEq α] (h : FirstCut run xs front back)
    (h' : FirstCut run xs front' back') : front = front' ∧ back = back' := by
  have hsame := (cutAtRun?_eq_some_iff.mpr h).symm.trans (cutAtRun?_eq_some_iff.mpr h')
  simpa using hsame

theorem FirstCut.isInfix (h : FirstCut run xs front back) : run <:+: xs :=
  ⟨front, back, h.joined.symm⟩

/-- A run does not reach into what has none of its members. -/
theorem infix_append_iff_of_not_mem {ys : List α} (hne : run ≠ []) (h : ∀ r ∈ run, r ∉ ys) :
    run <:+: xs ++ ys ↔ run <:+: xs := by
  refine ⟨fun hrun => ?_, fun hrun => hrun.trans (List.prefix_append xs ys).isInfix⟩
  -- what the run has in the second text is a member that is not there
  rcases List.infix_append_iff.mp hrun with hfront | hback | ⟨before, behind, rfl, hfront, hback⟩
  · exact hfront
  · obtain ⟨r, hr⟩ := List.exists_mem_of_ne_nil run hne
    exact absurd (hback.subset hr) (h r hr)
  · cases behind with
    | nil =>
      rw [List.append_nil]
      exact hfront.isInfix
    | cons r rest =>
      have hr : r ∈ before ++ r :: rest := by simp
      exact absurd (hback.subset List.mem_cons_self) (h r hr)

end Text

/-- Blanks behind a text are no part of the mark of a scheme. -/
theorem schemeMark_infix_append_iff {text blanks : List Char}
    (hblanks : ∀ c ∈ blanks, isBlank c = true) :
    schemeMark <:+: text ++ blanks ↔ schemeMark <:+: text := by
  refine infix_append_iff_of_not_mem (by decide) fun c hc hblank => ?_
  have hall : schemeMark.all (fun c => !isBlank c) = true := by decide
  have hc := List.all_eq_true.mp hall c hc
  rw [hblanks c hblank] at hc
  cases hc

/-! ## §2 Texts without path -/

/-- No slash stands behind the scheme, if there is one. -/
inductive HasNoPath : List Char → Prop where
  | scheme {text scheme rest : List Char} (hcut : FirstCut schemeMark text scheme rest)
      (hslash : '/' ∉ rest) : HasNoPath text
  | noScheme {text : List Char} (hslash : '/' ∉ text) : HasNoPath text

theorem slash_mem_of_hasMark {text : List Char} (h : schemeMark <:+: text) : '/' ∈ text :=
  h.subset (by decide)

theorem IsSchemeSpelling.not_mem_slash {scheme : List Char} (h : IsSchemeSpelling scheme) :
    '/' ∉ scheme := by
  cases h with
  | wildcard => decide
  | name hfirst hothers =>
    intro hmem
    rcases List.mem_cons.mp hmem with hsame | hmem
    · rw [← hsame] at hfirst
      exact absurd hfirst (by decide)
    · rcases hothers '/' hmem with hletter | hsign
      · exact absurd hletter (by decide)
      · exact absurd hsign (by decide)

theorem IsPortSpelling.ne_nil {written : List Char} (h : IsPortSpelling written) :
    written ≠ [] ∧ ':' ∉ written := by
  have hdigit : ∀ {digits : List Char}, (∀ c ∈ digits, c.isDigit = true) → ':' ∉ digits :=
    fun hdigits hmem => absurd (hdigits ':' hmem) (by decide)
  cases h with
  | wildcard => exact ⟨by decide, by decide⟩
  | number hwritten =>
    cases hwritten with
    | plain hne hdigits => exact ⟨hne, hdigit hdigits⟩
    | signed hne hdigits => exact ⟨by simp, by simpa using hdigit hdigits⟩

theorem HostSpelling.IsWritten.getLast?_ne {host : HostSpelling} {written : List Char}
    (h : host.IsWritten written) : written.getLast? ≠ some ':' := by
  have hname : ∀ {name : List Char}, ':' ∉ name → name.getLast? ≠ some ':' :=
    fun hcolon hlast => hcolon (List.mem_of_getLast? hlast)
  cases h with
  | below hne hcolon =>
    rw [List.getLast?_append_of_ne_nil _ hne]
    exact hname hcolon
  | literal hreads =>
    rw [List.getLast?_append_of_ne_nil _ (List.cons_ne_nil ']' [])]
    decide
  | name hne hbracket hcolon => exact hname hcolon

namespace PatternSpelling

variable {s : PatternSpelling} {text : List Char}

/-- The host and the port do not end in a colon: a port is never empty. -/
theorem IsWritten.getLast?_ne (h : s.IsWritten text) {rest host : List Char}
    (hhost : s.host.IsWritten host) (hrest : rest = host ++ fromCut ':' s.port) :
    rest.getLast? ≠ some ':' := by
  rw [hrest]
  cases hport : s.port with
  | none => simpa [fromCut] using hhost.getLast?_ne
  | some written =>
    obtain ⟨hne, hcolon⟩ := (h.port written hport).ne_nil
    rw [fromCut, List.append_cons, List.getLast?_append_of_ne_nil _ hne]
    exact fun hlast => hcolon (List.mem_of_getLast? hlast)

/-- A text without the mark of a scheme is left whole. -/
theorem SplitsScheme.rest_eq {scheme : Option (List Char)} {rest : List Char}
    (hsplit : SplitsScheme text scheme rest) (hnone : ¬schemeMark <:+: text) : rest = text := by
  cases hsplit with
  | written hcut => exact absurd hcut.isInfix hnone
  | missing => rfl

/-- What is cut behind the scheme has no slash, if the text has no path. -/
theorem SplitsScheme.not_mem_slash {scheme : Option (List Char)} {rest : List Char}
    (hsplit : SplitsScheme text scheme rest) (hpath : HasNoPath text) : '/' ∉ rest := by
  cases hsplit with
  | written hcut hscheme =>
    cases hpath with
    | scheme hcut' hslash =>
      obtain ⟨-, rfl⟩ := hcut.unique hcut'
      exact hslash
    | noScheme hslash => exact absurd (slash_mem_of_hasMark hcut.isInfix) hslash
  | missing hmark =>
    cases hpath with
    | scheme hcut hslash => exact absurd hcut.isInfix hmark
    | noScheme hslash => exact hslash

/-- Without a path a text is the host and the port behind the scheme, and does not end in a
colon. -/
theorem IsWritten.exists_rest (h : s.IsWritten text) (hpath : HasNoPath text) :
    ∃ rest host, SplitsScheme text s.scheme rest ∧ s.host.IsWritten host ∧
      rest = host ++ fromCut ':' s.port ∧ '/' ∉ rest ∧ rest.getLast? ≠ some ':' := by
  obtain ⟨rest, host, hsplit, hhost, htake⟩ := h.parts
  have hslash := hsplit.not_mem_slash hpath
  have hrest : rest = host ++ fromCut ':' s.port := by
    rw [← htake, eq_comm, List.takeWhile_eq_self_iff]
    intro c hc
    simpa using ne_of_mem_of_not_mem hc hslash
  exact ⟨rest, host, hsplit, hhost, hrest, hslash, h.getLast?_ne hhost hrest⟩

/-! ## §3 Texts with a path -/

/-- The mark of a scheme does not begin in a text that has no slash and does not end in a colon. -/
theorem not_infix_append_path {path : List Char} (hslash : '/' ∉ text)
    (hlast : text.getLast? ≠ some ':') (hpath : ¬schemeMark <:+: path) :
    ¬schemeMark <:+: text ++ '/' :: path := by
  intro hmark
  rcases List.infix_append_iff.mp hmark with
    htext | hbehind | ⟨before, behind, hsplit, hfront, hback⟩
  · exact hslash (slash_mem_of_hasMark htext)
  · rcases List.infix_cons_iff.mp hbehind with hstart | hinside
    · exact absurd (List.cons_prefix_cons.mp hstart).1 (by decide)
    · exact hpath hinside
  · -- the mark begins in the text: with its colon at the end, or with a slash behind it
    match before, hsplit, hfront with
    | [], hsplit, _ =>
      rw [List.nil_append] at hsplit
      rw [← hsplit] at hback
      exact absurd (List.cons_prefix_cons.mp hback).1 (by decide)
    | [c], hsplit, hfront =>
      obtain ⟨rfl, -⟩ := List.cons.inj hsplit
      obtain ⟨front, rfl⟩ := hfront
      simp at hlast
    | c :: d :: more, hsplit, hfront =>
      obtain ⟨-, htail⟩ := List.cons.inj hsplit
      obtain ⟨rfl, -⟩ := List.cons.inj htail
      exact hslash (hfront.subset (by simp))

theorem SplitsScheme.append_path {scheme : Option (List Char)} {rest path : List Char}
    (h : SplitsScheme text scheme rest) (hslash : '/' ∉ rest) (hlast : rest.getLast? ≠ some ':')
    (hmark : schemeMark <:+: text ∨ ¬schemeMark <:+: path) :
    SplitsScheme (text ++ '/' :: path) scheme (rest ++ '/' :: path) := by
  cases h with
  | written hcut hscheme => exact .written (hcut.append _) hscheme
  | missing hnone => exact .missing (not_infix_append_path hslash hlast (hmark.resolve_left hnone))

/-- A path changes none of the parts. -/
theorem IsWritten.append_path (h : s.IsWritten text) (hpath : HasNoPath text) {path : List Char}
    (hmark : schemeMark <:+: text ∨ ¬schemeMark <:+: path) :
    s.IsWritten (text ++ '/' :: path) := by
  obtain ⟨rest, host, hsplit, hhost, hrest, hslash, hlast⟩ := h.exists_rest hpath
  refine ⟨⟨_, host, hsplit.append_path hslash hlast hmark, hhost, ?_⟩, h.port⟩
  rw [takeWhile_append_cons hslash, hrest]

theorem checkScheme_of_slash {scheme : List Char} (h : '/' ∈ scheme) :
    checkScheme scheme = .error (.scheme scheme) := by
  have hnot : checkScheme scheme ≠ .ok () :=
    fun hok => (checkScheme_eq_ok_iff.mp hok).not_mem_slash h
  unfold checkScheme at hnot ⊢
  split at hnot
  · rename_i hempty
    rw [List.isEmpty_iff.mp hempty] at h
    cases h
  · rename_i hne
    split at hnot
    · exact absurd rfl hnot
    · rename_i hother
      rw [if_neg hne, if_neg hother]

/-- With the mark of a scheme in the path of a text without scheme, everything before the mark is
taken for the scheme, and there is a slash in it. -/
theorem cut_append_path_of_mark (h : s.IsWritten text) (hpath : HasNoPath text)
    (hnone : ¬schemeMark <:+: text) {path : List Char} (hmark : schemeMark <:+: path) :
    ∃ scheme, cut (text ++ '/' :: path) = .error (.scheme scheme) := by
  obtain ⟨rest, host, hsplit, -, -, hslash, hlast⟩ := h.exists_rest hpath
  rw [hsplit.rest_eq hnone] at hslash hlast
  have hwhole : schemeMark <:+: text ++ '/' :: path :=
    hmark.trans ((List.suffix_cons '/' path).trans (List.suffix_append text _)).isInfix
  cases hcut : cutAtRun? schemeMark (text ++ '/' :: path) with
  | none => exact absurd hwhole (cutAtRun?_eq_none_iff.mp hcut)
  | some found =>
    obtain ⟨scheme, behind⟩ := found
    have hinScheme : '/' ∈ scheme := by
      by_contra hnot
      -- the first slash would be that of the mark, so the text would end in its colon
      have hfront : text ++ '/' :: path = scheme ++ [':'] ++ '/' :: '/' :: behind := by
        rw [(cutAtRun?_eq_some_iff.mp hcut).joined, schemeMark]
        simp
      have hslash' : '/' ∉ scheme ++ [':'] := by simpa using hnot
      have htake := beforePath_append hslash ('/' :: path)
      rw [hfront, beforePath_append hslash'] at htake
      have hsame : scheme ++ [':'] = text := by simpa [beforePath, cutAt] using htake
      rw [← hsame] at hlast
      simp at hlast
    refine ⟨scheme, ?_⟩
    unfold cut
    rw [← schemeMark, hcut]
    simp only [checkScheme_of_slash hinScheme]
    rfl

end PatternSpelling

namespace UrlPattern

/-! ## §4 Patterns with a path -/

/-- What a pattern accepts does not depend on the text it was read from. -/
theorem accepts_toPattern (source other : String) (s : PatternSpelling) (u : Url) :
    (s.toPattern source).accepts u = (s.toPattern other).accepts u := rfl

theorem parse_eq_error_of_cut {text : String} {fault : PatternFault}
    (htext : trim text.toList ≠ ['*'])
    (hcut : PatternSpelling.cut (trim text.toList) = .error fault) :
    parse text = .error (.pattern (trimText text) fault.reason) := by
  have hnotStar : (trim text.toList == ['*']) = false := beq_false_of_ne htext
  simp only [parse, hnotStar, hcut, trimText, Bool.false_eq_true, if_false]

variable {text : String} {p : UrlPattern} {path : String}

theorem trim_toList (htrim : trimText text = text) : trim text.toList = text.toList := by
  have hchars := congrArg String.toList htrim
  rwa [trimText, String.toList_ofList] at hchars

/-- Of a trimmed text with a path only the blanks at the end of the path can go. -/
theorem trim_append_path (htrim : trimText text = text) (path : String) :
    trim (text ++ "/" ++ path).toList = text.toList ++ '/' :: path.toList.rdropWhile isBlank := by
  have hwhole : (text ++ "/" ++ path).toList = text.toList ++ '/' :: path.toList := by simp
  rw [hwhole]
  exact stripBoth_append_cons (fun _ hx => head?_of_stripBoth_eq (trim_toList htrim) hx)
    (by decide) _

theorem trim_append_path_ne_star (htrim : trimText text = text) (path : String) :
    trim (text ++ "/" ++ path).toList ≠ ['*'] := by
  rw [trim_append_path htrim]
  exact ne_star_of_slash_mem (by simp)

theorem schemeMark_infix_rdropWhile_iff (path : List Char) :
    schemeMark <:+: path.rdropWhile isBlank ↔ schemeMark <:+: path := by
  have hblanks : ∀ c ∈ path.rtakeWhile isBlank, isBlank c = true :=
    fun _ hc => List.mem_rtakeWhile_imp hc
  rw [← schemeMark_infix_append_iff hblanks, List.rdropWhile_append_rtakeWhile]

/-- The parts of a pattern that is a trimmed text other than `*`. -/
theorem exists_isWritten (hparse : parse text = .ok p) (htrim : trimText text = text)
    (hstar : text ≠ "*") :
    ∃ s : PatternSpelling, s.IsWritten text.toList ∧ s.toPattern text = p := by
  have hchars := trim_toList htrim
  have hnotStar : trim text.toList ≠ ['*'] := by
    rw [hchars]
    exact fun h => hstar (String.toList_injective h)
  obtain ⟨s, hcut, hpattern⟩ := (parse_eq_ok_iff hnotStar).mp hparse
  rw [hchars] at hcut hpattern
  rw [String.ofList_toList] at hpattern
  exact ⟨s, PatternSpelling.cut_eq_ok_iff_isWritten.mp hcut, hpattern⟩

/-- A path is not looked at, if the mark of a scheme is found before it or not at all. -/
theorem parse_append_path (hparse : parse text = .ok p) (htrim : trimText text = text)
    (hstar : text ≠ "*") (hpath : HasNoPath text.toList)
    (hmark : schemeMark <:+: text.toList ∨ ¬schemeMark <:+: path.toList) :
    ∃ longer, parse (text ++ "/" ++ path) = .ok longer ∧ ∀ u, longer.accepts u = p.accepts u := by
  obtain ⟨s, hwritten, rfl⟩ := exists_isWritten hparse htrim hstar
  rw [← schemeMark_infix_rdropWhile_iff path.toList] at hmark
  have hlonger := hwritten.append_path hpath hmark
  rw [← trim_append_path htrim, ← PatternSpelling.cut_eq_ok_iff_isWritten] at hlonger
  have hread := (parse_eq_ok_iff (trim_append_path_ne_star htrim path)).mpr ⟨s, hlonger, rfl⟩
  exact ⟨_, hread, accepts_toPattern _ _ s⟩

/-- A mark in the path of a text without scheme makes a scheme of all that stands before it. -/
theorem parse_append_path_of_mark (hparse : parse text = .ok p) (htrim : trimText text = text)
    (hstar : text ≠ "*") (hpath : HasNoPath text.toList) (path : String)
    (hnone : ¬schemeMark <:+: text.toList) (hmark : schemeMark <:+: path.toList) :
    ∃ scheme, parse (text ++ "/" ++ path) =
      .error (.pattern (trimText (text ++ "/" ++ path)) (PatternFault.scheme scheme).reason) := by
  obtain ⟨s, hwritten, rfl⟩ := exists_isWritten hparse htrim hstar
  rw [← schemeMark_infix_rdropWhile_iff path.toList] at hmark
  obtain ⟨scheme, hcut⟩ := PatternSpelling.cut_append_path_of_mark hwritten hpath hnone hmark
  rw [← trim_append_path htrim] at hcut
  exact ⟨scheme, parse_eq_error_of_cut (trim_append_path_ne_star htrim path) hcut⟩

/-- **A path behind a pattern** changes nothing about which addresses are accepted, if the pattern
names its scheme or the path has no mark of one. Otherwise the text is refused, since what stands
before the mark is no scheme. -/
theorem parse_append_path_iff {text : String} {p : UrlPattern} (hparse : parse text = .ok p)
    (htrim : trimText text = text) (hstar : text ≠ "*") (hpath : HasNoPath text.toList)
    (path : String) :
    ((∃ longer, parse (text ++ "/" ++ path) = .ok longer ∧ ∀ u, longer.accepts u = p.accepts u) ↔
        schemeMark <:+: text.toList ∨ ¬schemeMark <:+: path.toList) ∧
      (¬schemeMark <:+: text.toList → schemeMark <:+: path.toList →
        ∃ scheme, parse (text ++ "/" ++ path) =
          .error (.pattern (trimText (text ++ "/" ++ path))
            (PatternFault.scheme scheme).reason)) := by
  have hrefused := parse_append_path_of_mark hparse htrim hstar hpath path
  refine ⟨⟨fun hread => ?_, parse_append_path hparse htrim hstar hpath⟩, hrefused⟩
  by_contra hneither
  rw [not_or, not_not] at hneither
  obtain ⟨longer, hlonger, -⟩ := hread
  obtain ⟨scheme, herror⟩ := hrefused hneither.1 hneither.2
  cases hlonger.symm.trans herror

/-- Behind a scheme a path may have every delimiter there is. -/
theorem parse_append_path_iff_delimiters :
    let text := "https://[*.]example.com:8443"
    let path := "a/://b]:*?[::1] "
    let p : UrlPattern :=
      { source := text, scheme := .exact "https", host := .subdomains "example.com",
        port := .exact 8443 }
    parse text = .ok p ∧ trimText text = text ∧ text ≠ "*" ∧ HasNoPath text.toList ∧
      schemeMark <:+: path.toList ∧
      ∃ longer, parse (text ++ "/" ++ path) = .ok longer ∧ ∀ u, longer.accepts u = p.accepts u := by
  intro text path p
  have hparse : parse text = .ok p := by decide +kernel
  have htrim : trimText text = text := by decide +kernel
  have hcut : FirstCut schemeMark text.toList "https".toList "[*.]example.com:8443".toList :=
    cutAtRun?_eq_some_iff.mp (by decide)
  have hpath : HasNoPath text.toList := .scheme hcut (by decide)
  exact ⟨hparse, htrim, by decide, hpath, by decide,
    (parse_append_path_iff hparse htrim (by decide) hpath path).1.mpr (.inl hcut.isInfix)⟩

/-- A path that makes a pattern of a host alone none. -/
theorem refused_of_mark_in_path :
    let text := "example.com"
    let path := "://x"
    (∃ p, parse text = .ok p) ∧ trimText text = text ∧ text ≠ "*" ∧ HasNoPath text.toList ∧
      parse (text ++ "/" ++ path) =
        .error (.pattern "example.com/://x" "invalid scheme 'example.com/'") := by
  intro text path
  exact ⟨⟨⟨text, .web, .exact text, .default⟩, by decide +kernel⟩, by decide +kernel, by decide,
    .noScheme (by decide), by decide +kernel⟩

end UrlPattern

end DeviceAccess
