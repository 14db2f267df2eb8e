import Mathlib
import DeviceAccess.Proofs.Text.Utf8
import DeviceAccess.Url.Host

/-!
# Hosts in either case

A host is read in the same way in small letters and in capitals, whether it is a name, an internet
address in either notation, or none at all. Percent spellings are no exception: a letter that is
spelled out stays, and what it stands for is made small with the rest of the name.
-/

namespace DeviceAccess

open Text

/-! ## §1 Internet addresses -/

theorem Ipv4.strictOctet?_lower (cs : List Char) : strictOctet? (lower cs) = strictOctet? cs := by
  have hzero : ((lower cs).head? != some '0') = (cs.head? != some '0') := by
    cases cs with
    | nil => rfl
    | cons c cs => exact apply_toLower (fun d => some d != some '0') (by decide) c
  simp only [strictOctet?, natOfDigits?_lower, length_lower, hzero]

theorem Ipv4.ofDotted?_lower (cs : List Char) : ofDotted? (lower cs) = ofDotted? cs := by
  rw [ofDotted?, pieces_lower (by decide), mapM_map_lower strictOctet?_lower]
  rfl

namespace Ipv6

theorem group?_lower (cs : List Char) : group? (lower cs) = group? cs := by
  have hdigit : ∀ c : Char, isHexDigit c.toLower = isHexDigit c :=
    apply_toLower isHexDigit (by decide)
  simp only [group?, isEmpty_lower, length_lower, all_lower hdigit, digitsValue_lower]

theorem go_map_lower (dottedTail : Bool) (parts : List (List Char)) :
    groups?.go dottedTail (parts.map lower) = groups?.go dottedTail parts := by
  induction parts with
  | nil => rfl
  | cons part rest ih =>
    cases rest with
    | nil => simp only [List.map_cons, List.map_nil, groups?.go, group?_lower, Ipv4.ofDotted?_lower]
    | cons next rest =>
      simp only [List.map_cons] at ih ⊢
      simp only [groups?.go, group?_lower, ih]

theorem groups?_lower (dottedTail : Bool) (cs : List Char) :
    groups? dottedTail (lower cs) = groups? dottedTail cs := by
  have hpieces : pieces ':' (lower cs) = (pieces ':' cs).map lower := pieces_lower (by decide) cs
  simp only [groups?, isEmpty_lower, hpieces, go_map_lower]

theorem ofChars?_lower (cs : List Char) : ofChars? (lower cs) = ofChars? cs := by
  unfold ofChars?
  rw [cutAtRun?_lower (by decide)]
  cases cutAtRun? [':', ':'] cs with
  | none => simp only [Option.map_none, groups?_lower]
  | some found => simp only [Option.map_some, groups?_lower]

end Ipv6

/-- **Internet addresses** are read in the same way in either case. -/
theorem Ip.ofChars?_lower (cs : List Char) : Ip.ofChars? (lower cs) = Ip.ofChars? cs := by
  simp only [Ip.ofChars?, Ipv4.ofDotted?_lower, Ipv6.ofChars?_lower]

/-! ## §2 Names -/

namespace Url

/-- A character that begins no percent spelling stands for itself. -/
theorem percentDecode_cons {c : Char} {rest : List Char}
    (hnone : ∀ hi lo more, c = '%' → rest = hi :: lo :: more →
      digitValue? hi = none ∨ digitValue? lo = none) :
    percentDecode (c :: rest) = utf8 [c] ++ percentDecode rest := by
  rw [percentDecode.eq_def]
  split
  · rename_i hnil
    cases hnil
  · rename_i hi lo more hcons
    obtain ⟨rfl, rfl⟩ := List.cons.inj hcons
    rcases hnone hi lo more rfl rfl with hhi | hlo
    · simp only [hhi]
    · cases hhi : digitValue? hi with
      | none => rfl
      | some h => simp only [hlo]
  · rename_i hcons
    obtain ⟨rfl, rfl⟩ := List.cons.inj hcons
    rfl

theorem lowerOctets_utf8_toLower (c : Char) :
    lowerOctets (utf8 [c.toLower]) = lowerOctets (utf8 [c]) := by
  have htwice : c.toLower.toLower = c.toLower := Char.toLower_eq_of_not_isUpper (by simp)
  rw [lowerOctets_utf8, lowerOctets_utf8]
  simp [lower, htwice]

/-- A step over a character that begins no percent spelling in either case. -/
theorem lowerOctets_percentDecode_cons {c : Char} {rest : List Char}
    (hnone : ∀ hi lo more, c = '%' → rest = hi :: lo :: more →
      digitValue? hi = none ∨ digitValue? lo = none)
    (ih : lowerOctets (percentDecode (lower rest)) = lowerOctets (percentDecode rest)) :
    lowerOctets (percentDecode (lower (c :: rest))) = lowerOctets (percentDecode (c :: rest)) := by
  have hsmall : ∀ hi lo more, c.toLower = '%' → lower rest = hi :: lo :: more →
      digitValue? hi = none ∨ digitValue? lo = none := by
    intro hi lo more hpercent hrest
    obtain ⟨hi', tail, rfl, rfl, htail⟩ := List.map_eq_cons_iff.mp hrest
    obtain ⟨lo', more', rfl, rfl, -⟩ := List.map_eq_cons_iff.mp htail
    rw [digitValue?_toLower, digitValue?_toLower]
    exact hnone hi' lo' more' ((keeps_toLower (by decide) c).mp hpercent) rfl
  show lowerOctets (percentDecode (c.toLower :: lower rest)) = _
  rw [percentDecode_cons hsmall, percentDecode_cons hnone, lowerOctets_append, lowerOctets_append,
    lowerOctets_utf8_toLower, ih]

/-- Percent spellings are decoded to the same octets but for the case of letters. -/
theorem lowerOctets_percentDecode_lower (cs : List Char) :
    lowerOctets (percentDecode (lower cs)) = lowerOctets (percentDecode cs) := by
  induction cs using percentDecode.induct with
  | case1 => rfl
  | case2 hi lo rest h l hhi hlo ih =>
    -- a spelling is one octet, whatever the case of its digits
    have hsmall : percentDecode ('%' :: hi.toLower :: lo.toLower :: lower rest) =
        UInt8.ofNat (h * 16 + l) :: percentDecode (lower rest) := by
      simp only [percentDecode, digitValue?_toLower, hhi, hlo]
    have hwritten : percentDecode ('%' :: hi :: lo :: rest) =
        UInt8.ofNat (h * 16 + l) :: percentDecode rest := by
      simp only [percentDecode, hhi, hlo]
    show lowerOctets (percentDecode ('%' :: hi.toLower :: lo.toLower :: lower rest)) = _
    rw [hsmall, hwritten]
    exact congrArg (lowerOctet _ :: ·) ih
  | case3 hi lo rest hnone ih =>
    refine lowerOctets_percentDecode_cons (fun hi' lo' more _ hrest => ?_) ih
    cases hrest
    cases hhi : digitValue? hi with
    | none => exact .inl rfl
    | some h =>
      cases hlo : digitValue? lo with
      | none => exact .inr rfl
      | some l => exact absurd hlo (hnone h l hhi)
  | case4 c rest hnone ih =>
    refine lowerOctets_percentDecode_cons (fun hi lo more hc hrest => ?_) ih
    exact absurd hrest (hnone hi lo more hc)

end Url

namespace HostName

theorem respell?_toLower (c : Char) : respell? c.toLower = respell? c :=
  apply_toLower respell? (by decide) c

/-- The ASCII form of a name is that of the name in small letters. -/
theorem asciiForm?_lower (name : List Char) : asciiForm? (lower name) = asciiForm? name := by
  have hcomp : respell? ∘ Char.toLower = respell? := funext respell?_toLower
  simp only [asciiForm?, lower, List.mapM_map, hcomp]

end HostName

/-! ## §3 Hosts -/

namespace Host

theorem bracketed?_lower (cs : List Char) : bracketed? (lower cs) = bracketed? cs := by
  have hreverse : (lower cs).reverse = lower cs.reverse := List.map_reverse.symm
  unfold bracketed?
  rw [hreverse]
  cases cs.reverse with
  | nil => rfl
  | cons c inner =>
    by_cases hc : c = ']'
    · subst hc
      have hinner : Ipv6.ofChars? (lower inner).reverse = Ipv6.ofChars? inner.reverse := by
        rw [lower, ← List.map_reverse]
        exact Ipv6.ofChars?_lower inner.reverse
      have hcons : lower (']' :: inner) = ']' :: lower inner := rfl
      simp only [hcons, hinner]
    · have hsmall : c.toLower ≠ ']' := fun h => hc ((keeps_toLower (by decide) c).mp h)
      simp [lower, hc, hsmall]

/-- **Hosts** are read in the same way in either case. -/
theorem ofChars_lower (cs : List Char) : ofChars (lower cs) = ofChars cs := by
  have hname : (ofUtf8? (Url.percentDecode (lower cs))).bind HostName.asciiForm? =
      (ofUtf8? (Url.percentDecode cs)).bind HostName.asciiForm? := by
    -- the ASCII form is that of the small letters, and these can be taken in the octets
    have hsmall : ∀ octets, (ofUtf8? octets).bind HostName.asciiForm? =
        (ofUtf8? (lowerOctets octets)).bind HostName.asciiForm? := by
      intro octets
      rw [ofUtf8?_lowerOctets]
      cases ofUtf8? octets with
      | none => rfl
      | some name => exact (HostName.asciiForm?_lower name).symm
    rw [hsmall, Url.lowerOctets_percentDecode_lower, ← hsmall]
  cases cs with
  | nil => rfl
  | cons c rest =>
    by_cases hc : c = '['
    · subst hc
      exact bracketed?_lower rest
    · have hsmall : c.toLower ≠ '[' := fun h => hc ((keeps_toLower (by decide) c).mp h)
      unfold ofChars
      rw [hname]
      simp [lower, hc, hsmall]

end Host

end DeviceAccess
