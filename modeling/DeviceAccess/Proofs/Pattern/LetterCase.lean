import Mathlib
import DeviceAccess.Pattern
import DeviceAccess.Proofs.Text.Case
import DeviceAccess.Proofs.Url.HostCase

/-!
# Patterns in either case

The case of ASCII letters has no meaning in a pattern. Cutting a text in small letters gives the
parts of the text in small letters, or the fault with what it shows in small letters
(`PatternSpelling.cut_lower`), and parts in small letters stand for the same schemes, hosts and
ports (`PatternSpelling.toPattern_small`). So two texts that agree but for the case of letters are
patterns of the same addresses, or neither is a pattern (`UrlPattern.parse_of_sameIgnoringCase`).
-/

namespace DeviceAccess

open Text

/-! ## §1 Parts in small letters -/

/-- A fault with what it shows in small letters. -/
def PatternFault.small : PatternFault → PatternFault
  | .scheme spelling => .scheme (lower spelling)
  | .literal spelling => .literal (lower spelling)
  | .port spelling => .port (lower spelling)
  | fault => fault

/-- A written host in small letters. -/
def HostSpelling.small : HostSpelling → HostSpelling
  | .below written => .below (lower written)
  | .literal address => .literal address
  | .name written => .name (lower written)

namespace PatternSpelling

/-- Written parts in small letters. -/
def small (s : PatternSpelling) : PatternSpelling :=
  { scheme := s.scheme.map lower, host := s.host.small, port := s.port.map lower }

/-- What a step of cutting gives, in small letters. -/
def inSmall {α : Type} (f : α → α) : Except PatternFault α → Except PatternFault α
  | .ok parts => .ok (f parts)
  | .error fault => .error fault.small

/-- A written host and port in small letters. -/
def smallAuthority (parts : HostSpelling × Option (List Char)) :
    HostSpelling × Option (List Char) :=
  (parts.1.small, parts.2.map lower)

/-! ## §2 Cutting -/

theorem lower_beq_star (cs : List Char) : (lower cs == ['*']) = (cs == ['*']) := by
  have hkeeps : Keeps Char.toLower '*' := keeps_toLower (by decide)
  cases cs with
  | nil => rfl
  | cons c rest =>
    cases rest with
    | nil => simp [lower, hkeeps c]
    | cons d rest => simp [lower]

theorem isSchemeName_lower (cs : List Char) : isSchemeName (lower cs) = isSchemeName cs := by
  cases cs with
  | nil => rfl
  | cons c rest =>
    have hfirst : c.toLower.isAlpha = c.isAlpha := apply_toLower Char.isAlpha (by decide) c
    let isSchemeChar : Char → Bool := fun d => d.isAlphanum || d == '+' || d == '-' || d == '.'
    have hall : (lower (c :: rest)).all isSchemeChar = (c :: rest).all isSchemeChar :=
      all_lower (apply_toLower isSchemeChar (by decide)) (c :: rest)
    simp only [lower, List.map_cons, isSchemeChar] at hall
    simp only [lower, List.map_cons, isSchemeName, hfirst, hall]

theorem checkScheme_lower (cs : List Char) : checkScheme (lower cs) = inSmall id (checkScheme cs) := by
  simp only [checkScheme, isEmpty_lower, lower_beq_star, isSchemeName_lower]
  split
  · rfl
  · split <;> rfl

theorem checkPort_lower (port : Option (List Char)) :
    checkPort (port.map lower) = inSmall id (checkPort port) := by
  cases port with
  | none => rfl
  | some written =>
    simp only [Option.map_some, checkPort, lower_beq_star, word16?, boundedNat?_lower]
    by_cases hvalid : (written == ['*'] || (boundedNat? limit16 written).isSome) = true
    · simp only [hvalid, if_true]
      rfl
    · simp only [hvalid]
      rfl

theorem beforePath_lower (cs : List Char) : beforePath (lower cs) = lower (beforePath cs) := by
  rw [beforePath, cutAt_lower (by decide)]
  rfl

theorem cutLiteral_lower (cs : List Char) :
    cutLiteral (lower cs) = inSmall smallAuthority (cutLiteral cs) := by
  unfold cutLiteral
  rw [cutAt_lower (by decide)]
  obtain ⟨inner, behind⟩ := cutAt ']' cs
  cases behind with
  | none => rfl
  | some behind =>
    simp only [Option.map_some, Ip.ofChars?_lower, beforePath_lower]
    cases Ip.ofChars? inner with
    | none => rfl
    | some address =>
      -- behind the bracket nothing may stand but a port
      cases beforePath behind with
      | nil => rfl
      | cons c port =>
        have hcolon : c.toLower = ':' ↔ c = ':' := keeps_toLower (by decide) c
        by_cases hc : c = ':'
        · subst hc
          rfl
        · have hsmall : ¬c.toLower = ':' := fun h => hc (hcolon.mp h)
          simp [lower, hc, hsmall, inSmall, PatternFault.small]

/-- A name and a port behind it, in small letters. -/
theorem nameAndPort_lower (make : List Char → HostSpelling) {fault : PatternFault}
    (hmake : ∀ name, (make name).small = make (lower name)) (hfault : fault.small = fault)
    (text : List Char) :
    (match cutAt ':' (lower text) with
      | ([], _) => .error fault
      | (name, port) => .ok (make name, port) :
        Except PatternFault (HostSpelling × Option (List Char))) =
      inSmall smallAuthority
        (match cutAt ':' text with
          | ([], _) => .error fault
          | (name, port) => .ok (make name, port)) := by
  rw [cutAt_lower (by decide)]
  obtain ⟨name, port⟩ := cutAt ':' text
  cases name with
  | nil => exact congrArg Except.error hfault.symm
  | cons c name =>
    show Except.ok (make (lower (c :: name)), port.map lower) =
      Except.ok ((make (c :: name)).small, port.map lower)
    rw [hmake]

/-- Without a bracket in front, what stands before the path is a name and a port. -/
theorem cutAuthority_name {c : Char} {rest : List Char}
    (hbelow : dropRun? ['[', '*', '.', ']'] (c :: rest) = none) (hc : c ≠ '[') :
    cutAuthority (c :: rest) =
      (match cutAt ':' (beforePath (c :: rest)) with
        | ([], _) => .error .noHost
        | (name, port) => .ok (.name name, port)) := by
  unfold cutAuthority
  rw [hbelow]
  dsimp only
  split
  · rename_i inside hinside
    exact absurd (List.cons.inj hinside).1 hc
  · rfl

theorem cutAuthority_lower (cs : List Char) :
    cutAuthority (lower cs) = inSmall smallAuthority (cutAuthority cs) := by
  have hrun : dropRun? ['[', '*', '.', ']'] (lower cs) =
      (dropRun? ['[', '*', '.', ']'] cs).map lower := dropRun?_lower (by decide) cs
  cases hbelow : dropRun? ['[', '*', '.', ']'] cs with
  | some behind =>
    unfold cutAuthority
    rw [hrun, hbelow]
    simp only [Option.map_some, beforePath_lower]
    exact nameAndPort_lower .below (fun _ => rfl) rfl _
  | none =>
    rw [hbelow] at hrun
    cases cs with
    | nil => rfl
    | cons c rest =>
      by_cases hc : c = '['
      · subst hc
        unfold cutAuthority
        rw [hrun, hbelow]
        exact cutLiteral_lower rest
      · have hsmall : c.toLower ≠ '[' := fun h => hc ((keeps_toLower (by decide) c).mp h)
        have hname := nameAndPort_lower .name (fun _ => rfl) (rfl : PatternFault.noHost.small = _)
          (beforePath (c :: rest))
        rw [← beforePath_lower] at hname
        rw [cutAuthority_name hbelow hc]
        exact (cutAuthority_name hrun hsmall).trans hname

/-- Two steps in small letters are a step in small letters. -/
theorem inSmall_bind {α β : Type} {f : α → α} {g : β → β} {first : Except PatternFault α}
    {next nextSmall : α → Except PatternFault β} (hnext : ∀ x, nextSmall (f x) = inSmall g (next x)) :
    (inSmall f first >>= nextSmall) = inSmall g (first >>= next) := by
  cases first with
  | error fault => rfl
  | ok parts => exact hnext parts

/-- What follows the scheme is cut in small letters as in others. -/
theorem cutBehind_lower (scheme : Option (List Char)) (rest : List Char) :
    (do
      let (host, port) ← cutAuthority (lower rest)
      checkPort port
      return { scheme := scheme.map lower, host, port : PatternSpelling }) =
    inSmall small (do
      let (host, port) ← cutAuthority rest
      checkPort port
      return { scheme, host, port : PatternSpelling }) := by
  rw [cutAuthority_lower]
  apply inSmall_bind
  intro parts
  show (checkPort (parts.2.map lower) >>= fun _ => _) = _
  rw [checkPort_lower]
  apply inSmall_bind
  intro _
  rfl

/-- **Cutting a text in small letters** gives its parts, or its fault, in small letters. -/
theorem cut_lower (cs : List Char) : cut (lower cs) = inSmall small (cut cs) := by
  unfold cut
  rw [cutAtRun?_lower (by decide)]
  cases cutAtRun? [':', '/', '/'] cs with
  | none => exact cutBehind_lower none cs
  | some found =>
    obtain ⟨scheme, rest⟩ := found
    simp only [Option.map_some, checkScheme_lower]
    apply inSmall_bind
    intro _
    exact cutBehind_lower (some scheme) rest

/-! ## §3 Meaning -/

theorem normalName_lower (cs : List Char) : normalName (lower cs) = normalName cs := by
  have htwice : lower (lower cs) = lower cs := lower_lower cs
  simp only [normalName, Host.ofChars_lower, htwice]

theorem schemePattern_lower (scheme : Option (List Char)) :
    schemePattern (scheme.map lower) = schemePattern scheme := by
  cases scheme with
  | none => rfl
  | some cs => simp only [Option.map_some, schemePattern, lower_beq_star, lower_lower]

theorem hostPattern_small (host : HostSpelling) : hostPattern host.small = hostPattern host := by
  cases host with
  | below name => simp only [HostSpelling.small, hostPattern, normalName_lower]
  | literal address => rfl
  | name text =>
    simp only [HostSpelling.small, hostPattern, lower_beq_star, Ip.ofChars?_lower, normalName_lower]

theorem portPattern_lower (port : Option (List Char)) :
    portPattern (port.map lower) = portPattern port := by
  cases port with
  | none => rfl
  | some cs => simp only [Option.map_some, portPattern, word16?, boundedNat?_lower]

/-- Parts in small letters stand for the same schemes, hosts and ports. -/
theorem toPattern_small (source : String) (s : PatternSpelling) :
    s.small.toPattern source = s.toPattern source := by
  simp only [toPattern, small, schemePattern_lower, hostPattern_small, portPattern_lower]

end PatternSpelling

/-! ## §4 Whole patterns -/

namespace UrlPattern

/-- What a text is read as, up to the case of letters: a pattern that accepts the same addresses, or
no pattern. -/
inductive ReadAlike : Except Fault UrlPattern → Except Fault UrlPattern → Prop where
  | patterns {p q : UrlPattern} (haccepts : ∀ u, p.accepts u = q.accepts u) :
      ReadAlike (.ok p) (.ok q)
  | faults (e f : Fault) : ReadAlike (.error e) (.error f)

/-- What a pattern accepts does not depend on its text. -/
theorem accepts_of_toPattern_eq {s t : PatternSpelling} (h : s.small = t.small)
    (source other : String) (u : Url) :
    (s.toPattern source).accepts u = (t.toPattern other).accepts u := by
  calc (s.toPattern source).accepts u
      = (s.small.toPattern source).accepts u := by rw [PatternSpelling.toPattern_small]
    _ = (t.small.toPattern source).accepts u := by rw [h]
    _ = (t.toPattern source).accepts u := by rw [PatternSpelling.toPattern_small]
    _ = (t.toPattern other).accepts u := rfl

/-- **The case of letters in a pattern** has no meaning: two texts that agree but for it are read as
patterns of the same addresses, or neither is a pattern. -/
theorem parse_of_sameIgnoringCase {text other : String}
    (hsame : sameIgnoringCase text other = true) : ReadAlike (parse text) (parse other) := by
  have htrim : lower (trim text.toList) = lower (trim other.toList) := by
    rw [← trim_lower, ← trim_lower, sameIgnoringCase_iff.mp hsame]
  have hstar : (trim text.toList == ['*']) = (trim other.toList == ['*']) := by
    rw [← PatternSpelling.lower_beq_star, htrim, PatternSpelling.lower_beq_star]
  have hcut : PatternSpelling.inSmall PatternSpelling.small (PatternSpelling.cut (trim text.toList)) =
      PatternSpelling.inSmall PatternSpelling.small (PatternSpelling.cut (trim other.toList)) := by
    rw [← PatternSpelling.cut_lower, htrim, PatternSpelling.cut_lower]
  unfold parse
  simp only [hstar]
  split
  · exact .patterns fun _ => rfl
  · generalize PatternSpelling.cut (trim text.toList) = first at hcut ⊢
    generalize PatternSpelling.cut (trim other.toList) = second at hcut ⊢
    cases first with
    | error fault =>
      cases second with
      | error fault' => exact .faults _ _
      | ok t => cases hcut
    | ok s =>
      cases second with
      | error fault => cases hcut
      | ok t => exact .patterns (accepts_of_toPattern_eq (Except.ok.inj hcut) _ _)

theorem parse_of_sameIgnoringCase_mixed :
    sameIgnoringCase "HTTPS://[*.]Example.com:8443" "https://[*.]eXAMPLE.COM:8443" = true ∧
      (parse "HTTPS://[*.]Example.com:8443").isOk = true ∧
      ReadAlike (parse "HTTPS://[*.]Example.com:8443") (parse "https://[*.]eXAMPLE.COM:8443") :=
  have hsame : sameIgnoringCase "HTTPS://[*.]Example.com:8443" "https://[*.]eXAMPLE.COM:8443" =
      true := by decide +kernel
  ⟨hsame, by decide +kernel, parse_of_sameIgnoringCase hsame⟩

end UrlPattern

end DeviceAccess
