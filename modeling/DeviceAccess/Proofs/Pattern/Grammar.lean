import DeviceAccess.Proofs.Pattern.Acceptance
import DeviceAccess.Proofs.Text.Digits
import DeviceAccess.Proofs.Url.Ip

/-!
# The grammar of patterns

Which texts are patterns, and which parts each of them has.

- `PatternSpelling.IsWritten` relates the parts of a pattern to the text in which they are written,
  with what may stand before the first `://`, before the port, and behind the colon.
- `PatternSpelling.cut_eq_ok_iff_isWritten`: cutting a text succeeds exactly with parts that it is
  written with.
- `UrlPattern.parse_eq_ok_or_error_iff`: the texts that are read are those of the grammar, and every
  other one is refused with the text as it was trimmed.
-/

namespace DeviceAccess

open Text

/-! ## §1 Written parts -/

/-- The mark between a scheme and the rest. -/
def schemeMark : List Char := [':', '/', '/']

/-- The mark of a name with everything below it. -/
def belowMark : List Char := ['[', '*', '.', ']']

/-- What may stand before the mark of a scheme: `*`, or a letter and then letters, digits, `+`, `-`
and `.`. -/
inductive IsSchemeSpelling : List Char → Prop where
  | wildcard : IsSchemeSpelling ['*']
  | name {first : Char} {others : List Char} (hfirst : first.isAlpha = true)
      (hothers : ∀ c ∈ others, c.isAlphanum = true ∨ c ∈ ['+', '-', '.']) :
      IsSchemeSpelling (first :: others)

/-- How a host is written: a name without colon, behind the mark if it stands for the names below
it, or an internet address in brackets. -/
inductive HostSpelling.IsWritten : HostSpelling → List Char → Prop where
  | below {name : List Char} (hne : name ≠ []) (hcolon : ':' ∉ name) :
      IsWritten (.below name) (belowMark ++ name)
  | literal {inner : List Char} {address : Ip} (hreads : Ip.ofChars? inner = some address) :
      IsWritten (.literal address) (['['] ++ inner ++ [']'])
  | name {text : List Char} (hne : text ≠ []) (hbracket : text.head? ≠ some '[')
      (hcolon : ':' ∉ text) : IsWritten (.name text) text

/-- What may stand behind the colon of a port: `*`, or a number of sixteen bits, which may have a
plus sign and zeros in front. -/
inductive IsPortSpelling : List Char → Prop where
  | wildcard : IsPortSpelling ['*']
  | number {written : List Char} {n : Nat} (hwritten : WrittenNumber limit16 written n) :
      IsPortSpelling written

namespace PatternSpelling

/-- A scheme and the rest: what stands before the first mark and behind it, or no scheme and all of
a text without mark. -/
inductive SplitsScheme : List Char → Option (List Char) → List Char → Prop where
  | written {text scheme rest : List Char} (hcut : FirstCut schemeMark text scheme rest)
      (hscheme : IsSchemeSpelling scheme) : SplitsScheme text (some scheme) rest
  | missing {text : List Char} (hmark : ¬schemeMark <:+: text) : SplitsScheme text none text

/-- The text is written with these parts: the scheme, and behind it, up to the first slash, the host
and the port. -/
structure IsWritten (s : PatternSpelling) (text : List Char) : Prop where
  parts : ∃ rest host, SplitsScheme text s.scheme rest ∧ s.host.IsWritten host ∧
    rest.takeWhile (· != '/') = host ++ fromCut ':' s.port
  port : ∀ written, s.port = some written → IsPortSpelling written

/-! ## §2 Schemes and ports -/

theorem isSchemeName_eq_true_iff (cs : List Char) :
    isSchemeName cs = true ↔ cs ≠ ['*'] ∧ IsSchemeSpelling cs := by
  cases cs with
  | nil =>
    constructor
    · intro h
      cases h
    · rintro ⟨-, h⟩
      cases h
  | cons first others =>
    have hstart : first.isAlpha = true → first.isAlphanum = true := fun h => by
      simp [Char.isAlphanum, h]
    simp only [isSchemeName, List.all_cons, Bool.and_eq_true, Bool.or_eq_true, beq_iff_eq,
      List.all_eq_true]
    constructor
    · rintro ⟨hfirst, -, hothers⟩
      refine ⟨fun hstar => ?_, .name hfirst fun c hc => ?_⟩
      · obtain ⟨rfl, -⟩ := List.cons.inj hstar
        exact absurd hfirst (by decide)
      · simpa [or_assoc] using hothers c hc
    · rintro ⟨hstar, hspelling⟩
      cases hspelling with
      | wildcard => exact absurd rfl hstar
      | name hfirst hothers =>
        refine ⟨hfirst, .inl (.inl (.inl (hstart hfirst))), fun c hc => ?_⟩
        simpa [or_assoc] using hothers c hc

theorem checkScheme_eq_ok_iff {cs : List Char} :
    checkScheme cs = .ok () ↔ IsSchemeSpelling cs := by
  by_cases hempty : cs = []
  · subst hempty
    constructor
    · intro h
      cases h
    · intro h
      cases h
  have hnotEmpty : cs.isEmpty = false := by simpa using hempty
  by_cases hstar : cs = ['*']
  · subst hstar
    exact iff_of_true rfl .wildcard
  have hname := isSchemeName_eq_true_iff cs
  simp only [hstar, ne_eq, not_false_eq_true, true_and] at hname
  rw [← hname, checkScheme, hnotEmpty]
  cases isSchemeName cs <;> simp [hstar]

theorem checkPort_eq_ok_iff {port : Option (List Char)} :
    checkPort port = .ok () ↔ ∀ written, port = some written → IsPortSpelling written := by
  cases port with
  | none => simp [checkPort]
  | some written =>
    have hport : (written == ['*'] || (word16? written).isSome) = true ↔
        IsPortSpelling written := by
      rw [Bool.or_eq_true, beq_iff_eq, Option.isSome_iff_exists]
      constructor
      · rintro (rfl | ⟨n, hn⟩)
        · exact .wildcard
        · exact .number (boundedNat?_eq_some_iff.mp hn)
      · rintro (_ | hwritten)
        · exact .inl rfl
        · exact .inr ⟨_, boundedNat?_eq_some_iff.mpr hwritten⟩
    simp only [checkPort, Option.some.injEq, forall_eq', ← hport]
    split
    · simp [*]
    · simp [*]

/-! ## §3 Hosts -/

/-- A slash ends what is cut, so characters in front of it that are none are kept. -/
theorem beforePath_append {front : List Char} (h : '/' ∉ front) (rest : List Char) :
    beforePath (front ++ rest) = front ++ beforePath rest := by
  simp only [beforePath, fst_cutAt]
  refine List.takeWhile_append_of_pos fun c hc => ?_
  simpa using ne_of_mem_of_not_mem hc h

/-- What stands before the path begins the text. -/
theorem exists_beforePath_append (cs : List Char) : ∃ path, cs = beforePath cs ++ path :=
  ⟨_, (fst_cutAt_append '/' cs).symm⟩

theorem cutLiteral_eq_ok_iff {inside : List Char} {host : HostSpelling}
    {port : Option (List Char)} :
    cutLiteral inside = .ok (host, port) ↔
      ∃ inner address, host = .literal address ∧ Ip.ofChars? inner = some address ∧
        beforePath inside = inner ++ [']'] ++ fromCut ':' port := by
  -- the bracket that closes an address is the first one, and no slash stands before it
  have hmarks : ∀ {inner : List Char} {address : Ip}, Ip.ofChars? inner = some address →
      ']' ∉ inner ∧ '/' ∉ inner ++ [']'] := by
    intro inner address haddress
    have hinner := Ip.isAddressChar_of_ofChars? haddress
    have hbracket : ']' ∉ inner := fun hmem => (hinner _ hmem).not_mark (by simp)
    have hslash : '/' ∉ inner := fun hmem => (hinner _ hmem).not_mark (by simp)
    exact ⟨hbracket, by simpa using hslash⟩
  constructor
  · intro h
    unfold cutLiteral at h
    split at h
    · cases h
    · rename_i inner behind hcut
      obtain ⟨-, hinside⟩ := cutAt_eq_iff.mp hcut
      split at h
      · cases h
      · rename_i address haddress
        have hpath : beforePath inside = inner ++ [']'] ++ beforePath behind := by
          rw [← beforePath_append (hmarks haddress).2, hinside, fromCut, ← List.append_cons]
        split at h
        · rename_i hport
          cases h
          exact ⟨inner, address, rfl, haddress, by rw [hpath, hport]; rfl⟩
        · rename_i hport
          cases h
          exact ⟨inner, address, rfl, haddress, by rw [hpath, hport]; rfl⟩
        · cases h
  · rintro ⟨inner, address, rfl, haddress, hpath⟩
    obtain ⟨path, hwhole⟩ := exists_beforePath_append inside
    have hinside : inside = inner ++ [']'] ++ (fromCut ':' port ++ path) := by
      rw [hwhole, hpath, List.append_assoc]
    have hcut : cutAt ']' inside = (inner, some (fromCut ':' port ++ path)) :=
      cutAt_eq_iff.mpr ⟨(hmarks haddress).1, by rw [hinside, ← List.append_cons]; rfl⟩
    have hport : beforePath (fromCut ':' port ++ path) = fromCut ':' port := by
      rw [hinside, beforePath_append (hmarks haddress).2] at hpath
      exact List.append_cancel_left hpath
    unfold cutLiteral
    simp only [hcut, haddress, hport]
    cases port <;> rfl

/-- A name goes up to the first colon and must not be empty. -/
theorem nameAndPort_eq_ok_iff {text : List Char} {fault : PatternFault}
    {make : List Char → HostSpelling} {host : HostSpelling} {port : Option (List Char)} :
    (match cutAt ':' text with
      | ([], _) => .error fault
      | (name, port) => .ok (make name, port) :
        Except PatternFault (HostSpelling × Option (List Char))) = .ok (host, port) ↔
      ∃ name, host = make name ∧ name ≠ [] ∧ ':' ∉ name ∧ text = name ++ fromCut ':' port := by
  constructor
  · intro h
    split at h
    · cases h
    · rename_i name port' hne hcut
      cases h
      obtain ⟨hcolon, htext⟩ := cutAt_eq_iff.mp hcut
      exact ⟨name, rfl, hne, hcolon, htext⟩
  · rintro ⟨name, rfl, hne, hcolon, rfl⟩
    rw [cutAt_append hcolon]
    obtain ⟨c, more, rfl⟩ := List.exists_cons_of_ne_nil hne
    rfl

theorem head?_beforePath {cs : List Char} {c : Char} (h : (beforePath cs).head? = some c) :
    cs.head? = some c := by
  obtain ⟨path, hcs⟩ := exists_beforePath_append cs
  rw [hcs, List.head?_append, h]
  rfl

theorem dropRun?_belowMark_of_literal {inner : List Char} {address : Ip}
    (h : Ip.ofChars? inner = some address) (behind : List Char) :
    dropRun? belowMark ('[' :: inner ++ ']' :: behind) = none := by
  cases inner with
  | nil => rfl
  | cons c more =>
    have hc : c ∉ ['/', '[', ']', '*'] :=
      (Ip.isAddressChar_of_ofChars? h c List.mem_cons_self).not_mark
    have hstar : ('*' == c) = false := beq_false_of_ne fun hsame => hc (by simp [← hsame])
    simp [belowMark, dropRun?, hstar]

theorem dropRun?_belowMark_of_head? {cs : List Char} (h : cs.head? ≠ some '[') :
    dropRun? belowMark cs = none := by
  cases cs with
  | nil => rfl
  | cons c more =>
    have hc : ('[' == c) = false := beq_false_of_ne fun hsame => h (by rw [hsame]; rfl)
    simp [belowMark, dropRun?, hc]

theorem isWritten_of_cutAuthority {rest : List Char} {host : HostSpelling}
    {port : Option (List Char)} (h : cutAuthority rest = .ok (host, port)) :
    ∃ written, host.IsWritten written ∧ beforePath rest = written ++ fromCut ':' port := by
  unfold cutAuthority at h
  split at h
  · rename_i behind hdrop
    obtain ⟨name, rfl, hne, hcolon, hbehind⟩ := nameAndPort_eq_ok_iff.mp h
    refine ⟨_, .below hne hcolon, ?_⟩
    rw [dropRun?_eq_some_iff.mp hdrop, List.append_assoc, ← hbehind]
    have hslash : '/' ∉ belowMark := by decide
    exact beforePath_append hslash behind
  · split at h
    · rename_i inside hdrop
      obtain ⟨inner, address, rfl, haddress, hinside⟩ := cutLiteral_eq_ok_iff.mp h
      refine ⟨_, .literal haddress, ?_⟩
      have hslash : '/' ∉ ['['] := by decide
      have hpath := beforePath_append hslash inside
      rw [hinside] at hpath
      exact hpath
    · rename_i hbracket
      obtain ⟨name, rfl, hne, hcolon, hname⟩ := nameAndPort_eq_ok_iff.mp h
      refine ⟨name, .name hne (fun hhead => ?_) hcolon, hname⟩
      have hbegin : (beforePath rest).head? = some '[' := by
        rw [hname, List.head?_append, hhead]
        rfl
      obtain ⟨more, hmore⟩ := List.head?_eq_some_iff.mp (head?_beforePath hbegin)
      exact hbracket more hmore

theorem cutAuthority_of_isWritten {rest written : List Char} {host : HostSpelling}
    {port : Option (List Char)} (h : host.IsWritten written)
    (hpath : beforePath rest = written ++ fromCut ':' port) :
    cutAuthority rest = .ok (host, port) := by
  obtain ⟨path, hrest⟩ := exists_beforePath_append rest
  cases h with
  | @below name hne hcolon =>
    obtain ⟨behind, rfl⟩ : ∃ behind, rest = belowMark ++ behind :=
      ⟨name ++ fromCut ':' port ++ path, by rw [hrest, hpath]; simp⟩
    rw [beforePath_append (by decide), List.append_assoc] at hpath
    exact nameAndPort_eq_ok_iff.mpr ⟨name, rfl, hne, hcolon, List.append_cancel_left hpath⟩
  | @literal inner address hreads =>
    obtain ⟨inside, hinside, rfl⟩ : ∃ inside,
        inside = inner ++ ']' :: (fromCut ':' port ++ path) ∧ rest = '[' :: inside :=
      ⟨_, rfl, by rw [hrest, hpath]; simp⟩
    have hnoBelow := dropRun?_belowMark_of_literal hreads (fromCut ':' port ++ path)
    have hread : cutLiteral inside = .ok (.literal address, port) := by
      refine cutLiteral_eq_ok_iff.mpr ⟨inner, address, rfl, hreads, ?_⟩
      have hslash : '/' ∉ ['['] := by decide
      have hbracket := beforePath_append hslash inside
      exact List.cons.inj (hbracket.symm.trans hpath) |>.2
    unfold cutAuthority
    split
    · rename_i hdrop
      rw [hinside] at hdrop
      exact absurd (hnoBelow.symm.trans hdrop) (by simp)
    · exact hread
  | name hne hbracket hcolon =>
    have hhead : rest.head? ≠ some '[' := by
      rw [hrest, hpath, List.append_assoc, List.head?_append_of_ne_nil _ hne]
      exact hbracket
    have hnoBelow := dropRun?_belowMark_of_head? hhead
    unfold cutAuthority
    split
    · rename_i hdrop
      exact absurd (hnoBelow.symm.trans hdrop) (by simp)
    · split
      · exact absurd rfl hhead
      · exact nameAndPort_eq_ok_iff.mpr ⟨written, rfl, hne, hcolon, hpath⟩

/-- **The authority of a pattern** is cut into a host and a port exactly as it is written with
them, whatever path follows. -/
theorem cutAuthority_eq_ok_iff {rest : List Char} {host : HostSpelling}
    {port : Option (List Char)} :
    cutAuthority rest = .ok (host, port) ↔
      ∃ written, host.IsWritten written ∧ beforePath rest = written ++ fromCut ':' port := by
  constructor
  · exact isWritten_of_cutAuthority
  · rintro ⟨written, hwritten, hpath⟩
    exact cutAuthority_of_isWritten hwritten hpath

/-! ## §4 Whole patterns -/

theorem splitsScheme_iff {text rest : List Char} {scheme : Option (List Char)} :
    SplitsScheme text scheme rest ↔
      (∃ written, cutAtRun? schemeMark text = some (written, rest) ∧
          checkScheme written = .ok () ∧ scheme = some written) ∨
        (cutAtRun? schemeMark text = none ∧ rest = text ∧ scheme = none) := by
  simp only [cutAtRun?_eq_some_iff, cutAtRun?_eq_none_iff, checkScheme_eq_ok_iff]
  constructor
  · rintro (⟨hcut, hscheme⟩ | hmark)
    · exact .inl ⟨_, hcut, hscheme, rfl⟩
    · exact .inr ⟨hmark, rfl, rfl⟩
  · rintro (⟨written, hcut, hscheme, rfl⟩ | ⟨hmark, rfl, rfl⟩)
    · exact .written hcut hscheme
    · exact .missing hmark

/-- **Parts of a pattern**: cutting a text succeeds exactly with the parts that it is written
with. -/
theorem cut_eq_ok_iff_isWritten {text : List Char} {s : PatternSpelling} :
    cut text = .ok s ↔ s.IsWritten text := by
  rw [cut_eq_ok_iff]
  constructor
  · rintro ⟨rest, hscheme, hauthority, hport⟩
    obtain ⟨host, hhost, hpath⟩ := cutAuthority_eq_ok_iff.mp hauthority
    rw [beforePath, fst_cutAt] at hpath
    exact ⟨⟨rest, host, splitsScheme_iff.mpr hscheme, hhost, hpath⟩, checkPort_eq_ok_iff.mp hport⟩
  · rintro ⟨⟨rest, host, hscheme, hhost, hpath⟩, hport⟩
    rw [← fst_cutAt] at hpath
    exact ⟨rest, splitsScheme_iff.mp hscheme, cutAuthority_eq_ok_iff.mpr ⟨host, hhost, hpath⟩,
      checkPort_eq_ok_iff.mpr hport⟩

end PatternSpelling

/-- The grammar of trimmed patterns: `*` alone, or a text that is written with the parts of one. -/
def IsPatternText (text : List Char) : Prop :=
  text = ['*'] ∨ ∃ s : PatternSpelling, s.IsWritten text

/-- A text with a slash is not `*` alone. -/
theorem ne_star_of_slash_mem {text : List Char} (h : '/' ∈ text) : text ≠ ['*'] := by
  rintro rfl
  exact absurd h (by decide)

namespace UrlPattern

theorem exists_parse_iff (text : String) :
    (∃ p, parse text = .ok p) ↔ IsPatternText (trim text.toList) := by
  by_cases hstar : trim text.toList = ['*']
  · have hread : parse text = .ok any := by simp [parse, hstar]
    exact iff_of_true ⟨any, hread⟩ (.inl hstar)
  · simp only [parse_eq_ok_iff hstar, PatternSpelling.cut_eq_ok_iff_isWritten, IsPatternText, hstar,
      false_or]
    constructor
    · rintro ⟨-, s, hs, -⟩
      exact ⟨s, hs⟩
    · rintro ⟨s, hs⟩
      exact ⟨_, s, hs, rfl⟩

/-- A text is read, or refused with the text as it was trimmed. -/
theorem parse_cases (text : String) :
    (∃ p, parse text = .ok p) ∨
      ∃ fault : PatternFault, parse text = .error (.pattern (trimText text) fault.reason) := by
  unfold parse
  simp only
  split
  · exact .inl ⟨_, rfl⟩
  · split
    · exact .inl ⟨_, rfl⟩
    · rename_i fault _
      exact .inr ⟨fault, rfl⟩

/-- **The grammar of patterns**: a text is read exactly if it is one of them when it is trimmed, and
any other text is refused as no pattern, with the text as it was trimmed. -/
theorem parse_eq_ok_or_error_iff (text : String) :
    ((∃ p, parse text = .ok p) ↔ IsPatternText (trim text.toList)) ∧
      ((∃ fault : PatternFault,
          parse text = .error (.pattern (trimText text) fault.reason)) ↔
        ¬IsPatternText (trim text.toList)) := by
  refine ⟨exists_parse_iff text, ?_⟩
  rw [← exists_parse_iff text]
  constructor
  · rintro ⟨fault, hfault⟩ ⟨p, hp⟩
    cases hfault.symm.trans hp
  · exact (parse_cases text).resolve_left

/-- Marks that stand in unexpected places are parts of names, ports or paths. -/
example : (UrlPattern.parse "a]b:+00443/[::1]:x").toOption.isSome = true := by decide +kernel

end UrlPattern

end DeviceAccess
