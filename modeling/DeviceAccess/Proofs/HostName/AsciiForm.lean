import Mathlib
import DeviceAccess.HostName.AsciiForm
import DeviceAccess.Proofs.Fault
import DeviceAccess.Proofs.Text.Case
import DeviceAccess.Proofs.Text.Cut
import DeviceAccess.Text.Blank

/-!
# Characters of the ASCII form

The ASCII form of a host name consists of ASCII characters that a label may contain, so of no
capitals, whatever the name was. For labels that are spelled in ASCII here this follows the writer
through its loops. A label that came spelled is kept in small letters, and there it follows from
reading it: every character of the spelling is a digit, the hyphen, or a character of the label that
is spelled, and that label is admissible.

A name that is in ASCII already is its own form, in small letters (`asciiForm?_of_isAscii`).
-/

namespace DeviceAccess.HostName

open Text

/-! ## §1 Characters -/

/-- An ASCII character that an admissible label may contain. -/
def IsHostChar (c : Char) : Prop := isAscii c = true ∧ isPermitted c = true

instance (c : Char) : Decidable (IsHostChar c) := inferInstanceAs (Decidable (_ ∧ _))

theorem isHostChar_iff {c : Char} :
    IsHostChar c ↔ isAscii c = true ∧ isForbidden c = false ∧ c.isUpper = false := by
  refine and_congr_right fun hascii => ?_
  simp [isPermitted, hascii]

theorem IsHostChar.not_isUpper {c : Char} (h : IsHostChar c) : c.isUpper = false :=
  (isHostChar_iff.mp h).2.2

theorem IsHostChar.toLower {c : Char} (h : IsHostChar c) : IsHostChar c.toLower := by
  rwa [Char.toLower_eq_of_not_isUpper (by simp [h.not_isUpper])]

/-- A letter is allowed in either case, where it will be made small. -/
theorem IsHostChar.of_toLower {c : Char} (h : IsHostChar c.toLower) :
    isAscii c = true ∧ isForbidden c = false := by
  cases hupper : c.isUpper with
  | true =>
    have hrange := toNat_of_isUpper hupper
    exact forall_char_lt 128
      (P := fun c => c.isUpper = true → isAscii c = true ∧ isForbidden c = false) (by decide)
      (by omega) hupper
  | false =>
    rw [Char.toLower_eq_of_not_isUpper (by simp [hupper])] at h
    exact ⟨h.1, (isHostChar_iff.mp h).2.1⟩

theorem IsHostChar.not_isBlank {c : Char} (h : IsHostChar c) : isBlank c = false := by
  obtain ⟨hascii, hforbidden, _⟩ := isHostChar_iff.mp h
  have hhigh : c.toNat < 0x80 := by simpa [isAscii] using hascii
  have hlow : 0x20 < c.toNat := by
    by_contra hcontrol
    have hle : c.toNat ≤ 0x20 := by omega
    simp [isForbidden, hle] at hforbidden
  simp [isBlank]
  omega

namespace Punycode

theorem isHostChar_digit {value : Nat} (hvalue : value < 36) : IsHostChar (digit value) := by
  have hall : ∀ v < 36, IsHostChar (digit v) := by decide
  exact hall value hvalue

/-- A digit may be a capital. -/
theorem isHostChar_of_digitValue? {c : Char} {value : Nat} (hvalue : digitValue? c = some value) :
    IsHostChar c.toLower := by
  have hascii : c.toNat < 128 := by
    have hle : ∀ d : Char, c ≤ d ↔ c.toNat ≤ d.toNat := fun d => UInt32.le_iff_toNat_le
    have h1 : 'z'.toNat = 122 := rfl
    have h2 : 'Z'.toNat = 90 := rfl
    have h3 : '9'.toNat = 57 := rfl
    unfold digitValue? at hvalue
    simp only [hle] at hvalue
    split_ifs at hvalue <;> omega
  exact forall_char_lt 128 (P := fun c => (digitValue? c).isSome → IsHostChar c.toLower)
    (by decide) hascii (by simp [hvalue])

/-! ## §2 Writing -/

theorem isHostChar_distanceDigits (bias k distance : Nat) :
    ∀ c ∈ distanceDigits bias k distance, IsHostChar c := by
  induction k, distance using distanceDigits.induct bias with
  | case1 k distance t hlast =>
    have hhigh : t ≤ 26 := threshold_le bias k
    rw [distanceDigits, if_pos hlast]
    intro c hc
    rw [List.mem_singleton.mp hc]
    exact isHostChar_digit (by omega)
  | case2 k distance t hmore ih =>
    have hhigh : t ≤ 26 := threshold_le bias k
    have hmod : (distance - t) % (36 - t) < 36 - t := Nat.mod_lt _ (by omega)
    have hdigit : t + (distance - t) % (36 - t) < 36 := by omega
    rw [distanceDigits, if_neg hmore]
    intro c hc
    rcases List.mem_cons.mp hc with rfl | hc
    · exact isHostChar_digit hdigit
    · exact ih c hc

variable {basic n : Nat} {p : Progress}

/-- What is written while one character is passed. -/
theorem isHostChar_pass (hp : ∀ c ∈ p.written, IsHostChar c) (d : Char) :
    ∀ c ∈ (pass basic n p d).written, IsHostChar c := by
  unfold pass
  split
  · exact hp
  · split
    · intro c hc
      rcases List.mem_append.mp hc with hbefore | hnew
      · exact hp c hbefore
      · exact isHostChar_distanceDigits _ _ _ c hnew
    · exact hp

theorem isHostChar_passAll (hp : ∀ c ∈ p.written, IsHostChar c) (label : List Char) :
    ∀ c ∈ (label.foldl (pass basic n) p).written, IsHostChar c := by
  induction label generalizing p with
  | nil => exact hp
  | cons d label ih => exact ih (isHostChar_pass hp d)

theorem isHostChar_placeAll (label : List Char) (floor : Nat) (points : List Nat)
    (hp : ∀ c ∈ p.written, IsHostChar c) :
    ∀ c ∈ (placeAll label basic floor p points).written, IsHostChar c := by
  induction points generalizing floor p with
  | nil => exact hp
  | cons n points ih =>
    let reached := { p with distance := p.distance + (n - floor) * (p.placed + 1) }
    have hreached : ∀ c ∈ reached.written, IsHostChar c := hp
    exact ih (n + 1) (isHostChar_passAll hreached label)

/-- The spelling of an admissible label. -/
theorem isHostChar_encode? {label spelling : List Char} (hlabel : label.all isPermitted = true)
    (hspelling : encode? label = some spelling) : ∀ c ∈ spelling, IsHostChar c := by
  unfold encode? at hspelling
  split at hspelling
  · cases hspelling
  · cases hspelling
    intro c hc
    rcases List.mem_append.mp hc with hc | hdigits
    · rcases List.mem_append.mp hc with hbasic | hseparator
      · obtain ⟨hmem, hascii⟩ := List.mem_filter.mp hbasic
        exact ⟨hascii, List.all_eq_true.mp hlabel c hmem⟩
      · have hhyphen : c = '-' := by
          split at hseparator
          · cases hseparator
          · exact List.mem_singleton.mp hseparator
        rw [hhyphen]
        decide
    · exact isHostChar_placeAll label 0x80 _ (by simp) c hdigits

/-! ## §3 Reading -/

/-- One digit is read: it is one, and no character is lost. -/
theorem step_eq_some {r r' : Reading} {c : Char} (h : r.step c = some r') :
    (∃ value, digitValue? c = some value) ∧ ∀ d ∈ r.chars, d ∈ r'.chars := by
  unfold Reading.step at h
  cases hvalue : digitValue? c with
  | none => simp [hvalue] at h
  | some value =>
    refine ⟨⟨value, rfl⟩, fun d hd => ?_⟩
    simp only [hvalue, Option.bind_eq_bind, Option.bind_some] at h
    split at h
    · cases h
      exact hd
    · split at h
      · cases h
        exact List.subset_insertIdx _ _ _ hd
      · cases h

theorem foldlM_step_eq_some {digits : List Char} {r r' : Reading}
    (h : digits.foldlM Reading.step r = some r') :
    (∀ c ∈ digits, IsHostChar c.toLower) ∧ ∀ d ∈ r.chars, d ∈ r'.chars := by
  induction digits generalizing r with
  | nil =>
    cases h
    exact ⟨by simp, fun d hd => hd⟩
  | cons c digits ih =>
    rw [List.foldlM_cons] at h
    obtain ⟨next, hnext, hrest⟩ := Option.bind_eq_some_iff.mp h
    obtain ⟨⟨value, hvalue⟩, hkept⟩ := step_eq_some hnext
    obtain ⟨hdigits, hkeptLater⟩ := ih hrest
    refine ⟨fun d hd => ?_, fun d hd => hkeptLater d (hkept d hd)⟩
    rcases List.mem_cons.mp hd with rfl | hd
    · exact isHostChar_of_digitValue? hvalue
    · exact hdigits d hd

/-- Every character stands before the last hyphen or behind it, or is a hyphen. -/
theorem mem_splitLastHyphen {spelling : List Char} {c : Char} (hc : c ∈ spelling) :
    c ∈ (splitLastHyphen spelling).1 ∨ c = '-' ∨ c ∈ (splitLastHyphen spelling).2 := by
  let front := spelling.rdropWhile (· != '-')
  let behind := spelling.rtakeWhile (· != '-')
  have hsplit : front ++ behind = spelling := List.rdropWhile_append_rtakeWhile
  have hbasic : (splitLastHyphen spelling).1 = front.dropLast := by
    have hlength : spelling.length - behind.length - 1 = front.length - 1 := by
      rw [← hsplit, List.length_append]
      omega
    calc (splitLastHyphen spelling).1
        = spelling.take (spelling.length - behind.length - 1) := rfl
      _ = (front ++ behind).take (front.length - 1) := by rw [hlength, hsplit]
      _ = front.dropLast := by
        rw [List.take_append_of_le_length (by omega), List.dropLast_eq_take]
  rw [hbasic]
  rw [← hsplit] at hc
  rcases List.mem_append.mp hc with hfront | hbehind
  · have hne : front ≠ [] := List.ne_nil_of_mem hfront
    have hlast : front.getLast hne = '-' := by
      simpa using List.rdropWhile_last_not (· != '-') spelling hne
    rw [← List.dropLast_append_getLast hne, hlast] at hfront
    rcases List.mem_append.mp hfront with hbefore | hhyphen
    · exact .inl hbefore
    · exact .inr (.inl (List.mem_singleton.mp hhyphen))
  · exact .inr (.inr hbehind)

/-- A spelling in ASCII of an admissible label, in small letters. -/
theorem isHostChar_of_decode? {spelling unicode : List Char} (hascii : spelling.all isAscii = true)
    (hdecode : decode? spelling = some unicode) (hunicode : unicode.all isPermitted = true) :
    ∀ c ∈ spelling, IsHostChar c.toLower := by
  unfold decode? at hdecode
  split at hdecode
  · cases hdecode
  · simp only at hdecode
    split at hdecode
    · rename_i r hr
      split at hdecode
      · cases hdecode
        obtain ⟨hdigits, hkept⟩ := foldlM_step_eq_some hr
        intro c hc
        rcases mem_splitLastHyphen hc with hbasic | rfl | hdigit
        · have hc : IsHostChar c := ⟨List.all_eq_true.mp hascii c hc,
            List.all_eq_true.mp hunicode c (hkept c hbasic)⟩
          exact hc.toLower
        · decide
        · exact hdigits c hdigit
      · cases hdecode
    · cases hdecode

end Punycode

/-! ## §4 Labels and names -/

theorem isPermitted_of_isAdmissible {label : List Char} (h : isAdmissible label = true) :
    label.all isPermitted = true := by
  simp only [isAdmissible, Bool.and_eq_true] at h
  exact h.1.1.1

theorem isHostChar_announcement : ∀ c ∈ announcement, IsHostChar c := by
  intro c hc
  fin_cases hc <;> decide

/-- The ASCII form of a label. -/
theorem isHostChar_label {label : List Char} {both : Label} (h : Label.of? label = some both) :
    ∀ c ∈ both.ascii, IsHostChar c := by
  unfold Label.of? at h
  split at h
  · -- the label is announced and stays as it is, in small letters
    rename_i spelling hspelling
    have hlabel : label = announcement ++ spelling := dropRun?_eq_some_iff.mp hspelling
    split at h
    · rename_i hascii
      split at h
      · rename_i unicode hdecode
        split at h
        · rename_i hplain
          cases h
          have hadmissible : isAdmissible unicode = true := by
            simp only [Bool.and_eq_true] at hplain
            exact hplain.1
          have hascii' : spelling.all isAscii = true := by
            rw [hlabel, List.all_append, Bool.and_eq_true] at hascii
            exact hascii.2
          rw [hlabel]
          intro c hc
          obtain ⟨d, hd, rfl⟩ := List.mem_map.mp hc
          rcases List.mem_append.mp hd with hmark | hd
          · exact (isHostChar_announcement d hmark).toLower
          · exact Punycode.isHostChar_of_decode? hascii' hdecode
              (isPermitted_of_isAdmissible hadmissible) d hd
        · cases h
      · cases h
    · cases h
  · split at h
    · cases h
    · rename_i hadmissible
      have hpermitted : label.all isPermitted = true :=
        isPermitted_of_isAdmissible (by simpa using hadmissible)
      split at h
      · rename_i hascii
        cases h
        exact fun c hc => ⟨List.all_eq_true.mp hascii c hc, List.all_eq_true.mp hpermitted c hc⟩
      · obtain ⟨spelling, hspelling, rfl⟩ := Option.map_eq_some_iff.mp h
        intro c hc
        rcases List.mem_append.mp hc with hmark | hc
        · exact isHostChar_announcement c hmark
        · exact Punycode.isHostChar_encode? hpermitted hspelling c hc

/-- **The ASCII form of a host name** has only ASCII characters that a label may contain. -/
theorem isHostChar_asciiForm? {name ascii : List Char} (h : asciiForm? name = some ascii) :
    ∀ c ∈ ascii, IsHostChar c := by
  simp only [asciiForm?, Option.bind_eq_bind, Option.bind_eq_some_iff] at h
  obtain ⟨respelled, _, labels, hlabels, h⟩ := h
  split at h
  · cases h
  · cases h
    intro c hc
    rcases mem_joinWith hc with hdot | ⟨part, hpart, hc⟩
    · rw [List.mem_singleton.mp hdot]
      decide
    · obtain ⟨both, hboth, rfl⟩ := List.mem_map.mp hpart
      obtain ⟨label, _, hlabel⟩ := exists_of_mem_mapM hlabels hboth
      exact isHostChar_label hlabel c hc

/-! ## §5 Names in ASCII -/

theorem isAscii_toLower {c : Char} (h : isAscii c = true) : isAscii c.toLower = true := by
  have hlow : c.toNat < 128 := by simpa [isAscii] using h
  exact forall_char_lt 128 (P := fun c => isAscii c.toLower = true) (by decide) hlow

theorem respell?_of_isAscii {c : Char} {spelling : List Char} (hascii : isAscii c = true)
    (h : respell? c = some spelling) : spelling = [c.toLower] := by
  unfold respell? at h
  rw [if_pos hascii] at h
  split at h
  · cases h
  · exact (Option.some.inj h).symm

theorem flatten_of_isAscii {name : List Char} {respelled : List (List Char)}
    (hascii : ∀ c ∈ name, isAscii c = true)
    (h : List.Forall₂ (fun c spelling => respell? c = some spelling) name respelled) :
    respelled.flatten = lower name := by
  induction h with
  | nil => rfl
  | cons hc _ ih =>
    rw [List.flatten_cons, respell?_of_isAscii (hascii _ List.mem_cons_self) hc,
      ih fun c hc => hascii c (List.mem_cons_of_mem _ hc)]
    rfl

theorem ascii_of_isAscii {label : List Char} {both : Label}
    (hascii : ∀ c ∈ label, isAscii c = true) (hsmall : hasNoCapital label = true)
    (h : Label.of? label = some both) : both.ascii = label := by
  have hall : label.all isAscii = true := List.all_eq_true.mpr hascii
  unfold Label.of? at h
  simp only [hall, if_true] at h
  split at h
  · split at h
    · split at h
      · cases h
        exact hasNoCapital_iff_lower_eq.mp hsmall
      · cases h
    · cases h
  · split at h
    · cases h
    · cases h
      rfl

/-- A name in ASCII that has a form is its own, but for its capitals. -/
theorem asciiForm?_of_isAscii {name ascii : List Char} (hname : ∀ c ∈ name, isAscii c = true)
    (h : asciiForm? name = some ascii) : ascii = lower name := by
  have hlower : ∀ c ∈ lower name, isAscii c = true ∧ c.isUpper = false := by
    intro c hc
    obtain ⟨d, hd, rfl⟩ := List.mem_map.mp hc
    exact ⟨isAscii_toLower (hname d hd), Char.isUpper_toLower_eq_false d⟩
  have hcomposed : Unicode.composed (lower name) = lower name :=
    if_pos (List.all_eq_true.mpr fun c hc => (hlower c hc).1)
  have hpieces : ∀ piece ∈ pieces '.' (lower name),
      (∀ c ∈ piece, isAscii c = true) ∧ hasNoCapital piece = true := by
    intro piece hpiece
    have hmem := fun c (hc : c ∈ piece) => hlower c (mem_of_mem_pieces hpiece hc)
    exact ⟨fun c hc => (hmem c hc).1, hasNoCapital_eq_true_iff.mpr fun c hc => (hmem c hc).2⟩
  simp only [asciiForm?, Option.bind_eq_bind, Option.bind_eq_some_iff] at h
  obtain ⟨respelled, hrespelled, labels, hlabels, h⟩ := h
  rw [flatten_of_isAscii hname (mapM_eq_some_iff.mp hrespelled), hcomposed,
    mapM_eq_some_iff] at hlabels
  -- each label is written as the piece that it was read from
  have hkept : List.Forall₂ (fun piece both => piece = Label.ascii both)
      (pieces '.' (lower name)) labels :=
    ((List.forall₂_and_left _ _).mpr ⟨hpieces, hlabels⟩).imp
      fun piece both ⟨⟨hascii, hsmall⟩, hboth⟩ => (ascii_of_isAscii hascii hsmall hboth).symm
  have hwritten : pieces '.' (lower name) = labels.map Label.ascii := by
    rw [← List.forall₂_eq_eq_eq, List.forall₂_map_right_iff]
    exact hkept
  split at h
  · cases h
  · cases h
    rw [← hwritten, joinWith_pieces]

end DeviceAccess.HostName
