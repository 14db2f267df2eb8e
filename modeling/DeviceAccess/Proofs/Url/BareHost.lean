import Mathlib
import DeviceAccess.Proofs.HostName.AsciiForm
import DeviceAccess.Proofs.Text.Blank
import DeviceAccess.Proofs.Text.Cut
import DeviceAccess.Proofs.Url.Reader

/-!
# Addresses of nothing but a host

The address `https://h/` of a text `h` in which no other part of an address begins. Reading it comes
down to reading the host.

- `Url.IsBareHost` says that `h` is such a text.
- `Url.ofChars_of_isBareHost` is the reading of the address in terms of that of the host.
- `Host.domain_of_isPlain` is the host, where `h` is a name in ASCII without percent spellings.
-/

namespace DeviceAccess

open Text

namespace Url

/-! ## §1 Texts of hosts -/

/-- The text of a host in an address and of nothing else: it has no character that begins or ends
another part, and no colon outside brackets. -/
structure IsBareHost (cs : List Char) : Prop where
  noDelimiter : ∀ c ∈ cs, c ∉ ['/', '\\', '?', '#', '@']
  noPort : (cutHost false cs).2 = []

instance (cs : List Char) : Decidable (IsBareHost cs) :=
  decidable_of_iff
    (cs.all (fun c => c ∉ ['/', '\\', '?', '#', '@']) = true ∧ (cutHost false cs).2 = [])
    ⟨fun ⟨hnoDelimiter, hnoPort⟩ => ⟨by simpa using hnoDelimiter, hnoPort⟩,
      fun ⟨hnoDelimiter, hnoPort⟩ => ⟨by simpa using hnoDelimiter, hnoPort⟩⟩

/-- The characters of a text that count inside an address: all but tabs and line ends. -/
def withoutBreaks (cs : List Char) : List Char :=
  cs.filter fun c => c != '\t' && c != '\n' && c != '\r'

theorem cutHost_eq_of_snd {inBrackets : Bool} {cs : List Char}
    (h : (cutHost inBrackets cs).2 = []) : cutHost inBrackets cs = (cs, []) := by
  induction cs generalizing inBrackets with
  | nil => rfl
  | cons c cs ih =>
    unfold cutHost at h ⊢
    split
    · rename_i hcolon
      simp [hcolon] at h
    · rename_i hcolon
      simp only [hcolon] at h
      simp only [ih h]

/-- A tab or a line end is no bracket and no colon. -/
theorem snd_cutHost_withoutBreaks {inBrackets : Bool} {cs : List Char}
    (h : (cutHost inBrackets cs).2 = []) : (cutHost inBrackets (withoutBreaks cs)).2 = [] := by
  induction cs generalizing inBrackets with
  | nil => rfl
  | cons c cs ih =>
    unfold cutHost at h
    split at h
    · cases h
    · rename_i hcolon
      simp only at h
      unfold withoutBreaks
      rw [List.filter_cons]
      split
      · unfold cutHost
        rw [if_neg hcolon]
        exact ih h
      · rename_i hbreak
        have hbracket : c ≠ '[' ∧ c ≠ ']' := by
          constructor <;>
          · rintro rfl
            exact hbreak (by decide)
        simp only [beq_iff_eq, hbracket.1, hbracket.2, if_false] at h
        exact ih h

namespace IsBareHost

variable {cs : List Char}

theorem withoutBreaks (h : IsBareHost cs) : IsBareHost (withoutBreaks cs) :=
  ⟨fun c hc => h.noDelimiter c (List.mem_of_mem_filter hc), snd_cutHost_withoutBreaks h.noPort⟩

theorem not_mem (h : IsBareHost cs) {c : Char} (hc : c ∈ ['/', '\\', '?', '#', '@']) : c ∉ cs :=
  fun hmem => h.noDelimiter c hmem hc

theorem not_isSlash (h : IsBareHost cs) : ∀ c ∈ cs, isSlash true c = false := by
  intro c hc
  have hslash : c ≠ '/' := ne_of_mem_of_not_mem hc (h.not_mem (by decide))
  have hbackslash : c ≠ '\\' := ne_of_mem_of_not_mem hc (h.not_mem (by decide))
  simp [isSlash, hslash, hbackslash]

end IsBareHost

/-! ## §2 Reading the address -/

theorem cutCredentials_of_not_mem {cs : List Char} (h : '@' ∉ cs) :
    cutCredentials cs = (none, cs) := by
  have hall : ∀ c ∈ cs.reverse, (c != '@') = true := by
    intro c hc
    have hne : c ≠ '@' := ne_of_mem_of_not_mem (List.mem_reverse.mp hc) h
    simpa using hne
  have hbehind : (cs.reverse.takeWhile (· != '@')).reverse = cs := by
    rw [List.takeWhile_eq_self_iff.mpr hall, List.reverse_reverse]
  simp [cutCredentials, hbehind]

theorem significant_https (cs : List Char) :
    significant ("https://".toList ++ cs ++ ['/']) =
      "https://".toList ++ withoutBreaks cs ++ ['/'] := by
  have hends : "https://".toList ++ cs ++ ['/'] = 'h' :: ("ttps://".toList ++ cs) ++ ['/'] := rfl
  rw [significant, hends, stripBoth_of_ends (by decide) (by decide), ← hends, List.filter_append,
    List.filter_append]
  rfl

theorem cutScheme?_https (cs : List Char) :
    cutScheme? ("https://".toList ++ cs) = some ("https", "//".toList ++ cs) := rfl

variable {cs : List Char}

theorem readAuthority_of_isBareHost (h : IsBareHost cs) (hcs : cs ≠ []) (more : Bool) :
    readAuthority "https" more cs =
      (Host.ofChars cs).map fun host => (⟨"", "", some host, none⟩, []) := by
  have hspecial : isSpecial "https" = true := by decide
  have hempty : cs.isEmpty = false := by simpa using hcs
  unfold readAuthority
  simp only [cutCredentials_of_not_mem (h.not_mem (c := '@') (by decide)),
    cutHost_eq_of_snd h.noPort, hempty, hspecial]
  cases Host.ofChars cs with
  | error fault => rfl
  | ok host => rfl

theorem readHierarchy_of_isBareHost (h : IsBareHost cs) (hcs : cs ≠ []) :
    readHierarchy "https" false (cs ++ ['/']) =
      (Host.ofChars cs).map fun host => (some ⟨"", "", some host, none⟩, ['/']) := by
  have hspecial : isSpecial "https" = true := by decide
  have hinside : ∀ c ∈ cs, (!isSlash true c) = true := fun c hc => by simp [h.not_isSlash c hc]
  have hauthority : (cs ++ ['/']).takeWhile (!isSlash true ·) = cs := by
    rw [List.takeWhile_append_of_pos hinside]
    exact List.append_nil cs
  have hpath : (cs ++ ['/']).dropWhile (!isSlash true ·) = ['/'] := by
    rw [List.dropWhile_append_of_pos hinside]
    rfl
  unfold readHierarchy
  simp only [hspecial, hauthority, hpath, readAuthority_of_isBareHost h hcs]
  cases Host.ofChars cs with
  | error fault => rfl
  | ok host => rfl

/-- The address of a host and nothing else. -/
def atRoot (host : Host) : Url :=
  { scheme := "https", authority := some ⟨"", "", some host, none⟩, path := "/", query := none,
    fragment := none }

/-- **Reading the address of a host** is reading the host, without the tabs and line ends in it. -/
theorem ofChars_of_isBareHost (h : IsBareHost cs) :
    ofChars ("https://".toList ++ cs ++ ['/']) = (Host.ofChars (withoutBreaks cs)).map atRoot := by
  unfold ofChars
  rw [significant_https, List.append_assoc, cutScheme?_https]
  have hbare := h.withoutBreaks
  generalize withoutBreaks cs = kept at hbare ⊢
  have huncut : ∀ sep ∈ ['?', '#'], cutAt sep ("//".toList ++ (kept ++ ['/'])) =
      ("//".toList ++ (kept ++ ['/']), none) := by
    intro sep hsep
    have hkept : sep ∉ kept := hbare.not_mem (by grind)
    have hslash : sep ≠ '/' := by
      rintro rfl
      simp at hsep
    exact cutAt_of_not_mem (by simp [hkept, hslash])
  simp only [huncut '#' (by simp), huncut '?' (by simp)]
  by_cases hempty : kept = []
  · -- behind the scheme there are only slashes, and the empty text is no host
    subst hempty
    decide +kernel
  · have hdrop : ("//".toList ++ (kept ++ ['/'])).dropWhile (isSlash true) = kept ++ ['/'] := by
      obtain ⟨c, rest, rfl⟩ := List.exists_cons_of_ne_nil hempty
      have hc : ¬isSlash true c = true := by simp [hbare.not_isSlash c List.mem_cons_self]
      calc ("//".toList ++ (c :: rest ++ ['/'])).dropWhile (isSlash true)
          = (c :: rest ++ ['/']).dropWhile (isSlash true) := rfl
        _ = c :: rest ++ ['/'] := List.dropWhile_cons_of_neg hc
    rw [if_neg (by decide), if_pos (by decide), hdrop]
    rw [Option.isSome_none, Bool.or_false, readHierarchy_of_isBareHost hbare hempty]
    cases Host.ofChars kept with
    | error fault => rfl
    | ok host => rfl

/-! ## §3 Names in ASCII -/

theorem percentDecode_of_not_mem (h : '%' ∉ cs) : percentDecode cs = utf8 cs := by
  induction cs with
  | nil => rfl
  | cons c cs ih =>
    have hc : c ≠ '%' := fun heq => h (heq ▸ List.mem_cons_self)
    have hrest : percentDecode (c :: cs) = utf8 [c] ++ percentDecode cs := by
      rw [percentDecode]
      simp [hc]
    rw [hrest, ih fun hmem => h (List.mem_cons_of_mem c hmem)]
    simp [utf8]

end Url

/-- A name in ASCII without percent spellings is read as it is, but for its capitals. -/
theorem Host.domain_of_isPlain {cs : List Char} {name : String}
    (hplain : ∀ c ∈ cs, HostName.isAscii c = true ∧ c ≠ '%')
    (hread : ofChars cs = .ok (.domain name)) : name.toList = lower cs := by
  obtain ⟨characters, hcharacters, hform⟩ := asciiForm?_of_ofChars hread
  have hpercent : '%' ∉ cs := fun hmem => (hplain _ hmem).2 rfl
  rw [Url.percentDecode_of_not_mem hpercent, ofUtf8?_utf8, Option.some_inj] at hcharacters
  rw [← hcharacters] at hform
  exact HostName.asciiForm?_of_isAscii (fun c hc => (hplain c hc).1) hform

end DeviceAccess
