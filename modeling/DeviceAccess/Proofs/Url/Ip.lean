import Mathlib
import DeviceAccess.Proofs.Fault
import DeviceAccess.Proofs.Text.Cut
import DeviceAccess.Proofs.Text.Digits
import DeviceAccess.Url.Ip

/-!
# Internet addresses read back

An internet address reads back from the form in which it is written, also where `::` stands for a
run of zeros. And what is read as an address consists of hexadecimal digits, dots and colons, so
that no other part of a text can be taken for a part of one.

- `Ipv4.ofDotted?_toChars` and `Ipv6.ofChars?_toChars` are the laws for the two kinds, and
  `Ip.ofChars?_v4` and `Ip.ofChars?_v6` those for the reader that takes both.
- `Ip.isAddressChar_of_ofChars?` is the alphabet of the texts that are read.
-/

namespace DeviceAccess

open Text

/-! ## §1 Four octets -/

namespace Ipv4

variable {cs : List Char} {address : Ipv4}

theorem strictOctet?_decimal {n : Nat} (h : n < 256) : strictOctet? (decimal n) = some n := by
  have hall : ∀ n < 256, strictOctet? (decimal n) = some n := by decide +kernel
  exact hall n h

/-- An octet has digits and nothing else. -/
theorem isDigit_of_strictOctet? {n : Nat} (h : strictOctet? cs = some n) :
    cs ≠ [] ∧ ∀ c ∈ cs, c.isDigit = true := by
  unfold strictOctet? at h
  split at h
  · rename_i n hread
    obtain ⟨hne, hdigits, -⟩ := natOfDigits?_eq_some_iff.mp hread
    exact ⟨hne, hdigits⟩
  · cases h

/-- Each part of a dotted form is an octet. -/
theorem strictOctet?_of_mem_pieces (h : ofDotted? cs = some address) {part : List Char}
    (hpart : part ∈ pieces '.' cs) : ∃ n, strictOctet? part = some n := by
  unfold ofDotted? at h
  split at h
  · rename_i hread
    obtain ⟨n, -, hn⟩ := exists_of_mapM_mem hread hpart
    exact ⟨n, hn⟩
  · cases h

/-- A dotted form has digits and dots and nothing else. -/
theorem isDigit_or_dot_of_ofDotted? (h : ofDotted? cs = some address) :
    ∀ c ∈ cs, c.isDigit = true ∨ c = '.' := by
  intro c hc
  rw [← joinWith_pieces '.' cs] at hc
  rcases mem_joinWith hc with hdot | ⟨part, hpart, hc⟩
  · exact .inr (List.mem_singleton.mp hdot)
  · obtain ⟨n, hn⟩ := strictOctet?_of_mem_pieces h hpart
    exact .inl ((isDigit_of_strictOctet? hn).2 c hc)

/-- The octets of an address make it up. -/
theorem ofOctets_of_value (address : Ipv4) :
    ofOctets (address.value.toNat / 0x100_0000) (address.value.toNat / 0x1_0000 % 256)
      (address.value.toNat / 256 % 256) (address.value.toNat % 256) = address := by
  have hnat : ((address.value.toNat / 0x100_0000 * 256 + address.value.toNat / 0x1_0000 % 256) *
      256 + address.value.toNat / 256 % 256) * 256 + address.value.toNat % 256 =
      address.value.toNat := by
    omega
  rw [ofOctets, hnat, UInt32.ofNat_toNat]

/-- **An address of four octets reads back.** -/
theorem ofDotted?_toChars (address : Ipv4) : ofDotted? address.toChars = some address := by
  have hvalue : address.value.toNat < 0x1_0000_0000 := address.value.toNat_lt
  have hparts : ∀ octets : List Nat, ∀ part ∈ octets.map decimal, '.' ∉ part := by
    intro octets part hpart hdot
    obtain ⟨n, -, rfl⟩ := List.mem_map.mp hpart
    exact absurd (Nat.isDigit_of_mem_toDigits (by decide) (by decide) hdot) (by decide)
  unfold ofDotted? toChars
  rw [pieces_joinWith (by simp) (hparts _)]
  simp only [List.map_cons, List.map_nil, List.mapM_cons, List.mapM_nil]
  rw [strictOctet?_decimal (by omega), strictOctet?_decimal (by omega),
    strictOctet?_decimal (by omega), strictOctet?_decimal (by omega)]
  exact congrArg some (ofOctets_of_value address)

end Ipv4

/-! ## §2 Runs of zeros -/

namespace Ipv6

/-- At a place of a list there are as many zeros as a run says. -/
def IsZeroRun (groups : List UInt16) (run : Nat × Nat) : Prop :=
  groups = groups.take run.1 ++ List.replicate run.2 0 ++ groups.drop (run.1 + run.2)

theorem isZeroRun_zeroRun (front rest : List UInt16) :
    IsZeroRun (front ++ rest) (front.length, zeroRun rest) := by
  have hzeros : rest.takeWhile (· == 0) = List.replicate (zeroRun rest) 0 :=
    List.eq_replicate_of_mem fun g hg => by simpa using List.mem_takeWhile_imp hg
  have hbehind : (front ++ rest).drop (front.length + zeroRun rest) = rest.dropWhile (· == 0) := by
    rw [List.drop_length_add_append]
    calc rest.drop (zeroRun rest)
        = (rest.takeWhile (· == 0) ++ rest.dropWhile (· == 0)).drop (zeroRun rest) := by
          rw [List.takeWhile_append_dropWhile]
      _ = rest.dropWhile (· == 0) := List.drop_left' rfl
  rw [IsZeroRun, List.take_left' rfl, hbehind, ← hzeros, List.append_assoc,
    List.takeWhile_append_dropWhile]

/-- Looking for a longer run keeps a run of zeros. -/
theorem isZeroRun_go (front rest : List UInt16) {best : Nat × Nat}
    (hbest : IsZeroRun (front ++ rest) best) :
    IsZeroRun (front ++ rest) (longestZeroRun.go front.length rest best) := by
  induction rest generalizing front best with
  | nil => exact hbest
  | cons g rest ih =>
    have hlength : front.length + 1 = (front ++ [g]).length := by simp
    rw [longestZeroRun.go, hlength, List.append_cons]
    refine ih (front ++ [g]) ?_
    rw [← List.append_cons]
    split
    · exact isZeroRun_zeroRun front (g :: rest)
    · exact hbest

theorem isZeroRun_longestZeroRun (groups : List UInt16) :
    IsZeroRun groups (longestZeroRun groups) :=
  isZeroRun_go [] groups rfl

/-! ## §3 Eight groups -/

/-- Groups as they are written between colons. -/
def shown (groups : List UInt16) : List Char :=
  joinWith [':'] (groups.map fun g => hexText 1 g.toNat)

theorem group?_hexText (g : UInt16) : group? (hexText 1 g.toNat) = some g := by
  have hvalue : g.toNat < 16 ^ 4 := g.toNat_lt
  have hne : Nat.toDigits 16 g.toNat ≠ [] := Nat.toDigits_ne_nil
  have hlength : (Nat.toDigits 16 g.toNat).length ≤ 4 :=
    (Nat.length_toDigits_le_iff (by decide) (by decide)).mpr hvalue
  have hdigits : (Nat.toDigits 16 g.toNat).all isHexDigit = true :=
    List.all_eq_true.mpr fun c hc => isHexDigit_of_mem_toDigits (by decide) (by decide) hc
  rw [hexText_one, group?, digitsValue_toDigits (by decide) (by decide), UInt16.ofNat_toNat]
  simp [hne, hlength, hdigits]

theorem not_mem_hexText {c : Char} (hc : isHexDigit c = false) (n : Nat) : c ∉ hexText 1 n := by
  intro hmem
  rw [hexText_one] at hmem
  rw [isHexDigit_of_mem_toDigits (by decide) (by decide) hmem] at hc
  cases hc

theorem pieces_shown {groups : List UInt16} (hne : groups ≠ []) :
    pieces ':' (shown groups) = groups.map fun g => hexText 1 g.toNat := by
  refine pieces_joinWith (by simpa using hne) fun part hpart => ?_
  obtain ⟨g, -, rfl⟩ := List.mem_map.mp hpart
  exact not_mem_hexText (by decide) g.toNat

theorem hexText_ne_nil (n : Nat) : hexText 1 n ≠ [] := by
  rw [hexText_one]
  exact Nat.toDigits_ne_nil

theorem go_map_hexText (dottedTail : Bool) (groups : List UInt16) :
    groups?.go dottedTail (groups.map fun g => hexText 1 g.toNat) = some groups := by
  induction groups with
  | nil => rfl
  | cons g rest ih =>
    cases rest with
    | nil => simp [groups?.go, group?_hexText]
    | cons next rest =>
      simp only [List.map_cons] at ih ⊢
      rw [groups?.go, group?_hexText, ih]
      exact List.cons_ne_nil _ _

/-- Groups read back, with or without a place for octets at the end. -/
theorem groups?_shown (dottedTail : Bool) (groups : List UInt16) :
    groups? dottedTail (shown groups) = some groups := by
  cases groups with
  | nil => rfl
  | cons g rest =>
    have hne : (shown (g :: rest)).isEmpty = false := by
      obtain ⟨more, hmore⟩ := exists_joinWith_cons [':'] (hexText 1 g.toNat)
        (rest.map fun g => hexText 1 g.toNat)
      rw [shown, List.map_cons, hmore]
      simp [hexText_ne_nil]
    rw [groups?, hne, pieces_shown (List.cons_ne_nil g rest)]
    exact go_map_hexText dottedTail (g :: rest)

/-- Between two colons that stand together there is an empty piece, which is not the last. -/
theorem exists_pieces_of_infix {cs : List Char} (h : [':', ':'] <:+: cs) :
    ∃ front back, pieces ':' cs = front ++ [] :: back ∧ back ≠ [] := by
  obtain ⟨earlier, later, rfl⟩ := h
  refine ⟨pieces ':' earlier, pieces ':' later, ?_, pieces_ne_nil ':' later⟩
  have hsplit : earlier ++ [':', ':'] ++ later = earlier ++ ':' :: ([] ++ ':' :: later) := by simp
  rw [hsplit, pieces_append_cons, pieces_append_cons]
  rfl

/-- No two colons stand together in groups, nor where a colon follows them. -/
theorem not_infix_shown (groups : List UInt16) : ¬[':', ':'] <:+: shown groups ++ [':'] := by
  intro hrun
  obtain ⟨front, back, hpieces, hback⟩ := exists_pieces_of_infix hrun
  rw [pieces_append_cons] at hpieces
  cases groups with
  | nil =>
    have hlength := hrun.length_le
    simp [shown, joinWith] at hlength
  | cons g rest =>
    rw [pieces_shown (List.cons_ne_nil g rest)] at hpieces
    -- the empty piece is none of the groups, so it is the last of all
    have hlast : [] ∈ (g :: rest).map fun g => hexText 1 g.toNat := by
      obtain ⟨inner, final, rfl⟩ : ∃ inner final, back = inner ++ [final] :=
        ⟨_, _, (List.dropLast_append_getLast hback).symm⟩
      have hend : (pieces ':' ([] : List Char)) = [[]] := rfl
      rw [hend, ← List.cons_append, ← List.append_assoc] at hpieces
      rw [(List.append_inj' hpieces rfl).1]
      simp
    obtain ⟨g, -, hg⟩ := List.mem_map.mp hlast
    exact hexText_ne_nil _ hg

/-- **An address of eight groups reads back.** -/
theorem ofChars?_toChars (address : Ipv6) : ofChars? address.toChars = some address := by
  have hrun := isZeroRun_longestZeroRun address.groups
  have hwritten : address.toChars =
      if (longestZeroRun address.groups).2 < 2 then shown address.groups
      else shown (address.groups.take (longestZeroRun address.groups).1) ++ [':', ':'] ++
        shown (address.groups.drop
          ((longestZeroRun address.groups).1 + (longestZeroRun address.groups).2)) := rfl
  rw [hwritten]
  generalize longestZeroRun address.groups = run at hrun
  obtain ⟨start, count⟩ := run
  simp only [IsZeroRun] at hrun ⊢
  split
  · have hnone : cutAtRun? [':', ':'] (shown address.groups) = none := by
      rw [cutAtRun?_eq_none_iff]
      exact fun hrun => not_infix_shown address.groups
        (hrun.trans (List.prefix_append _ _).isInfix)
    simp [ofChars?, hnone, groups?_shown, ofGroups?, address.length_groups]
  · rename_i hlong
    have hlength := congrArg List.length hrun
    simp only [List.length_append, List.length_replicate, address.length_groups] at hlength
    have hcut : cutAtRun? [':', ':'] (shown (address.groups.take start) ++ [':', ':'] ++
        shown (address.groups.drop (start + count))) =
        some (shown (address.groups.take start), shown (address.groups.drop (start + count))) :=
      cutAtRun?_eq_some_iff.mpr (FirstCut.of_not_infix (not_infix_shown _) _)
    have hzeros : 8 - (address.groups.take start).length -
        (address.groups.drop (start + count)).length = count := by
      omega
    have hfits : (address.groups.take start).length +
        (address.groups.drop (start + count)).length < 8 := by
      omega
    simp only [ofChars?, hcut, groups?_shown, hfits, if_true, hzeros, ← hrun, ofGroups?,
      address.length_groups, dif_pos]

end Ipv6

/-! ## §4 The alphabet -/

/-- A character that the text of an internet address may have. -/
def IsAddressChar (c : Char) : Prop := isHexDigit c = true ∨ c = '.' ∨ c = ':'

instance : DecidablePred IsAddressChar := fun _ => inferInstanceAs (Decidable (_ ∨ _))

/-- Neither the marks around an address nor those of other hosts are characters of addresses. -/
theorem IsAddressChar.not_mark {c : Char} (h : IsAddressChar c) : c ∉ ['/', '[', ']', '*'] := by
  intro hmark
  simp only [List.mem_cons, List.not_mem_nil, or_false] at hmark
  rcases hmark with rfl | rfl | rfl | rfl
  all_goals exact absurd h (by decide)

theorem Ipv4.isAddressChar_of_ofDotted? {cs : List Char} {address : Ipv4}
    (h : ofDotted? cs = some address) : ∀ c ∈ cs, IsAddressChar c := by
  intro c hc
  rcases isDigit_or_dot_of_ofDotted? h c hc with hdigit | hdot
  · exact .inl (isHexDigit_of_isDigit hdigit)
  · exact .inr (.inl hdot)

namespace Ipv6

variable {cs : List Char} {dottedTail : Bool} {groups : List UInt16}

theorem isHexDigit_of_group? {g : UInt16} (h : group? cs = some g) :
    ∀ c ∈ cs, isHexDigit c = true := by
  unfold group? at h
  split at h
  · rename_i hgroup
    simp only [Bool.and_eq_true, List.all_eq_true] at hgroup
    exact hgroup.2
  · cases h

theorem isAddressChar_of_go {parts : List (List Char)}
    (h : groups?.go dottedTail parts = some groups) :
    ∀ part ∈ parts, ∀ c ∈ part, IsAddressChar c := by
  fun_induction groups?.go dottedTail parts generalizing groups with
  | case1 => simp
  | case2 last g hg =>
    intro part hpart c hc
    rw [List.mem_singleton.mp hpart] at hc
    exact .inl (isHexDigit_of_group? hg c hc)
  | case3 last _ _ =>
    obtain ⟨address, haddress, -⟩ := Option.map_eq_some_iff.mp h
    intro part hpart c hc
    rw [List.mem_singleton.mp hpart] at hc
    exact Ipv4.isAddressChar_of_ofDotted? haddress c hc
  | case4 => cases h
  | case5 piece rest _ g gs hrest hg ih =>
    intro part hpart c hc
    rcases List.mem_cons.mp hpart with rfl | hpart
    · exact .inl (isHexDigit_of_group? hg c hc)
    · exact ih hrest part hpart c hc
  | case6 => cases h

theorem isAddressChar_of_groups? (h : groups? dottedTail cs = some groups) :
    ∀ c ∈ cs, IsAddressChar c := by
  unfold groups? at h
  split at h
  · rename_i hempty
    rw [List.isEmpty_iff.mp hempty]
    simp
  · intro c hc
    rw [← joinWith_pieces ':' cs] at hc
    rcases mem_joinWith hc with hcolon | ⟨part, hpart, hc⟩
    · exact .inr (.inr (List.mem_singleton.mp hcolon))
    · exact isAddressChar_of_go h part hpart c hc

/-- Without a colon there are two groups at most. -/
theorem length_of_groups? (hcolon : ':' ∉ cs) (h : groups? dottedTail cs = some groups) :
    groups.length ≤ 2 := by
  have hpieces : pieces ':' cs = [cs] :=
    pieces_joinWith (List.cons_ne_nil cs []) (by simpa using hcolon)
  unfold groups? at h
  split at h
  · cases h
    simp
  · rw [hpieces] at h
    unfold groups?.go at h
    split at h
    · cases h
      simp
    · split at h
      · obtain ⟨address, -, rfl⟩ := Option.map_eq_some_iff.mp h
        simp
      · cases h

theorem length_of_ofGroups? {address : Ipv6} (h : ofGroups? groups = some address) :
    groups.length = 8 := by
  unfold ofGroups? at h
  split at h
  · assumption
  · cases h

/-- An address of eight groups has a colon, and otherwise hexadecimal digits and dots. -/
theorem isAddressChar_of_ofChars? {address : Ipv6} (h : ofChars? cs = some address) :
    ':' ∈ cs ∧ ∀ c ∈ cs, IsAddressChar c := by
  unfold ofChars? at h
  split at h
  · obtain ⟨groups, hgroups, haddress⟩ := Option.bind_eq_some_iff.mp h
    refine ⟨?_, isAddressChar_of_groups? hgroups⟩
    by_contra hcolon
    have hfew := length_of_groups? hcolon hgroups
    have height := length_of_ofGroups? haddress
    omega
  · rename_i front back hcut
    have hjoined := (cutAtRun?_eq_some_iff.mp hcut).joined
    split at h
    · rename_i before after hbefore hafter
      rw [hjoined]
      refine ⟨by simp, fun c hc => ?_⟩
      rcases List.mem_append.mp hc with hc | hc
      · rcases List.mem_append.mp hc with hc | hc
        · exact isAddressChar_of_groups? hbefore c hc
        · simp only [List.mem_cons, List.not_mem_nil, or_false, or_self] at hc
          exact .inr (.inr hc)
      · exact isAddressChar_of_groups? hafter c hc
    · cases h

end Ipv6

/-! ## §5 Addresses of either kind -/

namespace Ip

/-- What is read as an address consists of characters of addresses. -/
theorem isAddressChar_of_ofChars? {cs : List Char} {address : Ip}
    (h : ofChars? cs = some address) : ∀ c ∈ cs, IsAddressChar c := by
  unfold ofChars? at h
  split at h
  · rename_i hdotted
    exact Ipv4.isAddressChar_of_ofDotted? hdotted
  · obtain ⟨groups, hgroups, -⟩ := Option.map_eq_some_iff.mp h
    exact (Ipv6.isAddressChar_of_ofChars? hgroups).2

theorem ofChars?_v4 (address : Ipv4) : ofChars? address.toChars = some (.v4 address) := by
  rw [ofChars?, Ipv4.ofDotted?_toChars]

/-- A colon tells an address of eight groups from one of four octets. -/
theorem ofChars?_v6 (address : Ipv6) : ofChars? address.toChars = some (.v6 address) := by
  have hread := Ipv6.ofChars?_toChars address
  have hcolon := (Ipv6.isAddressChar_of_ofChars? hread).1
  have hdotted : Ipv4.ofDotted? address.toChars = none := by
    cases h : Ipv4.ofDotted? address.toChars with
    | none => rfl
    | some other =>
      rcases Ipv4.isDigit_or_dot_of_ofDotted? h ':' hcolon with hdigit | hdot
      · exact absurd hdigit (by decide)
      · exact absurd hdot (by decide)
  rw [ofChars?, hdotted, hread]
  rfl

end Ip

end DeviceAccess
