import Mathlib
import DeviceAccess.Proofs.Text.CaseMap
import DeviceAccess.Text.Utf8

/-!
# Octets of characters

A sequence of octets is read as the characters that it is the UTF-8 form of, and as nothing if there
are none (`ofUtf8?_eq_some_iff`). An ASCII character is one octet, and the octets of all others lie
above ASCII. So letters can be made small in octets as well as in characters, whatever the octets
are (`ofUtf8?_lowerOctets`).
-/

namespace DeviceAccess.Text

/-! ## §1 Reading -/

/-- **Octets are read** as the characters whose form they are. -/
theorem ofUtf8?_eq_some_iff {octets : Octets} {cs : List Char} :
    ofUtf8? octets = some cs ↔ octets = utf8 cs := by
  constructor
  · intro hread
    obtain ⟨chars, hchars, rfl⟩ := Option.map_eq_some_iff.mp hread
    have hsome : octets.toByteArray.utf8Decode?.isSome = true := by rw [hchars]; rfl
    have hbytes : chars.toList.utf8Encode = octets.toByteArray := by
      rw [← ByteArray.utf8Encode_get_utf8Decode? (h := hsome)]
      simp [hchars]
    -- both sides are arrays made of lists of octets
    have hlists := congrArg (fun b : ByteArray => b.data.toList) hbytes
    simpa [List.utf8Encode, utf8, List.data_toByteArray] using hlists.symm
  · rintro rfl
    exact ofUtf8?_utf8 cs

theorem textOfUtf8?_eq_some_iff {octets : Octets} {text : String} :
    textOfUtf8? octets = some text ↔ octets = utf8Text text := by
  rw [textOfUtf8?, Option.map_eq_some_iff]
  constructor
  · rintro ⟨cs, hread, rfl⟩
    rw [utf8Text, String.toList_ofList]
    exact ofUtf8?_eq_some_iff.mp hread
  · intro hoctets
    exact ⟨text.toList, ofUtf8?_eq_some_iff.mpr hoctets, String.ofList_toList⟩

theorem textOfUtf8?_eq_none_iff {octets : Octets} :
    textOfUtf8? octets = none ↔ ∀ text, octets ≠ utf8Text text := by
  rw [Option.eq_none_iff_forall_ne_some]
  exact forall_congr' fun text => not_congr textOfUtf8?_eq_some_iff

/-! ## §2 The octets of one character -/

theorem utf8EncodeChar_of_ascii {c : Char} (hc : c.toNat < 0x80) :
    String.utf8EncodeChar c = [UInt8.ofNat c.toNat] :=
  forall_char_lt 0x80
    (P := fun c => String.utf8EncodeChar c = [UInt8.ofNat c.toNat]) (by decide) hc

/-- A character beyond ASCII has no octet in ASCII. -/
theorem le_of_mem_utf8EncodeChar {c : Char} (hc : 0x80 ≤ c.toNat) :
    ∀ b ∈ String.utf8EncodeChar c, 0x80 ≤ b.toNat := by
  have hval : c.val.toNat = c.toNat := rfl
  have hmark : ∀ n, 0x80 ≤ n → n < 0x100 → 0x80 ≤ (UInt8.ofNat n).toNat := by
    intro n hlow hhigh
    rwa [UInt8.toNat_ofNat_of_lt' hhigh]
  intro b hb
  unfold String.utf8EncodeChar at hb
  simp only [hval] at hb
  split_ifs at hb with hone htwo hthree
  · omega
  all_goals simp only [List.mem_cons, List.not_mem_nil, or_false] at hb
  · rcases hb with rfl | rfl
    all_goals apply hmark <;> omega
  · rcases hb with rfl | rfl | rfl
    all_goals apply hmark <;> omega
  · rcases hb with rfl | rfl | rfl | rfl
    all_goals apply hmark <;> omega

/-! ## §3 Small letters in octets -/

/-- An octet with the ASCII capital that it may be made small. -/
def lowerOctet (b : UInt8) : UInt8 := if 0x41 ≤ b.toNat ∧ b.toNat ≤ 0x5A then b + 0x20 else b

/-- Octets with their ASCII capitals made small. -/
def lowerOctets (octets : Octets) : Octets := octets.map lowerOctet

theorem lowerOctets_append (a b : Octets) :
    lowerOctets (a ++ b) = lowerOctets a ++ lowerOctets b :=
  List.map_append

theorem lowerOctet_of_le {b : UInt8} (h : 0x80 ≤ (lowerOctet b).toNat) : lowerOctet b = b := by
  unfold lowerOctet at h ⊢
  split at h
  · rename_i hcapital
    rw [UInt8.toNat_add] at h
    have hshift : (0x20 : UInt8).toNat = 0x20 := rfl
    omega
  · rename_i hother
    exact if_neg hother

theorem toLower_of_le {c : Char} (hc : 0x80 ≤ c.toNat) : c.toLower = c := by
  apply Char.toLower_eq_of_not_isUpper
  intro hupper
  have hrange := toNat_of_isUpper hupper
  omega

theorem lowerOctets_utf8EncodeChar (c : Char) :
    lowerOctets (String.utf8EncodeChar c) = String.utf8EncodeChar c.toLower := by
  by_cases hc : c.toNat < 0x80
  · exact forall_char_lt 0x80
      (P := fun c => lowerOctets (String.utf8EncodeChar c) = String.utf8EncodeChar c.toLower)
      (by decide) hc
  · have hhigh : 0x80 ≤ c.toNat := Nat.le_of_not_lt hc
    rw [toLower_of_le hhigh]
    have hkept : ∀ b ∈ String.utf8EncodeChar c, lowerOctet b = id b := by
      intro b hb
      have hb := le_of_mem_utf8EncodeChar hhigh b hb
      unfold lowerOctet
      rw [if_neg (by omega)]
      rfl
    rw [lowerOctets, List.map_congr_left hkept, List.map_id]

theorem lowerOctets_utf8 (cs : List Char) : lowerOctets (utf8 cs) = utf8 (lower cs) := by
  induction cs with
  | nil => rfl
  | cons c cs ih =>
    have hcons : ∀ (d : Char) (ds : List Char), utf8 (d :: ds) = String.utf8EncodeChar d ++ utf8 ds :=
      fun _ _ => List.flatMap_cons
    show lowerOctets (utf8 (c :: cs)) = utf8 (c.toLower :: lower cs)
    rw [hcons, hcons, lowerOctets_append, lowerOctets_utf8EncodeChar, ih]

/-- Octets that become those of a character are those of a character. -/
theorem exists_utf8EncodeChar {octets : Octets} {d : Char}
    (h : lowerOctets octets = String.utf8EncodeChar d) : ∃ c, octets = String.utf8EncodeChar c := by
  by_cases hd : d.toNat < 0x80
  · -- one octet, which is in ASCII before as well
    rw [utf8EncodeChar_of_ascii hd] at h
    obtain ⟨b, rfl, hb⟩ := List.map_eq_singleton_iff.mp h
    have hlow : b.toNat < 0x80 := by
      by_contra hhigh
      have hkept : lowerOctet b = b := by
        unfold lowerOctet
        exact if_neg (by omega)
      rw [hkept] at hb
      have hsize : d.toNat < UInt8.size := lt_trans hd (by decide)
      have hsame := congrArg UInt8.toNat hb
      rw [UInt8.toNat_ofNat_of_lt' hsize] at hsame
      omega
    have hchar : (Char.ofNat b.toNat).toNat = b.toNat := by
      have hvalid : b.toNat.isValidChar := .inl (by omega)
      rw [Char.toNat_ofNat, if_pos hvalid]
    refine ⟨Char.ofNat b.toNat, ?_⟩
    rw [utf8EncodeChar_of_ascii (by omega), hchar, UInt8.ofNat_toNat]
  · refine ⟨d, ?_⟩
    have hkept : ∀ b ∈ octets, lowerOctet b = id b := by
      intro b hb
      apply lowerOctet_of_le
      apply le_of_mem_utf8EncodeChar (Nat.le_of_not_lt hd)
      rw [← h]
      exact List.mem_map_of_mem hb
    rw [← h, lowerOctets, List.map_congr_left hkept, List.map_id]

theorem exists_utf8_of_lowerOctets {octets : Octets} {ds : List Char}
    (h : lowerOctets octets = utf8 ds) : ∃ cs, octets = utf8 cs := by
  induction ds generalizing octets with
  | nil => exact ⟨[], List.map_eq_nil_iff.mp h⟩
  | cons d ds ih =>
    obtain ⟨front, rest, rfl, hfront, hrest⟩ := List.map_eq_append_iff.mp h
    obtain ⟨c, rfl⟩ := exists_utf8EncodeChar hfront
    obtain ⟨cs, rfl⟩ := ih hrest
    exact ⟨c :: cs, rfl⟩

/-- **Small letters in octets** are small letters in the characters that are read, and what cannot be
read stays unreadable. -/
theorem ofUtf8?_lowerOctets (octets : Octets) :
    ofUtf8? (lowerOctets octets) = (ofUtf8? octets).map lower := by
  cases hread : ofUtf8? octets with
  | some cs =>
    rw [ofUtf8?_eq_some_iff.mp hread, lowerOctets_utf8, ofUtf8?_utf8]
    rfl
  | none =>
    rw [Option.map_none, Option.eq_none_iff_forall_ne_some]
    intro ds hds
    obtain ⟨cs, rfl⟩ := exists_utf8_of_lowerOctets (ofUtf8?_eq_some_iff.mp hds)
    rw [ofUtf8?_utf8] at hread
    cases hread

end DeviceAccess.Text
