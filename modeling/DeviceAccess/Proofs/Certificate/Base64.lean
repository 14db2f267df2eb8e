import Mathlib
import DeviceAccess.Certificate.Base64
import DeviceAccess.Proofs.Text.Case

/-!
# Octets and their letters

The letters of octets are read as these octets, and no other letters are: of all spellings that
differ in dropped bits or in padding only the canonical one is read.

- `decode?_encode` reads what was written, group by group.
- `encode_of_decode?` is the way back, and `decode?_eq_some_iff` puts both together.
- `mem_encode` says what can occur among the letters.
-/

namespace DeviceAccess.Base64

open Text

/-! ## §1 Single letters -/

theorem value?_letter {n : Nat} (hn : n < 64) : value? (letter n) = some n := by
  have hall : ∀ n < 64, value? (letter n) = some n := by decide
  exact hall n hn

theorem letter_ne_padding {n : Nat} (hn : n < 64) : letter n ≠ '=' := by
  intro hpadding
  have hvalue := value?_letter hn
  rw [hpadding] at hvalue
  cases hvalue

/-- Only characters of ASCII have a value. -/
theorem value?_of_le {c : Char} (hc : 0x80 ≤ c.toNat) : value? c = none := by
  have habove : ∀ d : Char, d.toNat < 0x80 → ¬c ≤ d := by
    intro d hd hle
    have hnat : c.toNat ≤ d.toNat := hle
    omega
  have hplus : c ≠ '+' := by
    intro h
    simp [h] at hc
  have hslash : c ≠ '/' := by
    intro h
    simp [h] at hc
  unfold value?
  simp [habove 'Z' (by decide), habove 'z' (by decide), habove '9' (by decide), hplus, hslash]

/-- A letter with a value is the letter of that value. -/
theorem letter_of_value? {c : Char} {n : Nat} (h : value? c = some n) : n < 64 ∧ letter n = c := by
  have hlow : c.toNat < 0x80 := by
    by_contra hhigh
    rw [value?_of_le (Nat.le_of_not_lt hhigh)] at h
    cases h
  have hall : (value? c).all (fun n => n < 64 && letter n == c) = true :=
    forall_char_lt 0x80 (P := fun c => (value? c).all (fun n => n < 64 && letter n == c) = true)
      (by decide) hlow
  simpa [h] using hall

/-! ## §2 Groups -/

section

variable {w x y z : Nat}

/-- A full group stands for three octets. -/
theorem decode?_full (hw : w < 64) (hx : x < 64) (hy : y < 64) (hz : z < 64) (rest : List Char) :
    decode? (letter w :: letter x :: letter y :: letter z :: rest) =
      (decode? rest).map fun behind =>
        let n := ((w * 64 + x) * 64 + y) * 64 + z
        UInt8.ofNat (n / 65536) :: UInt8.ofNat (n / 256 % 256) :: UInt8.ofNat (n % 256) ::
          behind := by
  have hlast := letter_ne_padding hz
  rw [decode?]
  · simp [value?_letter hw, value?_letter hx, value?_letter hy, value?_letter hz]
    cases decode? rest <;> rfl
  · intro _ h
    exact absurd h hlast
  · intro h
    exact absurd h hlast

/-- A group with one letter of padding stands for two octets, and drops two bits. -/
theorem decode?_two (hw : w < 64) (hx : x < 64) (hy : y < 64) :
    decode? [letter w, letter x, letter y, '='] =
      if y % 4 = 0 then
        let n := (w * 64 + x) * 16 + y / 4
        some [UInt8.ofNat (n / 256), UInt8.ofNat (n % 256)]
      else none := by
  have hthird := letter_ne_padding hy
  rw [decode?]
  · simp [value?_letter hw, value?_letter hx, value?_letter hy]
  · intro h
    exact absurd h hthird

/-- A group with two letters of padding stands for one octet, and drops four bits. -/
theorem decode?_one (hw : w < 64) (hx : x < 64) :
    decode? [letter w, letter x, '=', '='] =
      if x % 16 = 0 then some [UInt8.ofNat (w * 4 + x / 16)] else none := by
  rw [decode?]
  simp [value?_letter hw, value?_letter hx]

end

/-! ## §3 Reading what was written -/

theorem ofNat_eq {b : UInt8} {n : Nat} (h : n = b.toNat) : UInt8.ofNat n = b := by
  rw [h, UInt8.ofNat_toNat]

/-- **Reading undoes writing.** -/
theorem decode?_encode (octets : Octets) : decode? (encode octets) = some octets := by
  -- the recursion of writing: three octets at a time, and one or two that are left
  fun_induction encode octets with
  | case1 a b c rest n ih =>
    have ha := a.toNat_lt
    have hb := b.toNat_lt
    have hc := c.toNat_lt
    have hn : n = (a.toNat * 256 + b.toNat) * 256 + c.toNat := rfl
    have hnumber : ((n / 262144 * 64 + n / 4096 % 64) * 64 + n / 64 % 64) * 64 + n % 64 = n := by
      omega
    rw [decode?_full (by omega) (by omega) (by omega) (by omega), ih, Option.map_some]
    simp only [hnumber]
    rw [ofNat_eq (b := a) (by omega), ofNat_eq (b := b) (by omega), ofNat_eq (b := c) (by omega)]
  | case2 a b n =>
    have ha := a.toNat_lt
    have hb := b.toNat_lt
    have hn : n = a.toNat * 256 + b.toNat := rfl
    -- two of the six bits of the third letter are dropped, and they are zero
    have hdropped : n % 16 * 4 % 4 = 0 := by omega
    have hnumber : (n / 1024 * 64 + n / 16 % 64) * 16 + n % 16 * 4 / 4 = n := by omega
    rw [decode?_two (by omega) (by omega) (by omega), if_pos hdropped]
    simp only [hnumber]
    rw [ofNat_eq (b := a) (by omega), ofNat_eq (b := b) (by omega)]
  | case3 a =>
    have ha := a.toNat_lt
    have hdropped : a.toNat % 4 * 16 % 16 = 0 := by omega
    rw [decode?_one (by omega) (by omega), if_pos hdropped, ofNat_eq (b := a) (by omega)]
  | case4 => rfl

/-! ## §4 Only what was written is read -/

theorem toNat_ofNat {n : Nat} (hn : n < 256) : (UInt8.ofNat n).toNat = n :=
  UInt8.toNat_ofNat_of_lt' hn

/-- Letters that are read are the canonical ones of what they are read as. -/
theorem encode_of_decode? {cs : List Char} {octets : Octets} (h : decode? cs = some octets) :
    encode octets = cs := by
  fun_induction decode? cs generalizing octets with
  | case1 =>
    cases h
    rfl
  | case2 w x =>
    simp only [Option.bind_eq_bind, Option.bind_eq_some_iff] at h
    obtain ⟨v, hv, u, hu, h⟩ := h
    obtain ⟨hvlt, rfl⟩ := letter_of_value? hv
    obtain ⟨hult, rfl⟩ := letter_of_value? hu
    split at h
    · rename_i hdropped
      cases h
      have hfirst : (v * 4 + u / 16) / 4 = v := by omega
      have hsecond : (v * 4 + u / 16) % 4 * 16 = u := by omega
      rw [encode, toNat_ofNat (by omega), hfirst, hsecond]
    · cases h
  | case3 w x y =>
    simp only [Option.bind_eq_bind, Option.bind_eq_some_iff] at h
    obtain ⟨v, hv, u, hu, t, ht, h⟩ := h
    obtain ⟨hvlt, rfl⟩ := letter_of_value? hv
    obtain ⟨hult, rfl⟩ := letter_of_value? hu
    obtain ⟨htlt, rfl⟩ := letter_of_value? ht
    split at h
    · rename_i hdropped
      cases h
      have hnumber : ∀ n : Nat, n / 256 * 256 + n % 256 = n := by omega
      rw [encode, toNat_ofNat (by omega), toNat_ofNat (by omega), hnumber]
      have hfirst : ((v * 64 + u) * 16 + t / 4) / 1024 = v := by omega
      have hsecond : ((v * 64 + u) * 16 + t / 4) / 16 % 64 = u := by omega
      have hthird : ((v * 64 + u) * 16 + t / 4) % 16 * 4 = t := by omega
      simp only [hfirst, hsecond, hthird]
    · cases h
  | case4 w x y z rest _ _ ih =>
    simp only [Option.bind_eq_bind, Option.bind_eq_some_iff] at h
    obtain ⟨v, hv, u, hu, t, ht, s, hs, behind, hbehind, h⟩ := h
    cases h
    obtain ⟨hvlt, rfl⟩ := letter_of_value? hv
    obtain ⟨hult, rfl⟩ := letter_of_value? hu
    obtain ⟨htlt, rfl⟩ := letter_of_value? ht
    obtain ⟨hslt, rfl⟩ := letter_of_value? hs
    have hnumber : ∀ n : Nat, (n / 65536 * 256 + n / 256 % 256) * 256 + n % 256 = n := by omega
    rw [encode, toNat_ofNat (by omega), toNat_ofNat (by omega), toNat_ofNat (by omega), hnumber,
      ih hbehind]
    have hfirst : (((v * 64 + u) * 64 + t) * 64 + s) / 262144 = v := by omega
    have hsecond : (((v * 64 + u) * 64 + t) * 64 + s) / 4096 % 64 = u := by omega
    have hthird : (((v * 64 + u) * 64 + t) * 64 + s) / 64 % 64 = t := by omega
    have hfourth : (((v * 64 + u) * 64 + t) * 64 + s) % 64 = s := by omega
    simp only [hfirst, hsecond, hthird, hfourth]
  | case5 => cases h

/-- **The letters that are read** as given octets are their canonical ones and no others. -/
theorem decode?_eq_some_iff {cs : List Char} {octets : Octets} :
    decode? cs = some octets ↔ cs = encode octets := by
  constructor
  · intro h
    exact (encode_of_decode? h).symm
  · intro h
    rw [h]
    exact decode?_encode octets

/-! ## §5 What occurs among the letters -/

/-- A character that may occur among the letters of octets. -/
def IsLetter (c : Char) : Prop := (value? c).isSome ∨ c = '='

theorem isLetter_letter {n : Nat} (hn : n < 64) : IsLetter (letter n) := by
  left
  rw [value?_letter hn]
  rfl

theorem mem_encode {octets : Octets} {c : Char} (hc : c ∈ encode octets) : IsLetter c := by
  fun_induction encode octets with
  | case1 a b d rest n ih =>
    have ha := a.toNat_lt
    have hb := b.toNat_lt
    have hd := d.toNat_lt
    have hn : n = (a.toNat * 256 + b.toNat) * 256 + d.toNat := rfl
    simp only [List.mem_cons] at hc
    rcases hc with rfl | rfl | rfl | rfl | hc
    · exact isLetter_letter (by omega)
    · exact isLetter_letter (by omega)
    · exact isLetter_letter (by omega)
    · exact isLetter_letter (by omega)
    · exact ih hc
  | case2 a b n =>
    have ha := a.toNat_lt
    have hb := b.toNat_lt
    have hn : n = a.toNat * 256 + b.toNat := rfl
    simp only [List.mem_cons, List.not_mem_nil, or_false] at hc
    rcases hc with rfl | rfl | rfl | rfl
    · exact isLetter_letter (by omega)
    · exact isLetter_letter (by omega)
    · exact isLetter_letter (by omega)
    · exact .inr rfl
  | case3 a =>
    have ha := a.toNat_lt
    simp only [List.mem_cons, List.not_mem_nil, or_false] at hc
    rcases hc with rfl | rfl | rfl | rfl
    · exact isLetter_letter (by omega)
    · exact isLetter_letter (by omega)
    · exact .inr rfl
    · exact .inr rfl
  | case4 => cases hc

end DeviceAccess.Base64
