import Mathlib
import DeviceAccess.Proofs.Text.Digits
import DeviceAccess.Text.Cut

/-!
# Small letters

Making letters small is done once and for all, and the digits of a number have no capital among
them. So the text of an internet address has none, and names may be looked up by their small
letters.
-/

namespace DeviceAccess.Text

/-! ## §1 Making letters small -/

/-- What holds of the characters below a bound, checked one by one. -/
theorem forall_char_lt (bound : Nat) {P : Char → Prop} (h : ∀ n < bound, P (Char.ofNat n))
    {c : Char} (hc : c.toNat < bound) : P c := by
  have hp := h c.toNat hc
  rwa [Char.ofNat_toNat] at hp

/-- A capital is one of twenty-six characters. -/
theorem toNat_of_isUpper {c : Char} (h : c.isUpper = true) : 0x41 ≤ c.toNat ∧ c.toNat ≤ 0x5A := by
  simp only [Char.isUpper, decide_eq_true_eq] at h
  exact ⟨UInt32.le_iff_toNat_le.mp h.1, UInt32.le_iff_toNat_le.mp h.2⟩

theorem hasNoCapital_eq_true_iff {cs : List Char} :
    hasNoCapital cs = true ↔ ∀ c ∈ cs, c.isUpper = false := by
  simp [hasNoCapital]

theorem hasNoCapital_lower (cs : List Char) : hasNoCapital (lower cs) = true := by
  rw [hasNoCapital_eq_true_iff]
  intro c hc
  obtain ⟨d, _, rfl⟩ := List.mem_map.mp hc
  exact Char.isUpper_toLower_eq_false d

/-- A text without capitals is one that stays when letters are made small. -/
theorem hasNoCapital_iff_lower_eq {cs : List Char} : hasNoCapital cs = true ↔ lower cs = cs := by
  constructor
  · intro h
    have hsame : ∀ c ∈ cs, c.toLower = id c := fun c hc =>
      Char.toLower_eq_of_not_isUpper (by simp [hasNoCapital_eq_true_iff.mp h c hc])
    unfold lower
    rw [List.map_congr_left hsame, List.map_id]
  · intro h
    rw [← h]
    exact hasNoCapital_lower cs

theorem lower_lower (cs : List Char) : lower (lower cs) = lower cs :=
  hasNoCapital_iff_lower_eq.mp (hasNoCapital_lower cs)

theorem lowerText_lowerText (s : String) : lowerText (lowerText s) = lowerText s := by
  unfold lowerText
  rw [String.toList_ofList, lower_lower]

/-! ## §2 Texts without capitals -/

theorem hasNoCapital_append (s t : List Char) :
    hasNoCapital (s ++ t) = (hasNoCapital s && hasNoCapital t) := by
  simp [hasNoCapital]

theorem hasNoCapital_joinWith {sep : List Char} {parts : List (List Char)}
    (hsep : hasNoCapital sep = true) (hparts : ∀ p ∈ parts, hasNoCapital p = true) :
    hasNoCapital (joinWith sep parts) = true := by
  induction parts with
  | nil => rfl
  | cons x rest ih =>
    cases rest with
    | nil => exact hparts x (List.mem_singleton_self x)
    | cons y rest =>
      have hx := hparts x List.mem_cons_self
      have hrest := ih fun p hp => hparts p (List.mem_cons_of_mem x hp)
      simp only [joinWith, hasNoCapital_append, hx, hsep, hrest, Bool.and_self]

/-- The digits of a number, in bases up to sixteen. -/
theorem hasNoCapital_toDigits {base : Nat} (hlow : 1 < base) (hhigh : base ≤ 16) (n : Nat) :
    hasNoCapital (Nat.toDigits base n) = true := by
  have hdigit : ∀ d < 16, (Nat.digitChar d).isUpper = false := by decide
  rw [hasNoCapital_eq_true_iff]
  intro c hc
  obtain ⟨d, hd, rfl⟩ := exists_of_mem_toDigits hlow hc
  exact hdigit d (by omega)

theorem hasNoCapital_decimal (n : Nat) : hasNoCapital (decimal n) = true :=
  hasNoCapital_toDigits (by decide) (by decide) n

theorem hasNoCapital_hexText (width n : Nat) : hasNoCapital (hexText width n) = true := by
  have hzeros : ∀ k, hasNoCapital (List.replicate k '0') = true := by
    intro k
    rw [hasNoCapital_eq_true_iff]
    intro c hc
    rw [List.eq_of_mem_replicate hc]
    rfl
  unfold hexText
  rw [hasNoCapital_append, hzeros, hasNoCapital_toDigits (by decide) (by decide)]
  rfl

end DeviceAccess.Text
