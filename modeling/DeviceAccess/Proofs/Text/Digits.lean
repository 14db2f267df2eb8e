import Mathlib
import DeviceAccess.Text.Decimal

/-!
# Digits of numbers

Which characters spell a number, and which number a run of digits denotes. Reading a run from the
front gives what its digits are worth at their places. `WrittenNumber` has the two ways to write a
number that fits a width: with a plus sign and without.
-/

namespace DeviceAccess.Text

/-! ## §1 Spelling -/

/-- The digits of a number are those of the numbers below the base. -/
theorem exists_of_mem_toDigits {base n : Nat} (hbase : 1 < base) {c : Char}
    (hc : c ∈ Nat.toDigits base n) : ∃ d < base, c = Nat.digitChar d := by
  -- the recursion of the digits: all but the last are those of the quotient
  induction n using Nat.strongRecOn with
  | ind n ih =>
    rw [Nat.toDigits_eq_if hbase] at hc
    split at hc
    · rename_i hsmall
      exact ⟨n, hsmall, List.mem_singleton.mp hc⟩
    · rename_i hlarge
      rcases List.mem_append.mp hc with hfront | hlast
      · exact ih (n / base) (Nat.div_lt_self (by omega) hbase) hfront
      · exact ⟨n % base, Nat.mod_lt n (by omega), List.mem_singleton.mp hlast⟩

theorem digitValue?_digitChar {d : Nat} (h : d < 16) : digitValue? (Nat.digitChar d) = some d := by
  have hall : ∀ d < 16, digitValue? (Nat.digitChar d) = some d := by decide
  exact hall d h

/-- The digits of a number, in bases up to sixteen, denote the number. -/
theorem digitsValue_toDigits {base : Nat} (hlow : 1 < base) (hhigh : base ≤ 16) (n : Nat) :
    digitsValue base (Nat.toDigits base n) = n := by
  induction n using Nat.strongRecOn with
  | ind n ih =>
    have hlast : digitValue? (Nat.digitChar (n % base)) = some (n % base) :=
      digitValue?_digitChar (lt_of_lt_of_le (Nat.mod_lt n (by omega)) hhigh)
    rw [Nat.toDigits_eq_if hlow]
    split
    · rename_i hsmall
      rw [Nat.mod_eq_of_lt hsmall] at hlast
      simp [digitsValue, hlast]
    · have hfront := ih (n / base) (Nat.div_lt_self (by omega) hlow)
      calc digitsValue base (Nat.toDigits base (n / base) ++ [Nat.digitChar (n % base)])
          = digitsValue base (Nat.toDigits base (n / base)) * base + n % base := by
            simp only [digitsValue, List.foldl_append, List.foldl_cons, List.foldl_nil, hlast,
              Option.getD_some]
        _ = n / base * base + n % base := by rw [hfront]
        _ = n := Nat.div_add_mod' n base

theorem isHexDigit_of_mem_toDigits {base n : Nat} (hlow : 1 < base) (hhigh : base ≤ 16) {c : Char}
    (hc : c ∈ Nat.toDigits base n) : isHexDigit c = true := by
  obtain ⟨d, hd, rfl⟩ := exists_of_mem_toDigits hlow hc
  rw [isHexDigit, digitValue?_digitChar (lt_of_lt_of_le hd hhigh)]
  rfl

/-- One place at least is always filled. -/
theorem hexText_one (n : Nat) : hexText 1 n = Nat.toDigits 16 n := by
  have hpos : 0 < (Nat.toDigits 16 n).length := Nat.length_toDigits_pos
  have hfill : 1 - (Nat.toDigits 16 n).length = 0 := by omega
  simp [hexText, hfill]

/-! ## §2 Places -/

/-- The number that decimal digits denote, each by its place: the last counts ones, the one before
it tens, and so on. -/
def placeValue (cs : List Char) : Nat :=
  Nat.ofDigits 10 (cs.reverse.map fun c => c.toNat - '0'.toNat)

theorem digitValue?_of_isDigit {c : Char} (h : c.isDigit = true) :
    digitValue? c = some (c.toNat - '0'.toNat) := by
  have hrange : '0' ≤ c ∧ c ≤ '9' := by
    simp only [Char.isDigit, Bool.and_eq_true, decide_eq_true_eq] at h
    exact h
  exact if_pos hrange

theorem digitsValue_eq_placeValue {cs : List Char} (h : ∀ c ∈ cs, c.isDigit = true) :
    digitsValue 10 cs = placeValue cs := by
  -- a digit behind the others makes each of them worth ten times as much
  induction cs using List.reverseRecOn with
  | nil => rfl
  | append_singleton cs c ih =>
    have hfront : digitsValue 10 cs = placeValue cs :=
      ih fun d hd => h d (List.mem_append_left _ hd)
    have hlast : digitValue? c = some (c.toNat - '0'.toNat) :=
      digitValue?_of_isDigit (h c (by simp))
    calc digitsValue 10 (cs ++ [c])
        = digitsValue 10 cs * 10 + (c.toNat - '0'.toNat) := by
          simp only [digitsValue, List.foldl_append, List.foldl_cons, List.foldl_nil, hlast,
            Option.getD_some]
      _ = (c.toNat - '0'.toNat) + 10 * placeValue cs := by rw [hfront]; ring
      _ = placeValue (cs ++ [c]) := by
          simp [placeValue, Nat.ofDigits_cons]

theorem natOfDigits?_eq_some_iff {cs : List Char} {n : Nat} :
    natOfDigits? cs = some n ↔
      cs ≠ [] ∧ (∀ c ∈ cs, c.isDigit = true) ∧ n = placeValue cs := by
  unfold natOfDigits?
  constructor
  · intro hread
    split at hread
    · rename_i hdigits
      obtain ⟨hne, hall⟩ : cs ≠ [] ∧ ∀ c ∈ cs, c.isDigit = true := by simpa using hdigits
      refine ⟨hne, hall, ?_⟩
      rw [← digitsValue_eq_placeValue hall]
      exact (Option.some.inj hread).symm
    · cases hread
  · rintro ⟨hne, hall, rfl⟩
    have hdigits : (!cs.isEmpty && cs.all Char.isDigit) = true := by simpa using ⟨hne, hall⟩
    rw [if_pos hdigits, digitsValue_eq_placeValue hall]

theorem isHexDigit_of_isDigit {c : Char} (h : c.isDigit = true) : isHexDigit c = true := by
  rw [isHexDigit, digitValue?_of_isDigit h]
  rfl

/-- A number reads back from its decimal digits. -/
theorem natOfDigits?_decimal (n : Nat) : natOfDigits? (decimal n) = some n := by
  have hne : decimal n ≠ [] := Nat.toDigits_ne_nil
  have hdigits : ∀ c ∈ decimal n, c.isDigit = true :=
    fun c hc => Nat.isDigit_of_mem_toDigits (by decide) (by decide) hc
  refine natOfDigits?_eq_some_iff.mpr ⟨hne, hdigits, ?_⟩
  rw [← digitsValue_eq_placeValue hdigits]
  exact (digitsValue_toDigits (by decide) (by decide) n).symm

/-! ## §3 Bounded numbers -/

/-- The text is digits, perhaps behind a plus sign, and denotes a number below a bound. -/
inductive WrittenNumber (bound : Nat) : List Char → Nat → Prop where
  | plain {digits : List Char} (hne : digits ≠ []) (hdigits : ∀ c ∈ digits, c.isDigit = true)
      (hfits : placeValue digits < bound) : WrittenNumber bound digits (placeValue digits)
  | signed {digits : List Char} (hne : digits ≠ []) (hdigits : ∀ c ∈ digits, c.isDigit = true)
      (hfits : placeValue digits < bound) : WrittenNumber bound ('+' :: digits) (placeValue digits)

/-- The number that digits denote, if it is below a bound. -/
def digitsBelow? (bound : Nat) (digits : List Char) : Option Nat :=
  (natOfDigits? digits).filter (· < bound)

theorem digitsBelow?_eq_some_iff {bound : Nat} {digits : List Char} {n : Nat} :
    digitsBelow? bound digits = some n ↔
      (digits ≠ [] ∧ (∀ c ∈ digits, c.isDigit = true) ∧ n = placeValue digits) ∧ n < bound := by
  rw [digitsBelow?, Option.filter_eq_some_iff, natOfDigits?_eq_some_iff, decide_eq_true_eq]

theorem boundedNat?_plus (bound : Nat) (digits : List Char) :
    boundedNat? bound ('+' :: digits) = digitsBelow? bound digits := by
  simp only [boundedNat?, digitsBelow?]
  cases natOfDigits? digits <;> simp [Option.filter]

theorem boundedNat?_of_no_plus {bound : Nat} {cs : List Char} (h : ∀ rest, cs ≠ '+' :: rest) :
    boundedNat? bound cs = digitsBelow? bound cs := by
  unfold boundedNat? digitsBelow?
  split
  · exact absurd rfl (h _)
  · cases hread : natOfDigits? cs <;> simp [hread, Option.filter]

theorem boundedNat?_eq_some_iff {bound : Nat} {cs : List Char} {n : Nat} :
    boundedNat? bound cs = some n ↔ WrittenNumber bound cs n := by
  by_cases hplus : ∃ rest, cs = '+' :: rest
  · obtain ⟨rest, rfl⟩ := hplus
    rw [boundedNat?_plus, digitsBelow?_eq_some_iff]
    constructor
    · rintro ⟨⟨hne, hdigits, rfl⟩, hfits⟩
      exact .signed hne hdigits hfits
    · rintro (⟨_, hdigits, _⟩ | ⟨hne, hdigits, hfits⟩)
      · exact absurd (hdigits '+' List.mem_cons_self) (by decide)
      · exact ⟨⟨hne, hdigits, rfl⟩, hfits⟩
  · have hplain : ∀ rest, cs ≠ '+' :: rest := fun rest hcs => hplus ⟨rest, hcs⟩
    rw [boundedNat?_of_no_plus hplain, digitsBelow?_eq_some_iff]
    constructor
    · rintro ⟨⟨hne, hdigits, rfl⟩, hfits⟩
      exact .plain hne hdigits hfits
    · rintro (⟨hne, hdigits, hfits⟩ | ⟨_, _, _⟩)
      · exact ⟨⟨hne, hdigits, rfl⟩, hfits⟩
      · exact absurd rfl (hplain _)

/-- A number below a bound reads back from its decimal digits. -/
theorem boundedNat?_decimal {bound n : Nat} (h : n < bound) :
    boundedNat? bound (decimal n) = some n := by
  have hplain : ∀ rest, decimal n ≠ '+' :: rest := by
    intro rest hplus
    have hmem : '+' ∈ decimal n := hplus ▸ List.mem_cons_self
    exact absurd (Nat.isDigit_of_mem_toDigits (by decide) (by decide) hmem) (by decide)
  rw [boundedNat?_of_no_plus hplain, digitsBelow?, natOfDigits?_decimal]
  simp [h]

end DeviceAccess.Text
